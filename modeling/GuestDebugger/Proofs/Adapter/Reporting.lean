import GuestDebugger.Proofs.Adapter.Answers
import GuestDebugger.Proofs.Adapter.Consistency

/-! # Reports of stops

Whoever stops a running guest holds the report of that stop from then on, and sends it message by
message. The accounts of the two parties are kept apart, so a report of one of them cannot stand
for a missing one of the other. Besides, the request loop reports what it was asked for: the entry
of a program, a single step, an address that was reached already. -/

namespace GuestDebugger.Adapter

/-! ### What a report tells -/

/-- The body of an event tells that all of the guest, which has one thread, stopped: what kind of
stop it was, and why in words. -/
structure DescribesStop (kind text : String) (body : Json) : Prop where
  reason : body.field? "reason" = some (.string kind)
  text : body.field? "text" = some (.string text)
  thread : body.field? "threadId" = some (.number (.natural 1))
  all : body.field? "allThreadsStopped" = some (.bool true)

/-- What a report of a stop tells. The end of the guest is told with its code, and that nothing more
will come; any other stop is told by one event. -/
inductive TellsStop : StopReason → List Content → Prop
  | breakpoint {a : Address} {body : Json}
      (describes : DescribesStop "breakpoint" ("breakpoint at " ++ a.text) body) :
      TellsStop (.breakpoint a) [.event "stopped" (some body)]
  | fault {cause : Halt} {body : Json}
      (describes : DescribesStop "exception" ("fault: " ++ cause.message) body) :
      TellsStop (.fault cause) [.event "stopped" (some body)]
  | paused {body : Json} (describes : DescribesStop "pause" "paused" body) :
      TellsStop .paused [.event "stopped" (some body)]
  | exited {code : Int32} {body : Json}
      (told : ((body.field? "exitCode").bind Json.int64?).map Int64.toInt = some code.toInt) :
      TellsStop (.exited code) [.event "exited" (some body), .event "terminated" none]

theorem describesStop_ofFields (kind text : String) :
    DescribesStop kind text (.ofFields [("reason", .string kind), ("threadId", .ofNat threadId),
      ("allThreadsStopped", .bool true), ("text", .string text)]) := by
  refine ⟨?_, ?_, ?_, ?_⟩ <;>
    · rw [Json.field?_ofFields]
      rfl

/-- A code is read back from the number that stands for it. -/
theorem int64?_ofInt (code : Int32) :
    (Json.ofInt code.toInt).int64?.map Int64.toInt = some code.toInt := by
  have least := code.le_toInt
  have most := code.toInt_lt
  by_cases natural : 0 ≤ code.toInt
  · obtain ⟨n, eq⟩ := Int.eq_ofNat_of_zero_le natural
    have bound : n < 2 ^ 31 := by omega
    have fits : (UInt64.ofNat n).toNat < Json.int64Bound := by
      rw [UInt64.toNat_ofNat', Nat.mod_eq_of_lt (by omega)]
      exact Nat.lt_trans bound (by decide)
    rw [eq] at natural ⊢
    simp only [Json.ofInt, natural, if_true, Json.ofNat, Json.int64?, Int.toNat_natCast, fits,
      Option.map_some]
    rw [UInt64.toInt64_ofNat', Int64.toInt_ofNat_of_lt (by omega)]
  · simp only [Json.ofInt, natural, if_false, Json.int64?, Option.map_some]
    rw [Int64.toInt_ofInt_of_le (by omega) (by omega)]

/-- The report of a stop tells its reason. -/
theorem tellsStop_stopReport (reason : StopReason) : TellsStop reason (stopReport reason) := by
  cases reason with
  | breakpoint | fault | paused =>
      constructor
      exact describesStop_ofFields _ _
  | exited code =>
      refine .exited ?_
      rw [Json.field?_ofFields]
      exact int64?_ofInt code

/-! ### What is sent and held -/

/-- The contents of the messages on the wire. -/
def Wire.contents (w : Wire) : List Content := w.messages.toList.map (·.content)

@[simp] theorem contents_send (w : Wire) (content : Content) :
    (w.send content).contents = w.contents ++ [content] := by
  simp [Wire.contents, Wire.send, Wire.takeNumber, Wire.put]

/-- Guest output is passed on in one message, or in none. -/
theorem contents_passOn (w : Wire) (text : String) :
    (Server.passOn w text).contents =
      w.contents ++ if text.isEmpty then [] else [outputEvent text] := by
  simp only [Server.passOn]
  split
  · rw [List.append_nil]
  · exact contents_send w _

/-- The reports among messages. -/
def reports (contents : List Content) : List Content := contents.filter (·.isReport)

theorem reports_append (first second : List Content) :
    reports (first ++ second) = reports first ++ reports second := List.filter_append ..

theorem reports_eq_self {contents : List Content} (all : ∀ c ∈ contents, c.isReport = true) :
    reports contents = contents := List.filter_eq_self.2 all

theorem reports_passedOn (text : String) :
    reports (if text.isEmpty then [] else [outputEvent text]) = [] := by
  split <;> rfl

/-- Who makes a move. -/
inductive Party where
  /-- The request loop. -/
  | loop
  /-- The worker. -/
  | worker
deriving DecidableEq

/-- The one of the two that does not move. -/
def Party.other : Party → Party
  | loop => worker
  | worker => loop

theorem Party.eq_other_of_ne {p q : Party} (ne : p ≠ q) : p = q.other := by
  cases p <;> cases q <;> first | rfl | exact absurd rfl ne

/-- Who makes a move. -/
def Move.party : Move → Party
  | .works => .worker
  | _ => .loop

/-- The message that an action sends. -/
def Action.content? : Action → Option Content
  | .send content => some content
  | _ => none

/-- The messages that the worker is about to send. -/
def WorkerPhase.report : WorkerPhase → List Content
  | .reporting report => report
  | _ => []

namespace Instant

/-- The messages that a party is about to send. -/
def held (i : Instant) : Party → List Content
  | .loop => i.pending.filterMap Action.content?
  | .worker => i.server.program.elim [] (·.worker.report)

/-- The state of the guest, if one is launched. -/
def state? (i : Instant) : Option RunState := i.server.program.map (·.session.state)

end Instant

namespace Happening

/-- Who made the move. -/
def party (h : Happening) : Party := h.move.party

/-- The messages that were sent. -/
def sent (h : Happening) : List Content :=
  h.after.server.wire.contents.drop h.before.server.wire.contents.length

/-- Whether a guest is stopped because its use ends. -/
def shutsDown (h : Happening) : Bool :=
  match h.move, h.before.pending with
  | .performs, .stopRunning :: _ => true
  | _, _ => false

/-- Why a running guest stopped, if its use does not end. -/
def stop? (h : Happening) : Option StopReason :=
  if h.before.state? = some .running ∧ h.shutsDown = false then
    h.after.state?.bind RunState.stopReason?
  else none

/-- What the request loop reports though it stopped nothing. -/
def asked (h : Happening) : List Content :=
  match h.move, h.before.pending with
  | .accepts _ _, _ => reports (h.after.held .loop)
  | .performs, .singleStep :: _ => reports (h.after.held .loop)
  | _, _ => []

/-- The client is told of a stop though nothing stops, as it asked for: at the end of the
configuration, if the guest is where it is to run to, or after a single step. -/
inductive AsksReport (h : Happening) : Prop
  | accepts {around : Surroundings} {r : Request} (move : h.move = .accepts around r)
      (named : r.command = "configurationDone" ∨ r.command = "runTo")
  | performs {rest : List Action} (move : h.move = .performs)
      (pending : h.before.pending = .singleStep :: rest)

/-- The report that becomes due in a move. -/
def due (h : Happening) : List Content :=
  match h.stop? with
  | some reason => stopReport reason
  | none => h.asked

end Happening

/-- The messages that a party sent. -/
def sentBy (party : Party) (past : List Happening) : List Content :=
  (past.filter (·.party = party)).flatMap (·.sent)

/-- The reports that became due to a party. -/
def dueTo (party : Party) (past : List Happening) : List Content :=
  (past.filter (·.party = party)).flatMap (·.due)

theorem sentBy_cons (party : Party) (h : Happening) (past : List Happening) :
    sentBy party (h :: past) = (if h.party = party then h.sent else []) ++ sentBy party past := by
  by_cases mine : h.party = party <;> simp [sentBy, mine]

theorem dueTo_cons (party : Party) (h : Happening) (past : List Happening) :
    dueTo party (h :: past) = (if h.party = party then h.due else []) ++ dueTo party past := by
  by_cases mine : h.party = party <;> simp [dueTo, mine]

/-! ### What a move does to the accounts -/

namespace Happening

variable {h : Happening}

theorem sent_of_contents_eq {new : List Content}
    (eq : h.after.server.wire.contents = h.before.server.wire.contents ++ new) : h.sent = new := by
  rw [sent, eq, List.drop_left]

theorem stop?_eq_none_of_state?_eq (same : h.after.state? = h.before.state?) : h.stop? = none := by
  simp only [stop?, same]
  split
  · rename_i running
    rw [running.1]
    rfl
  · rfl

theorem stop?_eq_none_of_running (running : h.after.state? = some .running) : h.stop? = none := by
  simp only [stop?, running]
  split <;> rfl

theorem stop?_eq_some_iff {reason : StopReason} :
    h.stop? = some reason ↔
      h.before.state? = some .running ∧ h.shutsDown = false ∧
        h.after.state? = some (.stopped reason) := by
  simp only [stop?]
  split
  · rename_i running
    simp only [running, true_and]
    cases h.after.state? with
    | none => simp
    | some state => cases state <;> simp [RunState.stopReason?]
  · rename_i not
    simp only [reduceCtorEq, false_iff]
    rintro ⟨running, shutsDown, -⟩
    exact not ⟨running, shutsDown⟩

theorem stop?_eq_none_of_forall (never : ∀ reason, h.before.state? = some .running →
    h.shutsDown = false → h.after.state? ≠ some (.stopped reason)) : h.stop? = none := by
  refine Option.eq_none_iff_forall_ne_some.2 fun reason stop => ?_
  obtain ⟨running, shutsDown, stopped⟩ := stop?_eq_some_iff.1 stop
  exact never reason running shutsDown stopped

theorem due_eq_asked (unstopped : h.stop? = none) : h.due = h.asked := by
  simp only [due, unstopped]

theorem due_eq_stopReport {reason : StopReason} (stop : h.stop? = some reason) :
    h.due = stopReport reason := by
  simp only [due, stop]

/-- What the accounts of the parties are after a move, told by what they were before. -/
structure Accounted (h : Happening) : Prop where
  /-- What becomes due is held; what is sent is not held any more. -/
  mover : reports h.sent ++ reports (h.after.held h.party) =
    reports (h.before.held h.party) ++ h.due
  /-- The other party goes on holding what it held. -/
  other : h.after.held h.party.other = h.before.held h.party.other
  /-- What becomes due is not sent at once. -/
  ready : h.due ≠ [] → reports (h.after.held h.party) = h.due

/-- A move in which nothing becomes due. -/
theorem accounted_of_asked_eq_nil (new : List Content) (stop : h.stop? = none)
    (asked : h.asked = [])
    (wire : h.after.server.wire.contents = h.before.server.wire.contents ++ new)
    (mover : reports new ++ reports (h.after.held h.party) = reports (h.before.held h.party))
    (other : h.after.held h.party.other = h.before.held h.party.other) :
    h.Accounted := by
  have nothing : h.due = [] := (due_eq_asked stop).trans asked
  refine ⟨?_, other, fun nonempty => absurd nothing nonempty⟩
  rw [nothing, List.append_nil, sent_of_contents_eq wire, mover]

/-- A move in which a report becomes due, by a party that held none. -/
theorem accounted_of_held (new : List Content)
    (wire : h.after.server.wire.contents = h.before.server.wire.contents ++ new)
    (sent : reports new = []) (before : reports (h.before.held h.party) = [])
    (held : reports (h.after.held h.party) = h.due)
    (other : h.after.held h.party.other = h.before.held h.party.other) :
    h.Accounted := by
  refine ⟨?_, other, fun _ => held⟩
  rw [sent_of_contents_eq wire, sent, before, held]

end Happening

/-! ### The request loop -/

theorem filterMap_content?_sends (contents : List Content) :
    (contents.map Action.send).filterMap Action.content? = contents := by
  rw [List.filterMap_map]
  exact List.filterMap_some

namespace Request

variable {r : Request} {s t : Server} {actions : List Action}

/-- A request that stops a running guest has its report to send. -/
theorem Accepted.reports_of_stop (accepted : r.Accepted s t actions)
    (settled : ∀ p, s.program = some p → p.session.Settled) {reason : StopReason}
    (running : s.program.map (·.session.state) = some .running)
    (stopped : t.program.map (·.session.state) = some (.stopped reason)) :
    reports (actions.filterMap Action.content?) = stopReport reason := by
  cases accepted with
  | launched free =>
      rw [free] at running
      cases running
  | @replaced p launched =>
      rw [launched] at running
      have before : p.session.state = .running := Option.some.inj running
      have after := Option.some.inj stopped
      dsimp only [withSession] at after
      rw [(frozen_replaceBreakpoints p.session _ _).state, before] at after
      cases after
  | @toggled p launched _ a =>
      rw [launched] at running
      have before : p.session.state = .running := Option.some.inj running
      have after : (p.session.toggleBreakpoint a).2.state = .stopped reason :=
        Option.some.inj stopped
      rw [(Session.Frozen.toggleBreakpoint p.session a).state, before] at after
      cases after
  | @ranTo p launched _ a =>
      have after : (p.session.runTo a).state.stopReason? = some reason :=
        congrArg RunState.stopReason? (Option.some.inj stopped)
      have told : reports (stopReport reason) = stopReport reason :=
        reports_eq_self fun c => isReport_of_mem_stopReport
      simp only [afterRunTo, after]
      rw [List.filterMap_cons_some (by rfl), filterMap_content?_sends]
      exact told
  | @resumed p launched =>
      rw [launched] at running
      have before : p.session.state = .running := Option.some.inj running
      have still := (settled p launched).startRunning_of_running (by rw [before]; rfl)
      have after : p.session.startRunning.state = .stopped reason := Option.some.inj stopped
      rw [still] at after
      cases after
  | _ =>
      rw [running] at stopped
      cases stopped

/-- No other requests have reports to send. -/
theorem Accepted.named_of_reports (accepted : r.Accepted s t actions)
    (reported : reports (actions.filterMap Action.content?) ≠ []) :
    r.command = "configurationDone" ∨ r.command = "runTo" := by
  cases accepted with
  | configured _ named => exact .inl named
  | ranTo _ named => exact .inr named
  | disconnected =>
      refine absurd ?_ reported
      simp only [Server.shutdownActions]
      split <;> rfl
  | _ => exact absurd rfl reported

/-- A request leaves the worker to its report. -/
theorem Accepted.report_eq (accepted : r.Accepted s t actions) :
    t.program.elim [] (·.worker.report) = s.program.elim [] (·.worker.report) := by
  cases accepted with
  | launched free =>
      rw [free]
      rfl
  | replaced launched | toggled launched | ranTo launched | resumed launched =>
      rw [launched]
      rfl
  | _ => rfl

end Request

namespace Server

variable {s : Server} {action : Action}

theorem waiting_of_atRest {p : Program} (launched : s.program = some p) (rests : s.atRest = true) :
    p.worker = .waiting := by
  cases phase : p.worker with
  | waiting => rfl
  | turning =>
      rw [not_atRest_of_turning launched phase] at rests
      cases rests
  | reporting report =>
      cases report <;>
        simp [atRest, workerStep?, launched, phase] at rests

/-- The worker goes on holding its report, and is at rest when it is released. -/
theorem report_perform (ready : action = .release → s.atRest = true) :
    (s.perform action).1.program.elim [] (·.worker.report) =
      s.program.elim [] (·.worker.report) := by
  cases launched : s.program with
  | none =>
      cases action <;> simp [perform, modifyProgram, launched, send]
  | some p =>
      by_cases released : action = .release
      · subst released
        change [] = p.worker.report
        rw [waiting_of_atRest launched (ready rfl)]
        rfl
      · obtain ⟨q, after, same⟩ := exists_worker_perform launched released
        rw [after]
        exact congrArg WorkerPhase.report same

end Server

namespace Instant

open Happening

variable {i k : Instant} {move : Move}

theorem Made.accounted_of_accepted {around : Surroundings} {r : Request} {t : Server}
    {actions : List Action} (free : i.pending = []) (accepted : r.Accepted i.server t actions)
    (consistent : i.Consistent) :
    (⟨i, .accepts around r, ⟨⟨t, actions⟩, i.taken⟩⟩ : Happening).Accounted := by
  refine accounted_of_held [] ?_ rfl ?_ ?_ ?_
  · rw [List.append_nil, accepted.answered_first.1]
  · change reports (i.pending.filterMap Action.content?) = []
    rw [free]
    rfl
  · cases stop : (⟨i, .accepts around r, ⟨⟨t, actions⟩, i.taken⟩⟩ : Happening).stop? with
    | none => exact (due_eq_asked stop).symm
    | some reason =>
        obtain ⟨running, -, stopped⟩ := stop?_eq_some_iff.1 stop
        rw [due_eq_stopReport stop]
        exact accepted.reports_of_stop (fun p launched => (consistent.program p launched).settled)
          running stopped
  · exact accepted.report_eq

/-- An action that sends nothing and stops nothing leaves the accounts alone. -/
theorem accounted_of_silent {action : Action} {rest : List Action}
    (pending : i.pending = action :: rest) (ready : action = .release → i.server.atRest = true)
    (silent : action.content? = none) (follows : (i.server.perform action).2 = [])
    (wire : (i.server.perform action).1.wire = i.server.wire)
    (asksNothing : action ≠ .singleStep)
    (stop : (⟨i, .performs, ⟨⟨(i.server.perform action).1, rest⟩, i.taken⟩⟩ : Happening).stop? =
      none) :
    (⟨i, .performs, ⟨⟨(i.server.perform action).1, (i.server.perform action).2 ++ rest⟩,
      i.taken⟩⟩ : Happening).Accounted := by
  rw [follows, List.nil_append]
  refine accounted_of_asked_eq_nil [] stop ?_ ?_ ?_ ?_
  · simp only [Happening.asked, pending]
    cases action <;> first | rfl | exact absurd rfl asksNothing
  · simp only [wire, List.append_nil]
  · change reports (rest.filterMap Action.content?) = reports (i.pending.filterMap Action.content?)
    rw [pending, List.filterMap_cons_none silent]
  · exact Server.report_perform ready

/-- The cases are the actions with all that may follow. Only a step asks for a report, and only the
end of a program stops it. -/
theorem Made.accounted_of_performed {action : Action} {rest : List Action}
    (pending : i.pending = action :: rest) (ready : action = .release → i.server.atRest = true)
    (consistent : i.Consistent) :
    (⟨i, .performs, ⟨⟨(i.server.perform action).1, (i.server.perform action).2 ++ rest⟩,
      i.taken⟩⟩ : Happening).Accounted := by
  have orderly := consistent.orderly
  rw [pending] at orderly
  cases orderly with
  | @send content quiet =>
      refine accounted_of_asked_eq_nil [content] (stop?_eq_none_of_state?_eq rfl) ?_
        (contents_send _ _) ?_ ?_
      · simp only [Happening.asked, pending]
      · change reports [content] ++ reports (rest.filterMap Action.content?) =
          reports (i.pending.filterMap Action.content?)
        rw [pending, ← reports_append]
        rfl
      · rfl
  | singleStep =>
      obtain ⟨text, wire⟩ : ∃ text, (i.server.perform .singleStep).1.wire.contents =
          i.server.wire.contents ++ if text.isEmpty then [] else [outputEvent text] := by
        cases launched : i.server.program with
        | none => exact ⟨"", by simp [Server.perform, launched]⟩
        | some p =>
            refine ⟨p.session.runStep.2.host.output, ?_⟩
            simp only [Server.perform, launched, Server.sendOutput_eq]
            exact contents_passOn _ _
      refine accounted_of_held _ wire (reports_passedOn text) ?_ ?_ ?_
      · change reports (i.pending.filterMap Action.content?) = []
        rw [pending]
        rfl
      · rw [due_eq_asked]
        · simp only [Happening.asked, pending]
          rfl
        · refine stop?_eq_none_of_forall fun reason running => ?_
          -- A guest that is to make a single step is not running.
          obtain ⟨p, launched, state⟩ := Option.map_eq_some_iff.1 running
          have still := (consistent.program p launched).still (by rw [pending]; simp)
          rw [state] at still
          cases still
      · exact Server.report_perform ready
  | requestStop | requestRelease | clearStop | wake =>
      refine accounted_of_silent pending ready rfl rfl rfl Action.noConfusion ?_
      refine stop?_eq_none_of_state?_eq ?_
      simp only [state?, Server.perform, Server.modifyProgram, Option.map_map]
      rfl
  | startRunning =>
      refine accounted_of_silent pending ready rfl rfl rfl Action.noConfusion ?_
      refine stop?_eq_none_of_forall fun reason (running : i.state? = _) _ stopped => ?_
      obtain ⟨p, launched, state⟩ := Option.map_eq_some_iff.1 running
      have settled := (consistent.program p launched).settled
      have goesOn := settled.startRunning_of_running (by rw [state]; rfl)
      have after : (i.server.perform .startRunning).1.program.map (·.session.state) =
          some .running := by
        simp only [Server.perform, Server.modifyProgram, launched, Option.map_some, goesOn]
      cases after.symm.trans stopped
  | stopRunning =>
      refine accounted_of_silent pending ready rfl rfl rfl Action.noConfusion ?_
      refine stop?_eq_none_of_forall fun reason _ shutsDown => ?_
      simp [Happening.shutsDown, pending] at shutsDown
  | release =>
      refine accounted_of_silent pending ready rfl rfl rfl Action.noConfusion ?_
      refine stop?_eq_none_of_forall fun reason _ _ stopped => ?_
      cases stopped

/-! ### The worker -/

/-- A move of the worker that stops nothing. -/
theorem accounted_of_work (new : List Content)
    (pending : k.pending = i.pending) (state : k.state? = i.state?)
    (wire : k.server.wire.contents = i.server.wire.contents ++ new)
    (held : reports new ++ reports (k.held .worker) = reports (i.held .worker)) :
    (⟨i, .works, k⟩ : Happening).Accounted := by
  refine accounted_of_asked_eq_nil _ (stop?_eq_none_of_state?_eq state) rfl wire held ?_
  exact congrArg (List.filterMap Action.content?) pending

/-- A turn that stops the guest leaves its report to the worker. -/
theorem Made.accounted_of_ended {p : Program} {requested : Bool}
    (launched : i.server.program = some p) (turning : p.worker = .turning) :
    (⟨i, .works, { i with server := i.server.endTurn requested p, taken := none }⟩ :
      Happening).Accounted := by
  rw [Server.endTurn_eq]
  have ended := Server.turnEnded_restOfTurn requested p
  generalize Server.restOfTurn requested p = x at ended ⊢
  obtain ⟨turn, q⟩ := x
  have before : i.held .worker = [] := by
    simp only [held, launched, Option.elim_some, turning, WorkerPhase.report]
  have state : i.state? = some p.session.state := by simp only [state?, launched, Option.map_some]
  have told (reason : StopReason) : reports (stopReport reason) = stopReport reason :=
    reports_eq_self fun c => isReport_of_mem_stopReport
  refine accounted_of_held _ (contents_passOn _ _) (reports_passedOn _)
    ((congrArg reports before).trans rfl) ?_ rfl
  change reports (Server.phaseAfter turn).report = _
  cases ended with
  | idle still =>
      rw [due_eq_asked]
      · rfl
      · refine stop?_eq_none_of_forall fun reason running => ?_
        rw [Option.some.inj (state.symm.trans running)] at still
        cases still
  | paused running asked =>
      have stopped : p.session.stopRunning.state = .stopped .paused := by
        rw [Session.stopRunning, if_pos running]
        rfl
      refine (told .paused).trans (due_eq_stopReport (stop?_eq_some_iff.2 ⟨?_, rfl, ?_⟩)).symm
      · rw [state, RunState.eq_running_of_isRunning running]
      · exact congrArg some stopped
  | goesOn running unasked after =>
      rw [due_eq_asked]
      · rfl
      · exact stop?_eq_none_of_running (congrArg some after)
  | @stopped running unasked reason after =>
      refine (told reason).trans (due_eq_stopReport (stop?_eq_some_iff.2 ⟨?_, rfl, ?_⟩)).symm
      · rw [state, RunState.eq_running_of_isRunning running]
      · exact congrArg some after

/-- The accounts of the parties agree with every move. -/
theorem Made.accounted (made : Made i move k) (consistent : i.Consistent) :
    (⟨i, move, k⟩ : Happening).Accounted := by
  cases made with
  | accepted free accepted => exact accounted_of_accepted free accepted consistent
  | finished free =>
      refine accounted_of_asked_eq_nil _ (stop?_eq_none_of_state?_eq rfl) rfl
        (List.append_nil _).symm ?_ ?_
      · change reports (i.server.shutdownActions.filterMap Action.content?) =
          reports (i.pending.filterMap Action.content?)
        rw [free, Server.shutdownActions]
        split <;> rfl
      · rfl
  | performed pending ready => exact accounted_of_performed pending ready consistent
  | woken launched waiting | reported launched waiting =>
      refine accounted_of_work [] rfl ?_ (List.append_nil _).symm ?_
      · simp only [state?, launched, Option.map_some]
      · simp only [held, launched, Option.elim_some, waiting]
        rfl
  | looked launched turning =>
      refine accounted_of_work [] rfl ?_ (List.append_nil _).symm ?_
      · simp only [state?, launched, Option.map_some]
      · simp only [held, launched, Option.elim_some]
        rfl
  | ended launched turning => exact accounted_of_ended launched turning
  | @told p content rest launched reporting =>
      refine accounted_of_work [content] rfl ?_ (contents_send _ _) ?_
      · simp only [state?, launched, Option.map_some]
      · simp only [held, launched, Option.elim_some, reporting, WorkerPhase.report]
        exact (reports_append [content] rest).symm

/-- A report that no stop makes due is asked for. -/
theorem Made.asksReport (made : Made i move k)
    (unstopped : (⟨i, move, k⟩ : Happening).stop? = none)
    (due : (⟨i, move, k⟩ : Happening).due ≠ []) : (⟨i, move, k⟩ : Happening).AsksReport := by
  rw [due_eq_asked unstopped] at due
  cases made with
  | accepted _ accepted => exact .accepts rfl (accepted.named_of_reports due)
  | @performed action rest pending =>
      cases action with
      | singleStep => exact .performs rfl pending
      | _ =>
          simp only [Happening.asked, pending] at due
          exact absurd rfl due
  | _ => exact absurd rfl due

end Instant

/-! ### Histories -/

namespace History

variable {i k : Instant} {past : List Happening}

/-- Whatever order the moves are made in, the reports that a party sent and those that it holds are
the ones that it held and those that became due to it, one after the other. -/
theorem accounts (history : History i past k) (consistent : i.Consistent) (party : Party) :
    reports (sentBy party past) ++ reports (k.held party) =
      reports (i.held party) ++ dueTo party past := by
  induction history with
  | nothing i => simp [sentBy, dueTo, reports]
  | @next i j k move past made _ ih =>
      have step := Instant.made_of_move? made
      have accounted := step.accounted consistent
      have rest := ih (step.consistent consistent)
      by_cases mine : (⟨i, move, j⟩ : Happening).party = party
      · have mover := accounted.mover
        rw [mine] at mover
        calc
          reports (sentBy party (⟨i, move, j⟩ :: past)) ++ reports (k.held party)
            = reports (⟨i, move, j⟩ : Happening).sent ++
                (reports (sentBy party past) ++ reports (k.held party)) := by
              rw [sentBy_cons, if_pos mine, reports_append, List.append_assoc]
          _ = reports (⟨i, move, j⟩ : Happening).sent ++ reports (j.held party) ++
                dueTo party past := by rw [rest, List.append_assoc]
          _ = reports (i.held party) ++ dueTo party (⟨i, move, j⟩ :: past) := by
              rw [mover, dueTo_cons, if_pos mine, List.append_assoc]
      · have others := accounted.other
        rw [← Party.eq_other_of_ne (Ne.symm mine)] at others
        rw [sentBy_cons, if_neg mine, dueTo_cons, if_neg mine, List.nil_append, List.nil_append,
          rest, others]

/-- Who stops the guest holds its report at that instant. -/
theorem held_of_due {h : Happening} (history : History i past k) (consistent : i.Consistent)
    (mem : h ∈ past) (due : h.due ≠ []) : reports (h.after.held h.party) = h.due := by
  obtain ⟨before, after, rfl⟩ := List.append_of_mem mem
  obtain ⟨earlier, made, -⟩ := history.around
  exact ((Instant.made_of_move? made).accounted (earlier.consistent consistent)).ready due

theorem asksReport_of_due {h : Happening} (history : History i past k) (mem : h ∈ past)
    (unstopped : h.stop? = none) (due : h.due ≠ []) : h.AsksReport := by
  obtain ⟨before, after, rfl⟩ := List.append_of_mem mem
  obtain ⟨-, made, -⟩ := history.around
  exact (Instant.made_of_move? made).asksReport unstopped due

end History

end GuestDebugger.Adapter
