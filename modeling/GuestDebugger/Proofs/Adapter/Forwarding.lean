import GuestDebugger.Proofs.Adapter.Reporting

/-! # Guest output

Whatever executes passes its output on in the same action, so no output waits between two actions.
What the wire carries is then what the guest wrote, once and in order, and a stop that is not yet
reported has its output on the wire already. -/

namespace GuestDebugger.Adapter

/-- The guest output that messages pass on. -/
def texts (contents : List Content) : String := String.join (contents.map (·.outputText))

@[simp] theorem texts_append (first second : List Content) :
    texts (first ++ second) = texts first ++ texts second := by
  simp only [texts, List.map_append, String.join_append]

@[simp] theorem texts_singleton (c : Content) : texts [c] = c.outputText := by
  simp [texts, String.join]

theorem texts_passedOn (text : String) :
    texts (if text.isEmpty then [] else [outputEvent text]) = text := by
  split
  · rename_i empty
    exact (String.isEmpty_iff.1 empty).symm
  · rw [texts_singleton, outputText_outputEvent]

/-- The guest output that was passed on. -/
def Wire.output (w : Wire) : String := texts w.contents

/-- The guest output that waits to be passed on. -/
def Instant.waiting (i : Instant) : String := i.server.program.elim "" (·.session.host.output)

/-- What the guest wrote. -/
def writtenIn (past : List Happening) : String := String.join (past.map (·.written))

theorem writtenIn_append (first second : List Happening) :
    writtenIn (first ++ second) = writtenIn first ++ writtenIn second := by
  simp only [writtenIn, List.map_append, String.join_append]

theorem writtenIn_singleton (h : Happening) : writtenIn [h] = h.written := by
  simp [writtenIn, String.join]

theorem Instant.Consistent.waiting {i : Instant} (consistent : i.Consistent) : i.waiting = "" := by
  cases launched : i.server.program with
  | none => simp only [Instant.waiting, launched, Option.elim_none]
  | some p =>
      simp only [Instant.waiting, launched, Option.elim_some]
      exact (consistent.program p launched).drained

/-! ### What a move puts on the wire -/

/-- A move adds messages to the wire, and they pass on what the guest writes in it. -/
def Happening.Forwards (h : Happening) : Prop :=
  ∃ new, h.after.server.wire.contents = h.before.server.wire.contents ++ new ∧
    texts new = h.written

/-- A move that executes nothing passes nothing on. -/
theorem forwards_of_quiet {h : Happening} (new : List Content)
    (wire : h.after.server.wire.contents = h.before.server.wire.contents ++ new)
    (quiet : texts new = "") (still : h.execution? = none) : h.Forwards :=
  ⟨new, wire, by rw [quiet, Happening.written, still, Option.elim_none]⟩

/-- What executes passes on what the guest wrote. -/
theorem forwards_of_execution {h : Happening} {s : Session Machine} {o : Operation} {text : String}
    (execution : h.execution? = some (s, o))
    (wire : h.after.server.wire.contents =
      h.before.server.wire.contents ++ if text.isEmpty then [] else [outputEvent text])
    (drained : s.host.output = "") (output : text = s.host.output ++ s.written o) :
    h.Forwards := by
  refine ⟨_, wire, ?_⟩
  rw [texts_passedOn, output, drained, String.empty_append, Happening.written, execution,
    Option.elim_some]

namespace Instant

variable {i k : Instant} {move : Move}

theorem Made.forwards_of_performed {action : Action} {rest : List Action}
    (pending : i.pending = action :: rest) (consistent : i.Consistent) :
    (⟨i, .performs, ⟨⟨(i.server.perform action).1, (i.server.perform action).2 ++ rest⟩,
      i.taken⟩⟩ : Happening).Forwards := by
  have orderly := consistent.orderly
  rw [pending] at orderly
  cases orderly with
  | @send content quiet =>
      refine forwards_of_quiet _ (contents_send i.server.wire content) ?_
        (execution?_of_performs pending (by simp))
      rw [texts_singleton, quiet]
  | singleStep =>
      cases launched : i.server.program with
      | none =>
          refine forwards_of_quiet [] ?_ rfl ?_
          · simp [Server.perform, launched]
          · simp [Happening.execution?, launched]
      | some p =>
          refine forwards_of_execution (execution?_of_singleStep launched pending) ?_
            (consistent.program p launched).drained p.session.output_runStep
          simp only [Server.perform, launched, Server.sendOutput_eq]
          exact contents_passOn _ _
  | _ =>
      exact forwards_of_quiet [] (List.append_nil _).symm rfl
        (execution?_of_performs pending (by simp))

theorem Made.forwards_of_ended {p : Program} {requested : Bool} (consistent : i.Consistent)
    (launched : i.server.program = some p) (turning : p.worker = .turning)
    (taken : i.taken = some requested) :
    (⟨i, .works, { i with server := i.server.endTurn requested p, taken := none }⟩ :
      Happening).Forwards := by
  have drained := (consistent.program p launched).drained
  rw [Server.endTurn_eq]
  by_cases asked : (requested && p.session.state.isRunning) = true
  · have stopped : (Server.restOfTurn requested p).2.session.host.output = "" := by
      rw [Server.restOfTurn, if_pos asked]
      exact (congrArg Host.output p.session.host_stopRunning).trans drained
    refine forwards_of_quiet _ (contents_passOn _ _) ?_ ?_
    · rw [texts_passedOn, stopped]
    · rw [execution?_of_taken launched turning taken, if_pos asked]
  · refine forwards_of_execution (s := p.session) (o := .runTurn) ?_ (contents_passOn _ _) drained
      ?_
    · rw [execution?_of_taken launched turning taken, if_neg asked]
    · rw [Server.restOfTurn, if_neg asked]
      exact p.session.output_runTurn

theorem Made.forwards (made : Made i move k) (consistent : i.Consistent) :
    (⟨i, move, k⟩ : Happening).Forwards := by
  cases made with
  | accepted free accepted =>
      refine forwards_of_quiet [] ?_ rfl (execution?_of_begins (by simp) (by simp))
      rw [List.append_nil, accepted.answered_first.1]
  | finished free =>
      exact forwards_of_quiet [] (List.append_nil _).symm rfl
        (execution?_of_begins (by simp) (by simp))
  | performed pending ready => exact forwards_of_performed pending consistent
  | woken launched phase | reported launched phase =>
      exact forwards_of_quiet [] (List.append_nil _).symm rfl
        (execution?_of_works launched (by simp [phase]))
  | looked launched turning fresh =>
      exact forwards_of_quiet [] (List.append_nil _).symm rfl
        (execution?_of_works launched fun _ => fresh)
  | ended launched turning taken => exact forwards_of_ended consistent launched turning taken
  | @told p content rest launched phase =>
      refine forwards_of_quiet _ (contents_send _ content) ?_
        (execution?_of_works launched (by simp [phase]))
      have report := (consistent.program p launched).reports _ phase content List.mem_cons_self
      rw [texts_singleton, Content.outputText_of_isReport report]

end Instant

/-! ### Histories -/

namespace History

variable {i k : Instant} {past : List Happening}

/-- A history adds messages to the wire, and they pass on what the guest writes in it. -/
theorem forwards (history : History i past k) (consistent : i.Consistent) :
    ∃ new, k.server.wire.contents = i.server.wire.contents ++ new ∧ texts new = writtenIn past := by
  induction history with
  | nothing i => exact ⟨[], (List.append_nil _).symm, rfl⟩
  | @next i j k move past made _ ih =>
      have step := Instant.made_of_move? made
      obtain ⟨first, wire, text⟩ := step.forwards consistent
      obtain ⟨later, wire', text'⟩ := ih (step.consistent consistent)
      refine ⟨first ++ later, ?_, ?_⟩
      · rw [wire', wire, List.append_assoc]
      · calc
          texts (first ++ later) = texts first ++ texts later := texts_append first later
          _ = (⟨i, move, j⟩ : Happening).written ++ writtenIn past := by rw [text, text']
          _ = writtenIn (⟨i, move, j⟩ :: past) := by
              rw [← List.singleton_append, writtenIn_append, writtenIn_singleton]

/-- What is on the wire stays there. -/
theorem contents_prefix (history : History i past k) (consistent : i.Consistent) :
    i.server.wire.contents <+: k.server.wire.contents := by
  obtain ⟨new, wire, -⟩ := history.forwards consistent
  exact ⟨new, wire.symm⟩

theorem output (history : History { server := {} } past k) :
    k.server.wire.output = writtenIn past := by
  obtain ⟨new, wire, text⟩ := history.forwards Instant.consistent_start
  rw [Wire.output, wire, texts_append, text]
  exact String.empty_append

/-- What has become of the output of the guest. -/
structure Forwarded (past : List Happening) (k : Instant) : Prop where
  /-- What the output events pass on, and then what waits in the host, is what the guest wrote. -/
  exactly : k.server.wire.output ++ k.waiting = writtenIn past
  /-- Once a report is due, what the guest wrote is on the wire, and there it stays; the report
  follows, and whoever owes it sends no other report first. -/
  beforeReport {before after : List Happening} {h : Happening} :
    past = before ++ h :: after → h.due ≠ [] →
      h.after.server.wire.output = writtenIn (before ++ [h]) ∧
        h.after.server.wire.contents <+: k.server.wire.contents ∧
        reports (sentBy h.party after) ++ reports (k.held h.party) = h.due ++ dueTo h.party after

/-- In every session, the client is told what the guest writes once and in order, and before the
report of a stop it is told what was written up to that stop. -/
theorem forwarded (history : History { server := {} } past k) : Forwarded past k where
  exactly := by
    rw [history.output, (history.consistent Instant.consistent_start).waiting, String.append_empty]
  beforeReport {before after h} split due := by
    subst split
    obtain ⟨earlier, made, later⟩ := history.around
    have start := earlier.consistent Instant.consistent_start
    have step := Instant.made_of_move? made
    have upTo : History { server := {} } (before ++ [h]) h.after :=
      earlier.append (.next made (.nothing _))
    refine ⟨upTo.output, later.contents_prefix (step.consistent start), ?_⟩
    rw [later.accounts (step.consistent start), (step.accounted start).ready due]

/-- A guest that writes and ends. -/
def greeting : Surroundings where
  files := fun _ => .ok (Text.encode "10 write hello\n11 exit 3\n")

/-- Launches it and lets it run for one turn. -/
def greetingOnce : List Move :=
  [.accepts greeting ⟨1, "launch", .object [("program", .string "guest")]⟩, .performs, .performs,
    .accepts greeting ⟨2, "continue", .null⟩, .performs, .performs, .performs, .works, .works,
    .works]

/-- At the instant at which the guest ends, all that it wrote is sent. -/
theorem forwarded_to_the_end :
    ∃ past k, History { server := {} } past k ∧ k.server.wire.output = "hello" ∧
      (past.getLast?.bind (·.stop?)) = some (.exited 3) ∧ Forwarded past k := by
  have ran : (({ server := {} } : Instant).history? greetingOnce).any
      (fun x => decide (x.2.server.wire.output = "hello" ∧
        (x.1.getLast?.bind (·.stop?)) = some (.exited 3))) = true := by decide +kernel
  obtain ⟨⟨past, k⟩, made, holds⟩ := (Option.any_eq_true _ _).1 ran
  obtain ⟨told, stopped⟩ := of_decide_eq_true holds
  have history := Instant.history_of_history? made
  exact ⟨past, k, history, told, stopped, forwarded history⟩

end History

end GuestDebugger.Adapter
