import GuestDebugger.Json.Lemmas
import GuestDebugger.Proofs.Adapter.Instants
import GuestDebugger.Proofs.Session.Entries
import GuestDebugger.Proofs.Session.Exit

/-! # What holds at every instant

What the request loop has left to do is the end of what some request began. A guest that is running
has a worker that turns or will be woken up. Between moves, no output waits to be passed on. -/

namespace GuestDebugger.Adapter

/-! ### What messages tell -/

namespace Content

/-- The guest output that a message passes on. -/
def outputText : Content → String
  | .event "output" (some body) => ((body.field? "output").bind Json.string?).getD ""
  | _ => ""

/-- Whether a message reports that the guest stopped. -/
def isReport : Content → Bool
  | .event name _ => name ∈ ["stopped", "exited", "terminated"]
  | _ => false

theorem outputText_of_isReport {c : Content} (report : c.isReport = true) : c.outputText = "" := by
  cases c with
  | event name body =>
      simp only [isReport, decide_eq_true_eq, List.mem_cons, List.not_mem_nil, or_false] at report
      rcases report with rfl | rfl | rfl <;> rfl
  | request | response => cases report

end Content

@[simp] theorem outputText_outputEvent (text : String) : (outputEvent text).outputText = text := by
  simp only [outputEvent, Content.outputText, Json.field?_ofFields]
  rfl

theorem isReport_of_mem_stopReport {reason : StopReason} {c : Content}
    (mem : c ∈ stopReport reason) : c.isReport = true := by
  cases reason with
  | exited code =>
      simp only [stopReport, List.mem_cons, List.not_mem_nil, or_false] at mem
      rcases mem with rfl | rfl <;> rfl
  | breakpoint | fault | paused =>
      rw [List.mem_singleton.1 mem]
      rfl

theorem stopReport_ne_nil (reason : StopReason) : stopReport reason ≠ [] := by
  cases reason <;> exact List.cons_ne_nil _ _

theorem isReport_of_mem_stepReport {goesOn : Bool} {state : RunState} {c : Content}
    (mem : c ∈ Server.stepReport goesOn state) : c.isReport = true := by
  simp only [Server.stepReport] at mem
  split at mem
  · exact isReport_of_mem_stopReport mem
  · rw [List.mem_singleton.1 mem]
    rfl

/-! ### What is left to do -/

/-- What a request handler may have left to do. Guest output is never among it. -/
inductive Orderly : List Action → Prop
  | nothing : Orderly []
  | send {content : Content} (quiet : content.outputText = "") {rest : List Action}
      (orderly : Orderly rest) : Orderly (.send content :: rest)
  | singleStep : Orderly [.singleStep]
  | requestStop : Orderly [.requestStop]
  | wake : Orderly [.wake]
  | clearStop : Orderly [.clearStop, .wake]
  | startRunning : Orderly [.startRunning, .clearStop, .wake]
  | release : Orderly [.release]
  | requestRelease : Orderly [.requestStop, .release]
  | stopRunning : Orderly [.stopRunning, .requestStop, .release]

namespace Orderly

theorem sends {contents : List Content} (quiet : ∀ c ∈ contents, c.outputText = "")
    {rest : List Action} (orderly : Orderly rest) : Orderly (contents.map .send ++ rest) := by
  induction contents with
  | nil => exact orderly
  | cons content others ih =>
      exact .send (quiet content List.mem_cons_self)
        (ih fun c mem => quiet c (List.mem_cons_of_mem content mem))

theorem reports {contents : List Content} (reports : ∀ c ∈ contents, c.isReport = true) :
    Orderly (contents.map .send) := by
  have all := sends (fun c mem => Content.outputText_of_isReport (reports c mem)) .nothing
  rwa [List.append_nil] at all

theorem shutdownActions (s : Server) : Orderly s.shutdownActions := by
  simp only [Server.shutdownActions]
  split
  · exact .stopRunning
  · exact .nothing

theorem afterRunTo (session : Session Machine) : Orderly (Request.afterRunTo session) := by
  simp only [Request.afterRunTo]
  split
  · exact reports fun c => isReport_of_mem_stopReport
  · exact .clearStop

theorem afterConfiguration (p : Program) : Orderly (Request.afterConfiguration p) := by
  simp only [Request.afterConfiguration]
  split
  · exact .send rfl .nothing
  · exact .startRunning

theorem accepted {r : Request} {s t : Server} {actions : List Action}
    (accepted : r.Accepted s t actions) : Orderly actions := by
  cases accepted with
  | refused | answered | replaced | toggled => exact .send rfl .nothing
  | launched => exact .send rfl (.send rfl .nothing)
  | configured => exact .send rfl (.afterConfiguration _)
  | ranTo => exact .send rfl (.afterRunTo _)
  | resumed => exact .send rfl .clearStop
  | stepped => exact .send rfl .singleStep
  | paused => exact .send rfl .requestStop
  | disconnected => exact .send rfl (.shutdownActions s)

theorem perform {action : Action} {rest : List Action} (orderly : Orderly (action :: rest))
    (s : Server) : Orderly ((s.perform action).2 ++ rest) := by
  cases orderly with
  | send _ rest => exact rest
  | singleStep =>
      rw [List.append_nil]
      simp only [Server.perform]
      split
      · exact .nothing
      · exact reports fun c => isReport_of_mem_stepReport
  | requestStop | wake | release => exact .nothing
  | clearStop => exact .wake
  | startRunning => exact .clearStop
  | requestRelease => exact .release
  | stopRunning => exact .requestRelease

end Orderly

/-! ### Consistency -/

namespace Request

theorem frozen_replaceBreakpoints (session : Session Machine) (old new : List Address) :
    session.Frozen (replaceBreakpoints session old new) := by
  refine replaceBreakpoints_keeps (.refl session) ?_ ?_ old new
  · intro t a frozen
    exact frozen.trans (.removeBreakpoint t a)
  · intro t a frozen
    exact frozen.trans (.addBreakpoint t a {})

end Request

/-- A program that goes with what the request loop has left to do. -/
structure Program.Consistent (p : Program) (pending : List Action) : Prop where
  settled : p.session.Settled
  drained : p.session.host.output = ""
  /-- No wake-up is lost. -/
  awake : p.session.state.isRunning = true →
    p.worker = .turning ∨ 0 < p.wakes ∨ .wake ∈ pending
  still : .singleStep ∈ pending → p.session.state.isRunning = false
  reports : ∀ report, p.worker = .reporting report → ∀ c ∈ report, c.isReport = true

/-- An instant as it may occur in a history. -/
structure Instant.Consistent (i : Instant) : Prop where
  orderly : Orderly i.pending
  turning : ∀ requested, i.taken = some requested →
    ∃ p, i.server.program = some p ∧ p.worker = .turning
  program : ∀ p, i.server.program = some p → p.Consistent i.pending

namespace Program.Consistent

variable {p : Program} {pending later : List Action}

/-- The request loop may go on if it does not forget to wake the worker. -/
theorem goOn (consistent : p.Consistent pending) (wake : .wake ∈ pending → .wake ∈ later)
    (step : .singleStep ∈ later → .singleStep ∈ pending) : p.Consistent later where
  settled := consistent.settled
  drained := consistent.drained
  awake running := (consistent.awake running).imp id (Or.imp id wake)
  still mem := consistent.still (step mem)
  reports := consistent.reports

theorem withFlag (consistent : p.Consistent pending) (flag : StopFlag) :
    ({ p with flag } : Program).Consistent pending :=
  ⟨consistent.settled, consistent.drained, consistent.awake, consistent.still, consistent.reports⟩

/-- Nothing is left to do at first. -/
theorem begin (consistent : p.Consistent []) (step : .singleStep ∉ later) : p.Consistent later :=
  consistent.goOn (fun mem => absurd mem List.not_mem_nil) (fun mem => absurd mem step)

/-- A session whose state is the same may take the place of another one. -/
theorem replace {session : Session Machine} (consistent : p.Consistent pending)
    (frozen : p.session.Frozen session) : ({ p with session } : Program).Consistent pending where
  settled := consistent.settled.of_frozen frozen
  drained := frozen.drained consistent.drained
  awake running := consistent.awake (by rwa [frozen.state] at running)
  still mem := by
    rw [frozen.state]
    exact consistent.still mem
  reports := consistent.reports

/-- A session that is stopped may take the place of any other one. -/
theorem stopped {session : Session Machine} (consistent : p.Consistent pending)
    (settled : session.Settled) (drained : session.host.output = "")
    (still : session.state.isRunning = false) :
    ({ p with session } : Program).Consistent later where
  settled := settled
  drained := drained
  awake running := by
    rw [still] at running
    cases running
  still _ := still
  reports := consistent.reports

/-- A session that may be running may take the place of any other one if a wake-up follows. -/
theorem started {session : Session Machine} (consistent : p.Consistent pending)
    (settled : session.Settled) (drained : session.host.output = "") (wake : .wake ∈ later)
    (step : .singleStep ∉ later) : ({ p with session } : Program).Consistent later where
  settled := settled
  drained := drained
  awake _ := .inr (.inr wake)
  still mem := absurd mem step
  reports := consistent.reports

end Program.Consistent

/-- After a turn, the worker turns again or does not need to. -/
theorem Program.consistent_afterTurn {p : Program} {pending : List Action}
    {session : Session Machine} {turn : Turn} (settled : session.Settled)
    (drained : session.host.output = "")
    (goesOn : session.state.isRunning = true → turn = .goesOn ∧ .singleStep ∉ pending) :
    ({ p with session, worker := Server.phaseAfter turn } : Program).Consistent pending where
  settled := settled
  drained := drained
  awake running := by
    rw [(goesOn running).1]
    exact .inl rfl
  still mem := by
    refine Bool.eq_false_iff.2 fun running => ?_
    exact (goesOn running).2 mem
  reports report reporting c mem := by
    cases turn with
    | stopped reason =>
        cases reporting
        exact isReport_of_mem_stopReport mem
    | idle | goesOn => cases reporting

namespace Request

variable {r : Request} {s t : Server} {actions : List Action}

theorem exists_create_of_start {files : Files} {clock : Clock} {settings : LaunchSettings}
    {session : Session Machine} (started : Launch.start files clock settings = .ok session) :
    ∃ machine stepping labels, session = { Session.create machine stepping clock with labels } := by
  obtain ⟨listing, -, started⟩ := Except.exists_ok_of_bind started
  obtain ⟨labels, -, started⟩ := Except.exists_ok_of_bind started
  cases started
  exact ⟨_, _, _, rfl⟩

/-- Nothing is left to do but what follows from a request, so no step is due while the guest is
running. -/
theorem Accepted.consistent (accepted : r.Accepted s t actions)
    (before : ∀ p, s.program = some p → p.Consistent []) :
    ∀ p, t.program = some p → p.Consistent actions := by
  intro q after
  cases accepted with
  | refused | answered => exact (before q after).begin (by simp [respond])
  | launched free named session stopOnEntry started =>
      cases after
      obtain ⟨files, clock, settings, started⟩ := started
      obtain ⟨machine, stepping, labels, rfl⟩ := exists_create_of_start started
      refine ⟨Session.settled_create machine stepping clock, rfl, ?_, fun _ => rfl, ?_⟩
      · intro running
        cases running
      · intro report reporting
        cases reporting
  | configured =>
      refine (before q after).begin ?_
      simp only [afterConfiguration]
      split <;> simp [respond, resume]
  | @replaced p launched =>
      cases after
      exact ((before p launched).replace (frozen_replaceBreakpoints p.session _ _)).begin
        (by simp [respond])
  | @toggled p launched =>
      cases after
      exact ((before p launched).replace (.toggleBreakpoint p.session _)).begin (by simp [respond])
  | @ranTo p launched named a =>
      cases after
      have consistent := before p launched
      have settled : (p.session.runTo a).Settled := consistent.settled.apply (.runTo a)
      have drained : (p.session.runTo a).host.output = "" := by
        rw [Session.host_runTo]
        exact consistent.drained
      cases state : (p.session.runTo a).state with
      | stopped reason => exact consistent.stopped settled drained (by rw [state]; rfl)
      | idle | singleStepping | running =>
          refine consistent.started settled drained ?_ ?_ <;>
            simp [afterRunTo, state, RunState.stopReason?, resume, respond]
  | @resumed p launched =>
      cases after
      have consistent := before p launched
      have drained : p.session.startRunning.host.output = "" := by
        rw [Session.host_startRunning]
        exact consistent.drained
      exact consistent.started (Session.settled_startRunning _) drained (by simp [resume])
        (by simp [resume, respond])
  | stepped launched named still =>
      rw [launched] at after
      cases after
      have consistent := before _ launched
      exact consistent.stopped consistent.settled consistent.drained still
  | paused => exact (before q after).begin (by simp [respond])
  | disconnected =>
      refine (before q after).begin ?_
      simp only [Server.shutdownActions]
      split <;> simp [respond]

end Request

namespace Server

variable {s : Server} {action : Action} {rest pending : List Action}

/-- The request loop goes on consistently. The cases are the actions with all that may follow. -/
theorem consistent_perform (orderly : Orderly (action :: rest))
    (before : ∀ p, s.program = some p → p.Consistent (action :: rest)) :
    ∀ q, (s.perform action).1.program = some q → q.Consistent ((s.perform action).2 ++ rest) := by
  intro q after
  cases orderly with
  | send => exact (before q after).goOn (by simp [perform]) (by simp [perform])
  | singleStep =>
      simp only [perform] at after ⊢
      split at after
      · rename_i absent
        rw [absent] at after
        cases after
      · rename_i p launched
        rw [sendOutput_eq] at after
        cases after
        have consistent := before p launched
        have settled := consistent.settled.apply .runStep
        exact consistent.stopped (settled.apply .takeOutput) rfl
          (Session.runStep_of_not_running (consistent.still List.mem_cons_self))
  | requestStop | requestRelease =>
      obtain ⟨p, launched, rfl⟩ := Option.map_eq_some_iff.1 after
      exact ((before p launched).goOn (by simp [perform]) (by simp [perform])).withFlag _
  | clearStop =>
      obtain ⟨p, launched, rfl⟩ := Option.map_eq_some_iff.1 after
      exact ((before p launched).goOn (by simp [perform]) (by simp [perform])).withFlag _
  | wake =>
      obtain ⟨p, launched, rfl⟩ := Option.map_eq_some_iff.1 after
      have consistent := before p launched
      refine ⟨consistent.settled, consistent.drained,
        fun _ => .inr (.inl (Nat.succ_pos p.wakes)), fun mem => ?_, consistent.reports⟩
      cases mem
  | startRunning =>
      obtain ⟨p, launched, rfl⟩ := Option.map_eq_some_iff.1 after
      have drained : p.session.startRunning.host.output = "" := by
        rw [Session.host_startRunning]
        exact (before p launched).drained
      exact (before p launched).started (Session.settled_startRunning _) drained (by simp)
        (by simp [perform])
  | stopRunning =>
      obtain ⟨p, launched, rfl⟩ := Option.map_eq_some_iff.1 after
      have drained : p.session.stopRunning.host.output = "" := by
        rw [Session.host_stopRunning]
        exact (before p launched).drained
      exact (before p launched).stopped (before p launched).settled.stopRunning drained
        (Session.isRunning_stopRunning _)
  | release => cases after

/-- A turn ends consistently: the worker turns again if the guest is still running. -/
theorem consistent_endTurn {p : Program} (consistent : p.Consistent pending) (requested : Bool) :
    ∀ q, (s.endTurn requested p).program = some q → q.Consistent pending := by
  intro q after
  rw [endTurn_eq] at after
  have ended := turnEnded_restOfTurn requested p
  generalize restOfTurn requested p = x at ended after
  cases ended with
  | idle still =>
      cases after
      refine Program.consistent_afterTurn (consistent.settled.apply .takeOutput) rfl ?_
      intro running
      rw [Session.state_takeOutput, still] at running
      cases running
  | paused running asked =>
      cases after
      refine Program.consistent_afterTurn (consistent.settled.stopRunning.apply .takeOutput) rfl ?_
      intro running
      rw [Session.state_takeOutput, Session.isRunning_stopRunning] at running
      cases running
  | goesOn running unasked after' =>
      cases after
      have settled := (consistent.settled.apply .runTurn).apply .takeOutput
      refine Program.consistent_afterTurn settled rfl fun _ => ⟨rfl, fun mem => ?_⟩
      rw [consistent.still mem] at running
      cases running
  | stopped running unasked after' =>
      cases after
      have settled := (consistent.settled.apply .runTurn).apply .takeOutput
      refine Program.consistent_afterTurn settled rfl ?_
      intro running
      rw [Session.state_takeOutput, after'] at running
      cases running

/-- Only a release takes the worker away, and no action of the request loop moves it. -/
theorem exists_worker_perform {p : Program} (launched : s.program = some p)
    (kept : action ≠ .release) :
    ∃ q, (s.perform action).1.program = some q ∧ q.worker = p.worker := by
  cases action with
  | release => exact absurd rfl kept
  | send content => exact ⟨p, launched, rfl⟩
  | singleStep =>
      simp only [perform, launched, sendOutput_eq]
      exact ⟨_, rfl, rfl⟩
  | startRunning | stopRunning | clearStop | requestStop | wake =>
      simp only [perform, modifyProgram, launched, Option.map_some]
      exact ⟨_, rfl, rfl⟩

theorem not_atRest_of_turning {p : Program} (launched : s.program = some p)
    (turning : p.worker = .turning) : s.atRest = false := by
  simp only [atRest, workerStep?_of_turning launched turning, Option.isNone_some]

end Server

namespace Instant

variable {i k : Instant} {move : Move}

/-- Between turns, the stop flag is not looked at. -/
theorem Consistent.taken_eq_none {p : Program} (consistent : i.Consistent)
    (launched : i.server.program = some p) (between : p.worker ≠ .turning) : i.taken = none := by
  cases taken : i.taken with
  | none => rfl
  | some requested =>
      obtain ⟨q, there, turning⟩ := consistent.turning requested taken
      rw [launched] at there
      cases there
      exact absurd turning between

/-- The request loop takes the worker no further while it turns. -/
theorem Made.turning (made : Made i move k) (consistent : i.Consistent) :
    ∀ requested, k.taken = some requested →
      ∃ p, k.server.program = some p ∧ p.worker = .turning := by
  intro requested taken
  cases made with
  | @accepted _ _ t actions free accepted =>
      obtain ⟨p, launched, turning⟩ := consistent.turning requested taken
      cases accepted with
      | launched absent =>
          rw [absent] at launched
          cases launched
      | replaced there | toggled there | ranTo there | resumed there =>
          rw [there] at launched
          cases launched
          exact ⟨_, rfl, turning⟩
      | _ => exact ⟨p, launched, turning⟩
  | finished => exact consistent.turning requested taken
  | @performed action rest pending ready =>
      obtain ⟨p, launched, turning⟩ := consistent.turning requested taken
      have kept : action ≠ .release := by
        intro release
        rw [Server.not_atRest_of_turning launched turning] at ready
        cases ready release
      obtain ⟨q, after, same⟩ := Server.exists_worker_perform launched kept
      exact ⟨q, after, same.trans turning⟩
  | looked launched turning => exact ⟨_, rfl, turning⟩
  | ended => cases taken
  | woken launched phase | reported launched phase | told launched phase =>
      have fresh := consistent.taken_eq_none launched (by simp [phase])
      cases fresh.symm.trans taken

theorem Made.consistent (made : Made i move k) (consistent : i.Consistent) : k.Consistent := by
  have turning := made.turning consistent
  cases made with
  | accepted free accepted =>
      refine ⟨.accepted accepted, turning, accepted.consistent fun p launched => ?_⟩
      rw [← free]
      exact consistent.program p launched
  | finished free =>
      refine ⟨.shutdownActions i.server, turning, fun p launched => ?_⟩
      have before := consistent.program p launched
      rw [free] at before
      refine before.begin ?_
      simp only [Server.shutdownActions]
      split <;> simp
  | performed pending ready =>
      have orderly := consistent.orderly
      have before := consistent.program
      rw [pending] at orderly before
      exact ⟨orderly.perform i.server, turning, Server.consistent_perform orderly before⟩
  | woken launched waiting woken =>
      refine ⟨consistent.orderly, turning, fun q after => ?_⟩
      cases after
      have before := consistent.program _ launched
      refine ⟨before.settled, before.drained, fun _ => .inl rfl, before.still, ?_⟩
      intro report reporting
      cases reporting
  | looked launched =>
      refine ⟨consistent.orderly, turning, fun q after => ?_⟩
      cases after
      exact (consistent.program _ launched).withFlag _
  | ended launched =>
      refine ⟨?_, turning, Server.consistent_endTurn (consistent.program _ launched) _⟩
      exact consistent.orderly
  | reported launched reporting =>
      refine ⟨consistent.orderly, turning, fun q after => ?_⟩
      cases after
      have before := consistent.program _ launched
      refine ⟨before.settled, before.drained, fun running => ?_, before.still, ?_⟩
      · rcases before.awake running with other | awake
        · rw [reporting] at other
          cases other
        · exact .inr awake
      · intro report reporting
        cases reporting
  | told launched reporting =>
      refine ⟨consistent.orderly, turning, fun q after => ?_⟩
      cases after
      have before := consistent.program _ launched
      refine ⟨before.settled, before.drained, fun running => ?_, before.still, ?_⟩
      · rcases before.awake running with other | awake
        · rw [reporting] at other
          cases other
        · exact .inr awake
      · rintro report same c mem
        cases same
        exact before.reports _ reporting c (List.mem_cons_of_mem _ mem)

theorem consistent_start : ({ server := {} } : Instant).Consistent := by
  refine ⟨.nothing, ?_, ?_⟩
  · intro requested taken
    cases taken
  · intro p launched
    cases launched

end Instant

/-- Consistency is kept by every history. -/
theorem History.consistent {i k : Instant} {past : List Happening} (history : History i past k)
    (start : i.Consistent) : k.Consistent := by
  induction history with
  | nothing => exact start
  | next made _ ih => exact ih ((Instant.made_of_move? made).consistent start)

end GuestDebugger.Adapter
