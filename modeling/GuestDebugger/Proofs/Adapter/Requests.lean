import GuestDebugger.Adapter.Requests
import GuestDebugger.Proofs.Session.Entries

/-! # What a request comes to

A request is refused, answered at once, or answered after its critical section changed the server.
Whatever it asks for, the response to it is the first thing that is still to do. -/

namespace GuestDebugger.Adapter

namespace Request

/-- The session in which plain breakpoints at some addresses took the place of those at others. -/
def replaceBreakpoints (session : Session Machine) (old new : List Address) : Session Machine :=
  new.foldl (fun session a => session.addBreakpoint a {})
    (old.foldl (fun session a => session.removeBreakpoint a) session)

/-- What holds of a session and is kept as each breakpoint goes or comes holds in the end. -/
theorem replaceBreakpoints_keeps {P : Session Machine → Prop} {session : Session Machine}
    (holds : P session) (removes : ∀ t a, P t → P (t.removeBreakpoint a))
    (adds : ∀ t a, P t → P (t.addBreakpoint a {})) (old new : List Address) :
    P (replaceBreakpoints session old new) := by
  have removed := List.foldlRecOn old (fun session a => session.removeBreakpoint a) holds
    fun t before a _ => removes t a before
  exact List.foldlRecOn new _ removed fun t before a _ => adds t a before

/-- The set of some addresses. -/
def addressSet (addresses : List Address) : AddressSet :=
  addresses.foldl (fun owned a => owned.insert a ()) ∅

/-- What follows the response to a request to run to an address. -/
def afterRunTo (session : Session Machine) : List Action :=
  match session.state.stopReason? with
  | some reason => (stopReport reason).map .send
  | none => resume

/-- What follows the response to the end of the configuration of a program. -/
def afterConfiguration (p : Program) : List Action :=
  if p.stopOnEntry then [.send (stoppedEvent "entry" none)] else .startRunning :: resume

/-- The server after the critical section of a request, and what is then still to do. -/
inductive Accepted (r : Request) (s : Server) : Server → List Action → Prop
  | refused (e : RequestError) : Accepted r s s [.send (.failure r.seq r.command e.message)]
  | answered (body : Option Json) : Accepted r s s [r.respond body]
  | launched (free : s.program = none) (named : r.command = "launch")
      (session : Session Machine) (stopOnEntry : Bool)
      (started : ∃ files clock settings, Launch.start files clock settings = .ok session) :
      Accepted r s { s with program := some { session, stopOnEntry }, owned := ∅ }
        [r.respond none, .send (.event "initialized" none)]
  | configured {p : Program} (launched : s.program = some p)
      (named : r.command = "configurationDone") :
      Accepted r s s (r.respond none :: afterConfiguration p)
  | replaced {p : Program} (launched : s.program = some p)
      (named : r.command = "setInstructionBreakpoints") (addresses : List Address)
      (body : Option Json) :
      Accepted r s
        { withSession s p (replaceBreakpoints p.session s.owned.keys addresses) with
          owned := addressSet addresses } [r.respond body]
  | toggled {p : Program} (launched : s.program = some p) (named : r.command = "toggleBreakpoint")
      {a : Address} {disabled : Bool} (done : (p.session.toggleBreakpoint a).1 = .ok disabled)
      (body : Option Json) :
      Accepted r s (withSession s p (p.session.toggleBreakpoint a).2) [r.respond body]
  | ranTo {p : Program} (launched : s.program = some p) (named : r.command = "runTo") {a : Address}
      (found : r.address p.session.labels = .ok a) :
      Accepted r s (withSession s p (p.session.runTo a))
        (r.respond none :: afterRunTo (p.session.runTo a))
  | resumed {p : Program} (launched : s.program = some p) (body : Option Json)
      (named : r.command = "continue") :
      Accepted r s (withSession s p p.session.startRunning) (r.respond body :: resume)
  | stepped {p : Program} (launched : s.program = some p)
      (named : r.command = "next" ∨ r.command = "stepIn")
      (still : p.session.state.isRunning = false) : Accepted r s s [r.respond none, .singleStep]
  | paused {p : Program} (launched : s.program = some p) (named : r.command = "pause") :
      Accepted r s s [r.respond none, .requestStop]
  | disconnected (named : r.command = "disconnect") :
      Accepted r s s (r.respond none :: s.shutdownActions)

/-- Whether the first thing to do is a response that tells success. -/
def Succeeds (r : Request) (actions : List Action) : Prop :=
  ∃ body rest, actions = r.respond body :: rest

/-- How a critical section ends: the request is refused and nothing was done, or it is not, and
success is what is told first. -/
inductive ComesTo (r : Request) (s : Server) : Except RequestError Unit × Begun → Prop
  | refused (e : RequestError) : ComesTo r s (.error e, { server := s })
  | done {t : Server} {actions : List Action} (accepted : Accepted r s t actions)
      (succeeds : r.Succeeds actions) : ComesTo r s (.ok (), ⟨t, actions⟩)

/-! ### Checks

A check that comes before the first change leaves the rest of the section with the server as it was
and nothing to do. -/

section Checks

variable {r : Request} {s : Server} {α : Type}

theorem run_check_bind (x : Except RequestError α) (next : α → HandlerM Unit) (b : Begun) :
    (check x >>= next).run.run b =
      match x with
      | .ok a => (next a).run.run b
      | .error e => (.error e, b) := by
  cases x <;> rfl

theorem run_program_bind (next : Program → HandlerM Unit) (b : Begun) :
    (program >>= next).run.run b =
      match b.server.program with
      | some p => (next p).run.run b
      | none => (.error .notLaunched, b) := by
  obtain ⟨⟨wire, program, owned⟩, actions⟩ := b
  cases program <;> rfl

theorem ComesTo.of_check {x : Except RequestError α} {next : α → HandlerM Unit}
    (rest : ∀ a, x = .ok a → r.ComesTo s ((next a).run.run { server := s })) :
    r.ComesTo s ((check x >>= next).run.run { server := s }) := by
  rw [run_check_bind]
  cases x with
  | error e => exact .refused e
  | ok a => exact rest a rfl

theorem ComesTo.of_refuseIf {e : RequestError} {holds : Bool} {next : Unit → HandlerM Unit}
    (rest : holds = false → r.ComesTo s ((next ()).run.run { server := s })) :
    r.ComesTo s ((refuseIf e holds >>= next).run.run { server := s }) := by
  cases holds with
  | true => exact .refused e
  | false => exact rest rfl

theorem ComesTo.of_program {next : Program → HandlerM Unit}
    (rest : ∀ p, s.program = some p → r.ComesTo s ((next p).run.run { server := s })) :
    r.ComesTo s ((program >>= next).run.run { server := s }) := by
  rw [run_program_bind]
  cases launched : s.program with
  | none => exact .refused .notLaunched
  | some p => exact rest p launched

/-- Nothing is done but to answer. -/
theorem ComesTo.answered (body : Option Json) :
    r.ComesTo s ((leave [r.respond body]).run.run { server := s }) :=
  .done (.answered body) ⟨_, _, rfl⟩

end Checks

/-! ### Handlers -/

section Handlers

variable {r : Request} {s : Server}

theorem withSession_self {p : Program} (launched : s.program = some p) :
    withSession s p p.session = s := by
  obtain ⟨wire, program, owned⟩ := s
  cases launched
  rfl

theorem comesTo_launch (named : r.command = "launch") (files : Files) (clock : Clock) :
    r.ComesTo s ((r.launch files clock).run.run { server := s }) := by
  refine .of_refuseIf fun free => .of_check fun settings _ => .of_check fun session started => ?_
  have free : s.program = none :=
    Option.isNone_iff_eq_none.1 (Option.isSome_eq_false_iff.1 free)
  exact .done (.launched free named session _ ⟨_, _, _, Except.ok_of_mapError started⟩) ⟨_, _, rfl⟩

theorem comesTo_configurationDone (named : r.command = "configurationDone") :
    r.ComesTo s (r.configurationDone.run.run { server := s }) := by
  obtain ⟨wire, program, owned⟩ := s
  cases program with
  | none => exact .done (.answered none) ⟨_, _, rfl⟩
  | some p => exact .done (.configured rfl named) ⟨_, _, rfl⟩

/-- The session is put back before it is known whether there was a breakpoint. If there was none,
it is the session that was there. -/
theorem comesTo_toggleBreakpoint (named : r.command = "toggleBreakpoint") :
    r.ComesTo s (r.toggleBreakpoint.run.run { server := s }) := by
  refine .of_program fun p launched => .of_check fun a _ => ?_
  change r.ComesTo s
    ((check ((p.session.toggleBreakpoint a).1.mapError .breakpoint) >>= fun disabled =>
      leave [r.respond (some (.ofFields [("disabled", .bool disabled)]))]).run.run
        { server := withSession s p (p.session.toggleBreakpoint a).2 })
  rw [run_check_bind]
  cases toggled : (p.session.toggleBreakpoint a).1 with
  | error e =>
      rw [Session.toggleBreakpoint_of_error toggled, withSession_self launched]
      exact .refused _
  | ok disabled => exact .done (.toggled launched named toggled _) ⟨_, _, rfl⟩

theorem comesTo_setInstructionBreakpoints (named : r.command = "setInstructionBreakpoints") :
    r.ComesTo s (r.setInstructionBreakpoints.run.run { server := s }) := by
  refine .of_program fun p launched => ?_
  exact .done (.replaced launched named _ _) ⟨_, _, rfl⟩

theorem comesTo_runTo (named : r.command = "runTo") :
    r.ComesTo s (r.runTo.run.run { server := s }) := by
  refine .of_program fun p launched => .of_check fun a found => ?_
  exact .done (.ranTo launched named found) ⟨_, _, rfl⟩

theorem comesTo_resumeGuest (named : r.command = "continue") :
    r.ComesTo s (r.resumeGuest.run.run { server := s }) := by
  refine .of_program fun p launched => ?_
  exact .done (.resumed launched _ named) ⟨_, _, rfl⟩

theorem comesTo_step (named : r.command = "next" ∨ r.command = "stepIn") :
    r.ComesTo s (r.step.run.run { server := s }) := by
  refine .of_program fun p launched => .of_refuseIf fun still => ?_
  exact .done (.stepped launched named still) ⟨_, _, rfl⟩

theorem comesTo_stackTrace : r.ComesTo s (r.stackTrace.run.run { server := s }) :=
  .of_program fun _ _ => .answered _

theorem comesTo_disassemble : r.ComesTo s (r.disassemble.run.run { server := s }) :=
  .of_program fun _ _ => .of_check fun _ _ => .answered _

theorem comesTo_showVariables : r.ComesTo s (r.showVariables.run.run { server := s }) :=
  .of_program fun _ _ => .of_check fun _ _ => .answered _

/-- Whatever is asked for, a request is refused with nothing done, or it is answered by success. -/
theorem comesTo_begun (files : Files) (clock : Clock) (r : Request) (s : Server) :
    r.ComesTo s (r.begun files clock s) := by
  simp only [begun, begin]
  split
  · exact .answered _
  · exact comesTo_launch ‹_› files clock
  · exact comesTo_setInstructionBreakpoints ‹_›
  · exact comesTo_toggleBreakpoint ‹_›
  · exact comesTo_runTo ‹_›
  · exact comesTo_configurationDone ‹_›
  · exact .answered _
  · exact comesTo_stackTrace
  · exact .answered _
  · exact comesTo_showVariables
  · exact comesTo_disassemble
  · exact comesTo_resumeGuest ‹_›
  · exact comesTo_step (.inl ‹_›)
  · exact comesTo_step (.inr ‹_›)
  · exact .of_program fun p launched => .done (.paused launched ‹_›) ⟨_, _, rfl⟩
  · exact .done (.disconnected ‹_›) ⟨_, _, rfl⟩
  · exact .refused _

end Handlers

section Begun

variable {r : Request} {s : Server} {files : Files} {clock : Clock}

/-- A request that is refused has done nothing. -/
theorem begun_of_refused {e : RequestError} (refused : (r.begun files clock s).1 = .error e) :
    r.begun files clock s = (.error e, { server := s }) := by
  have comes := comesTo_begun files clock r s
  generalize r.begun files clock s = x at comes refused ⊢
  cases comes with
  | refused e' => rw [Except.error.inj refused]
  | done => cases refused

theorem accept_of_refused {e : RequestError} (refused : (r.begun files clock s).1 = .error e) :
    r.accept files clock s = (s, [.send (.failure r.seq r.command e.message)]) := by
  rw [accept, begun_of_refused refused]
  rfl

theorem accepted_accept (files : Files) (clock : Clock) (r : Request) (s : Server) :
    Accepted r s (r.accept files clock s).1 (r.accept files clock s).2 := by
  have comes := comesTo_begun files clock r s
  rw [accept]
  generalize r.begun files clock s = x at comes ⊢
  cases comes with
  | refused e => exact .refused e
  | done accepted => exact accepted

end Begun

end Request

end GuestDebugger.Adapter
