import GuestDebugger.Proofs.Adapter.Completion
import GuestDebugger.Proofs.Adapter.Interleaving
import GuestDebugger.Proofs.Session.Output

/-! # Instants and histories

A turn of the worker is two actions in truth: it takes the stop flag, and then it executes and
passes its output on. In between, a request to stop comes too late for the turn, and the request
loop has to wait where it needs the session. A history tells every move with the instants before
and after it.

## Implementation notes

What a move makes the guest execute is told beside the moves and not by them, so that nothing in the
adapter can depend on it. -/

namespace GuestDebugger.Adapter

namespace Server

/-- The rest of a turn, once the stop flag was taken. -/
def restOfTurn (requested : Bool) (p : Program) : Turn × Program :=
  if requested && p.session.state.isRunning then
    (.stopped .paused, { p with session := p.session.stopRunning })
  else
    let (turn, session) := p.session.runTurn
    (turn, { p with session })

theorem workerTurn_eq (p : Program) :
    workerTurn p = restOfTurn p.flag.take.1 { p with flag := p.flag.take.2 } := rfl

/-- The server after the rest of a turn and its output. -/
def endTurn (s : Server) (requested : Bool) (p : Program) : Server :=
  let (turn, p) := restOfTurn requested p
  let (s, p) := s.sendOutput p
  { s with program := some { p with worker := phaseAfter turn } }

/-- The wire after some output was passed on. -/
def passOn (w : Wire) (text : String) : Wire :=
  if text.isEmpty then w else w.send (outputEvent text)

theorem sendOutput_eq (s : Server) (p : Program) :
    s.sendOutput p = ({ s with wire := passOn s.wire p.session.host.output },
      { p with session := p.session.takeOutput.2 }) := by
  cases empty : p.session.host.output.isEmpty <;>
    simp [sendOutput, passOn, Session.takeOutput, Host.takeOutput, send, empty]

theorem endTurn_eq (s : Server) (requested : Bool) (p : Program) :
    s.endTurn requested p =
      { s with
        wire := passOn s.wire (restOfTurn requested p).2.session.host.output
        program := some { (restOfTurn requested p).2 with
          session := (restOfTurn requested p).2.session.takeOutput.2
          worker := phaseAfter (restOfTurn requested p).1 } } := by
  simp only [endTurn]
  generalize restOfTurn requested p = ended
  obtain ⟨turn, q⟩ := ended
  rw [sendOutput_eq]

theorem workerStep?_of_turning {s : Server} {p : Program} (launched : s.program = some p)
    (turning : p.worker = .turning) :
    s.workerStep? = some (s.endTurn p.flag.take.1 { p with flag := p.flag.take.2 }) := by
  simp only [workerStep?, launched, Option.bind_eq_bind, Option.bind_some, turning, workerTurn_eq]
  rfl

end Server

/-- Whether a request is handled with the session in hand. -/
def Request.needsSession (r : Request) : Bool :=
  r.command ∈ ["setInstructionBreakpoints", "toggleBreakpoint", "runTo", "stackTrace", "variables",
    "disassemble", "continue", "next", "stepIn"]

/-- Whether an action is carried out with the session in hand. -/
def Action.needsSession : Action → Bool
  | startRunning | stopRunning | singleStep => true
  | _ => false

/-- The adapter between two atomic actions, of which a turn is more than one. -/
structure Instant extends Moment where
  /-- In the middle of a turn: whether a request to stop was found. -/
  taken : Option Bool := none

namespace Instant

/-- Whether a move has to wait until the worker gives up the session. -/
def blocks (i : Instant) : Move → Bool
  | .accepts _ r => i.taken.isSome && r.needsSession
  | .performs => i.taken.isSome && i.pending.head?.any Action.needsSession
  | .finishes | .works => false

/-- The next action of the worker, if it need not wait for a wake-up. -/
def work? (i : Instant) : Option Instant := do
  let p ← i.server.program
  match p.worker, i.taken with
  | .turning, none =>
    let (requested, flag) := p.flag.take
    some { i with
      server := { i.server with program := some { p with flag } }, taken := some requested }
  | .turning, some requested =>
    some { i with server := i.server.endTurn requested p, taken := none }
  | _, taken => i.server.workerStep?.map (⟨⟨·, i.pending⟩, taken⟩)

section Work

variable {i : Instant} {p : Program}

theorem work?_of_launched (launched : i.server.program = some p) :
    i.work? =
      match p.worker, i.taken with
      | .turning, none =>
        some { i with
          server := { i.server with program := some { p with flag := p.flag.take.2 } }
          taken := some p.flag.take.1 }
      | .turning, some requested =>
        some { i with server := i.server.endTurn requested p, taken := none }
      | _, taken => i.server.workerStep?.map (⟨⟨·, i.pending⟩, taken⟩) := by
  simp only [work?, launched]
  rfl

/-- A turn begins with the stop flag. -/
theorem work?_of_turning (launched : i.server.program = some p) (turning : p.worker = .turning)
    (fresh : i.taken = none) :
    i.work? = some { i with
      server := { i.server with program := some { p with flag := p.flag.take.2 } }
      taken := some p.flag.take.1 } := by
  rw [work?_of_launched launched]
  split
  · rfl
  · rename_i taken
    rw [fresh] at taken
    cases taken
  · rename_i notNone _
    exact absurd fresh (notNone turning)

/-- A turn ends with what it was to execute. -/
theorem work?_of_taken (launched : i.server.program = some p) (turning : p.worker = .turning)
    {requested : Bool} (taken : i.taken = some requested) :
    i.work? = some { i with server := i.server.endTurn requested p, taken := none } := by
  rw [work?_of_launched launched]
  split
  · rename_i fresh
    rw [taken] at fresh
    cases fresh
  · rename_i taken'
    rw [taken] at taken'
    cases taken'
    rfl
  · rename_i notSome
    exact absurd taken (notSome requested turning)

/-- Between turns, the worker proceeds as it does with whole turns. -/
theorem work?_of_not_turning (launched : i.server.program = some p)
    (between : p.worker ≠ .turning) :
    i.work? = i.server.workerStep?.map (⟨⟨·, i.pending⟩, i.taken⟩) := by
  rw [work?_of_launched launched]
  split
  · exact absurd ‹_› between
  · exact absurd ‹_› between
  · rfl

end Work

/-- The instant after a move, if it can be made. -/
def move? (i : Instant) (move : Move) : Option Instant :=
  if i.blocks move then none
  else match move with
    | .works => i.work?
    | move => (i.toMoment.move? move).map (⟨·, i.taken⟩)

end Instant

namespace Instant

/-- The request loop begins with a request when it has nothing left to do. -/
theorem eq_of_accepts {i k : Instant} {around : Surroundings} {r : Request}
    (made : i.move? (.accepts around r) = some k) :
    i.pending = [] ∧ k = ⟨⟨(r.accept around.files around.clock i.server).1,
      (r.accept around.files around.clock i.server).2⟩, i.taken⟩ := by
  simp only [move?] at made
  split at made
  · cases made
  · obtain ⟨n, step, rfl⟩ := Option.map_eq_some_iff.1 made
    simp only [Moment.move?] at step
    split at step
    · rename_i free
      cases step
      exact ⟨List.isEmpty_iff.1 free, rfl⟩
    · cases step

end Instant

/-! ### Moves by cases -/

namespace Server

/-- How a turn ends, once the stop flag was taken. -/
inductive TurnEnded (p : Program) (requested : Bool) : Turn × Program → Prop
  | idle (still : p.session.state.isRunning = false) : TurnEnded p requested (.idle, p)
  | paused (running : p.session.state.isRunning = true) (asked : requested = true) :
      TurnEnded p requested (.stopped .paused, { p with session := p.session.stopRunning })
  | goesOn (running : p.session.state.isRunning = true) (unasked : requested = false)
      (after : p.session.runTurn.2.state = .running) :
      TurnEnded p requested (.goesOn, { p with session := p.session.runTurn.2 })
  | stopped (running : p.session.state.isRunning = true) (unasked : requested = false)
      {reason : StopReason} (after : p.session.runTurn.2.state = .stopped reason) :
      TurnEnded p requested (.stopped reason, { p with session := p.session.runTurn.2 })

theorem turnEnded_restOfTurn (requested : Bool) (p : Program) :
    TurnEnded p requested (restOfTurn requested p) := by
  cases running : p.session.state.isRunning with
  | false =>
      have idle : p.session.runTurn = (.idle, p.session) := by
        rw [Session.runTurn, running]
        rfl
      simp only [restOfTurn, running, Bool.and_false, Bool.false_eq_true, if_false, idle]
      exact .idle running
  | true =>
      cases requested with
      | true =>
          simp only [restOfTurn, running, Bool.and_self, if_true]
          exact .paused running rfl
      | false =>
          have state : p.session.state = .running := RunState.eq_running_of_isRunning running
          simp only [restOfTurn, Bool.false_and, Bool.false_eq_true, if_false]
          rcases Session.runTurn_of_running state with ⟨turn, after⟩ | ⟨reason, turn, after⟩
          · rw [turn]
            exact .goesOn running rfl after
          · rw [turn]
            exact .stopped running rfl after

end Server

namespace Instant

/-- Everything that a move can do. -/
inductive Made (i : Instant) : Move → Instant → Prop
  | accepted {around : Surroundings} {r : Request} {t : Server} {actions : List Action}
      (free : i.pending = []) (accepted : r.Accepted i.server t actions) :
      Made i (.accepts around r) ⟨⟨t, actions⟩, i.taken⟩
  | finished (free : i.pending = []) :
      Made i .finishes ⟨⟨i.server, i.server.shutdownActions⟩, i.taken⟩
  | performed {action : Action} {rest : List Action} (pending : i.pending = action :: rest)
      (ready : action = .release → i.server.atRest = true) :
      Made i .performs
        ⟨⟨(i.server.perform action).1, (i.server.perform action).2 ++ rest⟩, i.taken⟩
  | woken {p : Program} (launched : i.server.program = some p) (waiting : p.worker = .waiting)
      (woken : p.wakes ≠ 0) :
      Made i .works { i with
        server := { i.server with
          program := some { p with worker := .turning, wakes := p.wakes - 1 } } }
  | looked {p : Program} (launched : i.server.program = some p) (turning : p.worker = .turning)
      (fresh : i.taken = none) :
      Made i .works { i with
        server := { i.server with program := some { p with flag := p.flag.take.2 } }
        taken := some p.flag.take.1 }
  | ended {p : Program} {requested : Bool} (launched : i.server.program = some p)
      (turning : p.worker = .turning) (taken : i.taken = some requested) :
      Made i .works { i with server := i.server.endTurn requested p, taken := none }
  | reported {p : Program} (launched : i.server.program = some p)
      (reporting : p.worker = .reporting []) :
      Made i .works { i with
        server := { i.server with program := some { p with worker := .waiting } } }
  | told {p : Program} {content : Content} {rest : List Content}
      (launched : i.server.program = some p) (reporting : p.worker = .reporting (content :: rest)) :
      Made i .works { i with
        server := { i.server.send content with
          program := some { p with worker := .reporting rest } } }

variable {i k : Instant} {move : Move}

theorem made_of_work? (worked : i.work? = some k) : Made i .works k := by
  obtain ⟨p, launched, -⟩ := Option.bind_eq_some_iff.1 worked
  cases phase : p.worker with
  | turning =>
      cases taken : i.taken with
      | none =>
          rw [work?_of_turning launched phase taken] at worked
          cases worked
          exact .looked launched phase taken
      | some requested =>
          rw [work?_of_taken launched phase taken] at worked
          cases worked
          exact .ended launched phase taken
  | waiting =>
      rw [work?_of_not_turning launched (by simp [phase])] at worked
      obtain ⟨t, step, rfl⟩ := Option.map_eq_some_iff.1 worked
      simp only [Server.workerStep?, launched, Option.bind_eq_bind, Option.bind_some, phase] at step
      split at step
      · cases step
      · rename_i woken
        cases step
        exact .woken launched phase woken
  | reporting report =>
      rw [work?_of_not_turning launched (by simp [phase])] at worked
      obtain ⟨t, step, rfl⟩ := Option.map_eq_some_iff.1 worked
      simp only [Server.workerStep?, launched, Option.bind_eq_bind, Option.bind_some, phase] at step
      cases report with
      | nil =>
          cases step
          exact .reported launched phase
      | cons content rest =>
          cases step
          exact .told launched phase

theorem made_of_move? (made : i.move? move = some k) : Made i move k := by
  cases move with
  | accepts around r =>
      obtain ⟨free, rfl⟩ := eq_of_accepts made
      exact .accepted free (Request.accepted_accept around.files around.clock r i.server)
  | works => exact made_of_work? made
  | finishes =>
      obtain ⟨n, step, rfl⟩ := Option.map_eq_some_iff.1 made
      simp only [Moment.move?] at step
      split at step
      · rename_i free
        cases step
        exact .finished (List.isEmpty_iff.1 free)
      · cases step
  | performs =>
      simp only [move?] at made
      split at made
      · cases made
      · obtain ⟨n, step, rfl⟩ := Option.map_eq_some_iff.1 made
        obtain ⟨action, rest, pending, rfl, ready⟩ := Moment.perform?_eq_some step
        exact .performed pending ready

end Instant

/-! ### Histories -/

/-- A move that was made. -/
structure Happening where
  /-- The instant before it. -/
  before : Instant
  /-- The move. -/
  move : Move
  /-- The instant after it. -/
  after : Instant

namespace Happening

/-- The session that a move lets execute, and how. -/
def execution? (h : Happening) : Option (Session Machine × Operation) := do
  let p ← h.before.server.program
  match h.move, h.before.pending, p.worker, h.before.taken with
  | .works, _, .turning, some requested =>
    -- A turn that finds a request to stop stops a running guest without executing.
    if requested && p.session.state.isRunning then none else some (p.session, .runTurn)
  | .performs, .singleStep :: _, _, _ => some (p.session, .runStep)
  | _, _, _, _ => none

/-- What the guest attempts in a move. -/
def attempts (h : Happening) : List Attempt := h.execution?.elim [] fun (s, o) => s.attempts o

/-- What the guest writes in a move. -/
def written (h : Happening) : String := h.execution?.elim "" fun (s, o) => s.written o

end Happening

section Execution

variable {i k : Instant} {p : Program}

/-- A turn executes when it ends, unless it found a request to stop. -/
theorem execution?_of_taken {requested : Bool} (launched : i.server.program = some p)
    (turning : p.worker = .turning) (taken : i.taken = some requested) :
    (⟨i, .works, k⟩ : Happening).execution? =
      if requested && p.session.state.isRunning then none else some (p.session, .runTurn) := by
  simp only [Happening.execution?, launched, turning, taken, Option.bind_eq_bind, Option.bind_some]

/-- Nothing else that the worker does executes. -/
theorem execution?_of_works (launched : i.server.program = some p)
    (between : p.worker = .turning → i.taken = none) :
    (⟨i, .works, k⟩ : Happening).execution? = none := by
  simp only [Happening.execution?, launched, Option.bind_eq_bind, Option.bind_some]
  cases phase : p.worker with
  | turning => rw [between phase]
  | waiting | reporting => rfl

theorem execution?_of_singleStep {rest : List Action} (launched : i.server.program = some p)
    (pending : i.pending = .singleStep :: rest) :
    (⟨i, .performs, k⟩ : Happening).execution? = some (p.session, .runStep) := by
  simp only [Happening.execution?, launched, pending, Option.bind_eq_bind, Option.bind_some]

/-- No action of the request loop but a single step executes. -/
theorem execution?_of_performs {action : Action} {rest : List Action}
    (pending : i.pending = action :: rest) (other : action ≠ .singleStep) :
    (⟨i, .performs, k⟩ : Happening).execution? = none := by
  cases launched : i.server.program with
  | none => simp only [Happening.execution?, launched, Option.bind_eq_bind, Option.bind_none]
  | some p =>
      simp only [Happening.execution?, launched, pending, Option.bind_eq_bind, Option.bind_some]
      cases action <;> first | rfl | exact absurd rfl other

/-- Nor does beginning with a request, or with the end of the service. -/
theorem execution?_of_begins {move : Move} (performs : move ≠ .performs) (works : move ≠ .works) :
    (⟨i, move, k⟩ : Happening).execution? = none := by
  cases move with
  | performs => exact absurd rfl performs
  | works => exact absurd rfl works
  | accepts | finishes =>
      cases launched : i.server.program <;>
        simp only [Happening.execution?, launched, Option.bind_eq_bind, Option.bind_some,
          Option.bind_none]

end Execution

/-- Moves that were made one after the other, from an instant to another one. -/
inductive History : Instant → List Happening → Instant → Prop
  | nothing (i : Instant) : History i [] i
  | next {i j k : Instant} {move : Move} {past : List Happening} (made : i.move? move = some j)
      (rest : History j past k) : History i (⟨i, move, j⟩ :: past) k

namespace History

variable {i j k : Instant} {first second : List Happening}

theorem append (before : History i first j) (after : History j second k) :
    History i (first ++ second) k := by
  induction before with
  | nothing => exact after
  | next made _ ih => exact .next made (ih after)

theorem of_append (history : History i (first ++ second) k) :
    ∃ j, History i first j ∧ History j second k := by
  induction first generalizing i with
  | nil => exact ⟨i, .nothing i, history⟩
  | cons h rest ih =>
      cases history with
      | next made others =>
          obtain ⟨j, before, after⟩ := ih others
          exact ⟨j, .next made before, after⟩

/-- What a history was before a move in it, and after. -/
theorem around {h : Happening} (history : History i (first ++ h :: second) k) :
    History i first h.before ∧ h.before.move? h.move = some h.after ∧
      History h.after second k := by
  obtain ⟨j, before, rest⟩ := history.of_append
  cases rest with
  | next made after => exact ⟨before, made, after⟩

end History

namespace Instant

variable {i k : Instant} {m n : Moment} {move : Move}

/-- The history of moves in a given order, if they can be made. -/
def history? (i : Instant) : List Move → Option (List Happening × Instant)
  | [] => some ([], i)
  | move :: rest => do
    let j ← i.move? move
    let (past, k) ← j.history? rest
    some (⟨i, move, j⟩ :: past, k)

theorem history_of_history? {moves : List Move} {past : List Happening}
    (made : i.history? moves = some (past, k)) : History i past k := by
  induction moves generalizing i past with
  | nil =>
      cases made
      exact .nothing _
  | cons move rest ih =>
      obtain ⟨j, first, made⟩ := Option.bind_eq_some_iff.1 made
      obtain ⟨⟨later, l⟩, others, made⟩ := Option.bind_eq_some_iff.1 made
      cases made
      exact .next first (ih others)

theorem map_move_of_history? {moves : List Move} {past : List Happening}
    (made : i.history? moves = some (past, k)) : past.map (·.move) = moves := by
  induction moves generalizing i past with
  | nil =>
      cases made
      rfl
  | cons move rest ih =>
      obtain ⟨j, -, made⟩ := Option.bind_eq_some_iff.1 made
      obtain ⟨⟨later, l⟩, others, made⟩ := Option.bind_eq_some_iff.1 made
      cases made
      rw [List.map_cons, ih others]

/-! ### Whole turns -/

theorem move?_of_moment (notWorks : move ≠ .works) (made : m.move? move = some n) :
    ({ m with } : Instant).move? move = some { n with } := by
  cases move with
  | works => exact absurd rfl notWorks
  | accepts | finishes | performs =>
      simp only [move?, blocks, Option.isSome_none, Bool.false_and, Bool.false_eq_true, if_false,
        made, Option.map_some]

/-- A turn as one action is a turn as two. -/
theorem history_of_move? (made : m.move? move = some n) :
    ∃ past, History { m with } past { n with } ∧ ∀ h ∈ past, h.move = move := by
  by_cases works : move = .works
  · subst works
    obtain ⟨t, worked, rfl⟩ := Option.map_eq_some_iff.1 made
    obtain ⟨p, launched, step⟩ := Option.bind_eq_some_iff.1 worked
    cases phase : p.worker with
    | turning =>
        rw [Server.workerStep?_of_turning launched phase, Option.some_inj] at worked
        let looked : Instant :=
          { m with
            server := { m.server with program := some { p with flag := p.flag.take.2 } }
            taken := some p.flag.take.1 }
        have first : ({ m with } : Instant).move? .works = some looked := by
          exact work?_of_turning launched phase rfl
        have second : looked.move? .works = some { server := t, pending := m.pending } := by
          refine (work?_of_taken (i := looked) rfl phase rfl).trans ?_
          rw [← worked, Server.endTurn_eq, Server.endTurn_eq]
        exact ⟨_, .next first (.next second (.nothing _)), by simp⟩
    | waiting | reporting =>
        have step := work?_of_not_turning (i := { m with }) launched (by simp [phase])
        rw [worked] at step
        exact ⟨[⟨_, .works, _⟩], .next step (.nothing _), by simp⟩
  · exact ⟨[⟨_, move, _⟩], .next (move?_of_moment works made) (.nothing _), by simp⟩

/-- Every run of whole turns is a history. -/
theorem history_of_runs {allowed : Move → Prop} (run : Moment.Runs allowed m n) :
    ∃ past, History { m with } past { n with } ∧ ∀ h ∈ past, allowed h.move := by
  induction run with
  | refl => exact ⟨[], .nothing _, by simp⟩
  | tail _ step ih =>
      obtain ⟨past, history, all⟩ := ih
      obtain ⟨move, isAllowed, made⟩ := step
      obtain ⟨more, last, same⟩ := history_of_move? made
      refine ⟨past ++ more, history.append last, ?_⟩
      intro h mem
      rcases List.mem_append.1 mem with old | new
      · exact all h old
      · rw [same h new]
        exact isAllowed

end Instant

end GuestDebugger.Adapter
