import GuestDebugger.Proofs.Adapter.Interleaving
import GuestDebugger.Proofs.Adapter.Requests
import GuestDebugger.Proofs.Session.Entries

/-! # Breakpoints that the client owns

A client replaces all breakpoints it owns by one request. Until it does so again, each of them stays
in the breakpoint table, whatever else is asked for and wherever execution stops, with one
exception: running to an address puts a transient entry in the place of the one that is there, and
stopping at it leaves none. -/

namespace GuestDebugger.Adapter

/-! ### Replacing breakpoints -/

namespace Request

theorem get?_foldl_removeBreakpoint (session : Session Machine) (old : List Address)
    (a : Address) :
    (old.foldl (fun session a => session.removeBreakpoint a) session).breakpoints.get? a =
      if a ∈ old then none else session.breakpoints.get? a := by
  induction old generalizing session with
  | nil => simp
  | cons x rest ih =>
      rw [List.foldl_cons, ih, Session.get?_removeBreakpoint]
      by_cases inRest : a ∈ rest
      · simp [inRest]
      · simp [inRest]

theorem get?_foldl_addBreakpoint (session : Session Machine) (new : List Address) (a : Address) :
    (new.foldl (fun session a => session.addBreakpoint a {}) session).breakpoints.get? a =
      if a ∈ new then some ⟨a, false, {}⟩ else session.breakpoints.get? a := by
  induction new generalizing session with
  | nil => simp
  | cons x rest ih =>
      rw [List.foldl_cons, ih, Session.get?_addBreakpoint]
      by_cases inRest : a ∈ rest
      · simp [inRest]
      · by_cases here : a = x
        · simp [here]
        · simp [inRest, here]

theorem get?_replaceBreakpoints (session : Session Machine) (old new : List Address)
    (a : Address) :
    (replaceBreakpoints session old new).breakpoints.get? a =
      if a ∈ new then some ⟨a, false, {}⟩
      else if a ∈ old then none else session.breakpoints.get? a := by
  rw [replaceBreakpoints, get?_foldl_addBreakpoint, get?_foldl_removeBreakpoint]

theorem mem_foldl_insert (owned : AddressSet) (addresses : List Address) (a : Address) :
    a ∈ addresses.foldl (fun (owned : AddressSet) a => owned.insert a ()) owned ↔
      a ∈ addresses ∨ a ∈ owned := by
  induction addresses generalizing owned with
  | nil => simp
  | cons x rest ih =>
      rw [List.foldl_cons, ih, AddressMap.mem_insert_iff, List.mem_cons]
      constructor
      · rintro (inRest | here | old)
        · exact .inl (.inr inRest)
        · exact .inl (.inl here)
        · exact .inr old
      · rintro ((here | inRest) | old)
        · exact .inr (.inl here)
        · exact .inl inRest
        · exact .inr (.inr old)

theorem mem_addressSet {addresses : List Address} {a : Address} :
    a ∈ addressSet addresses ↔ a ∈ addresses := by
  simp [addressSet, mem_foldl_insert]

/-- What is owned after a request to replace the breakpoints is in the table as it was asked for. -/
theorem get?_of_setInstructionBreakpoints {r : Request} {files : Files} {clock : Clock}
    {s : Server} (named : r.command = "setInstructionBreakpoints") {p : Program}
    (launched : (r.accept files clock s).1.program = some p) {a : Address}
    (owned : a ∈ (r.accept files clock s).1.owned) :
    p.session.breakpoints.get? a = some ⟨a, false, {}⟩ := by
  cases found : s.program with
  | none =>
      have refused : r.accept files clock s = (s, _) :=
        accept_of_refused (e := .notLaunched) (by
          simp only [begun, begin, named, setInstructionBreakpoints, run_program_bind, found])
      rw [refused, found] at launched
      cases launched
  | some old =>
      have accepted : ∃ addresses actions, r.accept files clock s =
          ({ withSession s old (replaceBreakpoints old.session s.owned.keys addresses) with
            owned := addressSet addresses }, actions) := by
        simp only [accept, begun, begin, named, setInstructionBreakpoints, run_program_bind, found]
        exact ⟨_, _, rfl⟩
      obtain ⟨addresses, actions, accepted⟩ := accepted
      simp only [accepted, withSession, Option.some.injEq] at launched owned
      subst launched
      simp [get?_replaceBreakpoints, mem_addressSet.1 owned]

end Request

/-! ### What a move does to the table -/

/-- What one move may do to the breakpoint table, replacing the breakpoints apart. -/
inductive TableMove (move : Move) (s t : Session Machine) : Prop
  | kept (same : t.breakpoints = s.breakpoints)
  | toggled (a : Address) (there : t = (s.toggleBreakpoint a).2)
  | ranTo {around : Surroundings} {r : Request} {a : Address} (made : move = .accepts around r)
      (named : r.command = "runTo") (found : r.address s.labels = .ok a) (there : t = s.runTo a)
  | took {a : Address} {b : Breakpoint} (took : Session.Took s t a b)

namespace TableMove

variable {move : Move} {s t : Session Machine}

theorem takeOutput (executed : t.breakpoints = s.breakpoints ∨ ∃ a b, Session.Took s t a b) :
    TableMove move s t.takeOutput.2 := by
  rcases executed with same | ⟨a, b, took⟩
  · exact .kept same
  · exact .took ⟨took.entry, took.transient, took.state, took.table⟩

end TableMove

namespace Server

@[simp] theorem owned_perform (s : Server) (action : Action) :
    (s.perform action).1.owned = s.owned := by
  cases action with
  | singleStep =>
      simp only [perform, sendOutput]
      split
      · rfl
      · dsimp only
        split <;> rfl
  | _ => rfl

theorem program_perform_of_none {s : Server} (free : s.program = none) (action : Action) :
    (s.perform action).1.program = none := by
  cases action <;> simp [perform, modifyProgram, send, free]

theorem tableMove_perform {s : Server} {p q : Program} (launched : s.program = some p)
    (action : Action) (after : (s.perform action).1.program = some q) (move : Move) :
    TableMove move p.session q.session := by
  cases action with
  | singleStep =>
      simp only [perform, launched, Option.some.injEq] at after
      subst after
      exact .takeOutput (Session.breakpoints_runStep p.session)
  | release => simp [perform] at after
  | _ =>
      simp only [perform, modifyProgram, send, launched, Option.map_some,
        Option.some.injEq] at after
      subst after
      exact .kept (by simp)

theorem tableMove_workerTurn (p : Program) (move : Move) :
    TableMove move p.session (workerTurn p).2.session.takeOutput.2 := by
  simp only [workerTurn]
  split
  · exact .kept (by simp)
  · exact .takeOutput (Session.breakpoints_runTurn p.session)

theorem tableMove_workerStep? {s t : Server} (worked : s.workerStep? = some t) (move : Move) :
    t.owned = s.owned ∧ ∃ p q, s.program = some p ∧ t.program = some q ∧
      TableMove move p.session q.session := by
  obtain ⟨p, launched, worked⟩ := Option.bind_eq_some_iff.1 worked
  split at worked
  · split at worked
    · cases worked
    · cases worked
      exact ⟨rfl, p, _, launched, rfl, .kept rfl⟩
  · cases worked
    refine ⟨?_, p, _, launched, rfl, tableMove_workerTurn p move⟩
    dsimp only
    split <;> rfl
  · cases worked
    exact ⟨rfl, p, _, launched, rfl, .kept rfl⟩
  · cases worked
    exact ⟨rfl, p, _, launched, rfl, .kept rfl⟩

end Server

namespace Moment

variable {m n : Moment} {move : Move}

/-- A move other than replacing the breakpoints begins or ends the use of a program, or changes its
table in one of four ways and leaves what the client owns alone. -/
theorem tableMove_of_move? (made : m.move? move = some n)
    (other : ¬ move.AsksFor "setInstructionBreakpoints") {q : Program}
    (after : n.server.program = some q) :
    n.server.owned = ∅ ∨ n.server.owned = m.server.owned ∧
      ∃ p, m.server.program = some p ∧ TableMove move p.session q.session := by
  cases move with
  | accepts around r =>
      simp only [move?] at made
      split at made
      · have accepted := Request.accepted_accept around.files around.clock r m.server
        cases made
        dsimp only at after ⊢
        generalize r.accept around.files around.clock m.server = x at accepted after ⊢
        obtain ⟨s, actions⟩ := x
        cases accepted with
        | launched => exact .inl rfl
        | replaced _ named => exact absurd named other
        | toggled launched =>
            cases after
            exact .inr ⟨rfl, _, launched, .toggled _ rfl⟩
        | ranTo launched named found =>
            cases after
            exact .inr ⟨rfl, _, launched, .ranTo rfl named found rfl⟩
        | resumed launched =>
            cases after
            exact .inr ⟨rfl, _, launched, .kept (by simp)⟩
        | _ => exact .inr ⟨rfl, q, after, .kept rfl⟩
      · cases made
  | finishes =>
      simp only [move?] at made
      split at made
      · cases made
        exact .inr ⟨rfl, q, after, .kept rfl⟩
      · cases made
  | performs =>
      obtain ⟨action, rest, -, rfl, -⟩ := perform?_eq_some made
      refine .inr ⟨Server.owned_perform _ action, ?_⟩
      cases launched : m.server.program with
      | none =>
          rw [Server.program_perform_of_none launched] at after
          cases after
      | some p => exact ⟨p, rfl, Server.tableMove_perform launched action after _⟩
  | works =>
      obtain ⟨s, worked, eq⟩ := Option.map_eq_some_iff.1 made
      cases eq
      obtain ⟨owned, p, _, launched, launched', moved⟩ :=
        Server.tableMove_workerStep? worked .works
      rw [launched'] at after
      cases after
      exact .inr ⟨owned, p, launched, moved⟩

/-! ### Runs between two replacements -/

/-- A run in which the client does not ask to replace the breakpoints. -/
abbrev Undisturbed : Moment → Moment → Prop :=
  Runs fun move => ¬ move.AsksFor "setInstructionBreakpoints"

/-- The client asks to run to an address where the guest does not stand. -/
def RunsTo (a : Address) (m n : Moment) : Prop :=
  ∃ around r p, m.move? (.accepts around r) = some n ∧ r.command = "runTo" ∧
    m.server.program = some p ∧ r.address p.session.labels = .ok a ∧
    ¬(p.session.exitCode = none ∧ p.session.pc = a)

/-- Execution stops at an address that was run to, and its entry is taken. -/
def ArrivesAt (a : Address) (m n : Moment) : Prop :=
  ∃ move p q b, m.move? move = some n ∧ m.server.program = some p ∧ n.server.program = some q ∧
    b.flags = { oneShot := true } ∧ Session.Took p.session q.session a b

/-- Since the first moment the client asked to run to an address where the guest did not stand. -/
def Targeted (a : Address) (m n : Moment) : Prop :=
  ∃ x y, Undisturbed m x ∧ RunsTo a x y ∧ Undisturbed y n

/-- Since the first moment the client asked to run to an address, and execution stopped there. -/
def Reached (a : Address) (m n : Moment) : Prop :=
  ∃ x y, Targeted a m x ∧ ArrivesAt a x y ∧ Undisturbed y n

/-- An owned breakpoint as it may be found in the table. -/
def Kept (a : Address) (m n : Moment) (session : Session Machine) : Prop :=
  ∃ b, session.breakpoints.get? a = some b ∧
    (b.flags = {} ∨ b.flags = { oneShot := true } ∧ Targeted a m n)

section

variable {o : Moment} {a : Address}

theorem Targeted.next (targeted : Targeted a m n)
    (step : ∃ move, ¬ move.AsksFor "setInstructionBreakpoints" ∧ n.move? move = some o) :
    Targeted a m o := by
  obtain ⟨x, y, before, runsTo, after⟩ := targeted
  exact ⟨x, y, before, runsTo, after.tail step⟩

theorem Reached.next (reached : Reached a m n)
    (step : ∃ move, ¬ move.AsksFor "setInstructionBreakpoints" ∧ n.move? move = some o) :
    Reached a m o := by
  obtain ⟨x, y, targeted, arrives, after⟩ := reached
  exact ⟨x, y, targeted, arrives, after.tail step⟩

/-- An owned breakpoint is kept by every move, or its address is reached. -/
theorem Kept.next {p q : Program} (kept : Kept a m n p.session) (run : Undisturbed m n)
    (made : n.move? move = some o) (other : ¬ move.AsksFor "setInstructionBreakpoints")
    (before : n.server.program = some p) (after : o.server.program = some q)
    (moved : TableMove move p.session q.session) :
    Kept a m o q.session ∨ Reached a m o := by
  obtain ⟨b, entry, flags⟩ := kept
  have step : ∃ move, ¬ move.AsksFor "setInstructionBreakpoints" ∧ n.move? move = some o :=
    ⟨move, other, made⟩
  have flags' : b.flags = {} ∨ b.flags = { oneShot := true } ∧ Targeted a m o :=
    flags.imp id fun ⟨oneShot, targeted⟩ => ⟨oneShot, targeted.next step⟩
  cases moved with
  | kept same => exact .inl ⟨b, by rw [same, entry], flags'⟩
  | toggled x there =>
      have found := Session.get?_toggleBreakpoint p.session x a
      rw [← there] at found
      by_cases here : a = x
      · rw [if_pos here, ← here, entry] at found
        exact .inl ⟨_, found, flags'⟩
      · rw [if_neg here, entry] at found
        exact .inl ⟨_, found, flags'⟩
  | @ranTo around r x madeBy named address there =>
      subst madeBy
      have found := Session.get?_runTo p.session x a
      rw [← there] at found
      split at found
      · -- The entry is replaced, and from here on its address is the target.
        rename_i away
        obtain ⟨rfl, away⟩ := away
        have runsTo : RunsTo a n o := ⟨around, r, p, made, named, before, address, away⟩
        exact .inl ⟨_, found, .inr ⟨rfl, n, o, run, runsTo, .refl⟩⟩
      · exact .inl ⟨b, by rw [found, entry], flags'⟩
  | @took x taken took =>
      by_cases here : a = x
      · subst here
        obtain rfl : b = taken := Option.some.inj (entry.symm.trans took.entry.1)
        rcases flags with plain | ⟨oneShot, targeted⟩
        · -- A plain entry is not transient.
          have transient := took.transient
          simp [Breakpoint.isTransient, plain] at transient
        · exact .inr ⟨n, o, targeted, ⟨move, p, q, b, made, before, after, oneShot, took⟩, .refl⟩
      · have found : q.session.breakpoints.get? a = some b := by
          rw [took.table, ← entry]
          simp only [Breakpoints.get?, AddressMap.get?_erase, here, if_false]
        exact .inl ⟨b, found, flags'⟩

/-- From one replacement of the breakpoints to the next, every breakpoint that the client owns stays
in the table, possibly disabled or transient, unless the client asked to run to its address while
the guest was elsewhere and execution then stopped there. -/
theorem owned_breakpoint_kept {start m n : Moment} {around : Surroundings} {r : Request}
    (asked : r.command = "setInstructionBreakpoints")
    (replaced : start.move? (.accepts around r) = some m) (run : Undisturbed m n) {p : Program}
    (launched : n.server.program = some p) {a : Address} (owned : a ∈ n.server.owned) :
    (∃ b, p.session.breakpoints.get? a = some b) ∨ Reached a m n := by
  suffices held : Kept a m n p.session ∨ Reached a m n from
    held.imp (fun ⟨b, entry, _⟩ => ⟨b, entry⟩) id
  induction run generalizing p with
  | refl =>
      simp only [move?] at replaced
      split at replaced
      · cases replaced
        exact .inl ⟨_, Request.get?_of_setInstructionBreakpoints asked launched owned, .inl rfl⟩
      · cases replaced
  | @tail n o run step ih =>
      obtain ⟨move, other, made⟩ := step
      rcases tableMove_of_move? made other launched with fresh | ⟨same, q, before, moved⟩
      · rw [fresh] at owned
        exact absurd owned (AddressMap.notMem_empty a)
      · rw [same] at owned
        rcases ih before owned with kept | reached
        · exact kept.next run made other before launched moved
        · exact .inr (reached.next ⟨move, other, made⟩)

end

/-! ### A client that runs to an address -/

/-- A program of three instructions. -/
def threeInstructions : Surroundings where
  files := fun _ => .ok (Text.encode "10 nop\n11 nop\n12 nop\n")

/-- Launches the program. -/
def launching : List Move :=
  [.accepts threeInstructions ⟨1, "launch", .object [("program", .string "three")]⟩, .performs,
    .performs]

/-- Asks for one breakpoint, at the second instruction. -/
def breakAtSecond : Request :=
  ⟨2, "setInstructionBreakpoints",
    .object [("breakpoints", .array [.object [("instructionReference", .string "0x11")]])]⟩

/-- Enables or disables it. -/
def toggleSecond : Request :=
  ⟨4, "toggleBreakpoint", .object [("address", .string "0x11")]⟩

/-- Runs to an instruction, and lets the worker take one turn. -/
def runningTo (reference : String) : List Move :=
  [.performs, .accepts threeInstructions ⟨3, "runTo", .object [("address", .string reference)]⟩,
    .performs, .performs, .performs, .works, .works]

/-- What is found at the end of moves among which breakpoints are replaced is found after an
undisturbed run. -/
theorem exists_undisturbed (before : List Move) (around : Surroundings) (r : Request)
    (after : List Move) (P : Server → Program → Bool)
    (others : ∀ move ∈ after, ¬ move.AsksFor "setInstructionBreakpoints")
    (made : (({ server := {} } : Moment).moves? (before ++ .accepts around r :: after)).any
      (fun n => n.server.program.any (P n.server)) = true) :
    ∃ (start m n : Moment) (p : Program), Runs (fun _ => True) { server := {} } start ∧
      start.move? (.accepts around r) = some m ∧ Undisturbed m n ∧ n.server.program = some p ∧
      P n.server p = true := by
  obtain ⟨n, made, holds⟩ := (Option.any_eq_true _ _).1 made
  obtain ⟨p, launched, holds⟩ := (Option.any_eq_true _ _).1 holds
  rw [moves?_append] at made
  obtain ⟨start, before, made⟩ := Option.bind_eq_some_iff.1 made
  obtain ⟨m, replaced, made⟩ := Option.bind_eq_some_iff.1 made
  exact ⟨start, m, n, p, runs_of_moves? (fun _ _ => trivial) before, replaced,
    runs_of_moves? others made, launched, holds⟩

/-- Without the exception, owned breakpoints would not stay: one that was run to is gone. -/
theorem owned_breakpoint_lost :
    ¬ ∀ (start m n : Moment) (around : Surroundings) (r : Request) (p : Program) (a : Address),
      Runs (fun _ => True) { server := {} } start → r.command = "setInstructionBreakpoints" →
      start.move? (.accepts around r) = some m → Undisturbed m n →
      n.server.program = some p → a ∈ n.server.owned →
      ∃ b, p.session.breakpoints.get? a = some b := by
  intro kept
  obtain ⟨start, m, n, p, begun, replaced, run, launched, holds⟩ :=
    exists_undisturbed launching threeInstructions breakAtSecond (runningTo "0x11")
      (fun s p => decide (0x11 ∈ s.owned ∧ p.session.breakpoints.get? 0x11 = none))
      (by decide) (by decide +kernel)
  obtain ⟨owned, absent⟩ := of_decide_eq_true holds
  obtain ⟨b, entry⟩ := kept start m n _ _ p 0x11 begun rfl replaced run launched owned
  rw [absent] at entry
  cases entry

/-- A breakpoint at which execution stops on its way is kept, also when it is then disabled. -/
theorem owned_breakpoint_kept_on_the_way :
    ∃ (start m n : Moment) (p : Program), breakAtSecond.command = "setInstructionBreakpoints" ∧
      start.move? (.accepts threeInstructions breakAtSecond) = some m ∧ Undisturbed m n ∧
      n.server.program = some p ∧ 0x11 ∈ n.server.owned ∧
      p.session.state = .stopped (.breakpoint 0x11) ∧ p.session.breakpoints.isActive 0x11 = false ∧
      ((∃ b, p.session.breakpoints.get? 0x11 = some b) ∨ Reached 0x11 m n) := by
  obtain ⟨start, m, n, p, -, replaced, run, launched, holds⟩ :=
    exists_undisturbed launching threeInstructions breakAtSecond
      (runningTo "0x12" ++ [.accepts threeInstructions toggleSecond])
      (fun s p => decide (0x11 ∈ s.owned ∧ p.session.state = .stopped (.breakpoint 0x11) ∧
        p.session.breakpoints.isActive 0x11 = false))
      (by decide) (by decide +kernel)
  obtain ⟨owned, stopped, disabled⟩ := of_decide_eq_true holds
  exact ⟨start, m, n, p, rfl, replaced, run, launched, owned, stopped, disabled,
    owned_breakpoint_kept rfl replaced run launched owned⟩

end Moment

end GuestDebugger.Adapter
