import GuestDebugger.Proofs.Machine.Countdown
import GuestDebugger.Proofs.Session.RunningTo

/-! # Running through counted loops

A guest that is set running from the start of a counted loop to its exit gets there, and until then
executes what the loop stands for, however the instructions are divided into batches. Each turn
executes at least one instruction and no more than are left, and the turn that executes the last of
them is the one that stops. -/

namespace GuestDebugger.Session

open CountedLoop

variable {p : CountedLoop} {arrival : Registers} {s : Session Machine} {left : Nat}

/-- A guest on its way through a counted loop, and how many instructions are left to the exit. -/
structure Counting (p : CountedLoop) (arrival : Registers) (s : Session Machine) (left : Nat) :
    Prop where
  heading : Heading p.exit s
  engine : Machine.Counting p arrival s.engine left
  quiet : ∀ a, s.breakpoints.isActive a = true → a = p.exit
  alive : s.exitCode = none
  batchSize : s.batchSize ≠ 0

/-- Clearing a breakpoint that was hit leaves everything but the table. -/
theorem frozen_cleared (u : Session Machine) (b : Breakpoint) :
    Frozen u (if b.isTransient then u.removeBreakpoint u.pc else u) := by
  split
  · exact .removeBreakpoint u u.pc
  · exact .refl u

namespace Counting

theorem isActive_iff (counting : Counting p arrival s left) (a : Address) :
    s.breakpoints.isActive a = true ↔ a = p.exit := by
  constructor
  · exact counting.quiet a
  · rintro rfl
    exact Breakpoints.isActive_iff.2 ⟨_, counting.heading.armed, rfl⟩

/-- The session is judged after as many instructions as a batch is large, or after all of them. -/
theorem stepMany (counting : Counting p arrival s left) :
    ∃ (n : Nat) (u : Session Machine),
      s.stepMany = u.evaluateStop ∧ n = min s.batchSize.toNat left ∧ u.breakpoints = s.breakpoints ∧
      u.exitCode = none ∧ u.instructionCount = s.instructionCount + n ∧
      Machine.Counting p arrival u.engine (left - n) := by
  have inactive : s.breakpoints.isActive s.pc = false := by
    rw [Bool.eq_false_iff, ne_eq, counting.isActive_iff]
    exact counting.heading.away
  have breaks : ∀ a, s.engine.hasBreak a = true ↔ a = p.exit := by
    intro a
    rw [← counting.isActive_iff, ← counting.heading.mirrored.mem_iff_isActive, Machine.hasBreak,
      decide_eq_true_iff]
  have alive : s.host.readClock.2.exitCode = none := counting.alive
  obtain ⟨n, m', ran, size, engine⟩ := counting.engine.stepMany breaks alive s.batchSize
  have ran' : Engine.stepMany s.engine s.host.readClock.2 s.batchSize =
      ⟨m', s.host.readClock.2, .ok (UInt32.ofNat n)⟩ := ran
  have small : n < UInt32.size :=
    Nat.lt_of_le_of_lt (size ▸ Nat.min_le_left _ _) s.batchSize.toNat_lt
  let u := { s with engine := m', host := s.host.readClock.2.readClock.2 }.countInstructions n
  let elapsed := s.host.readClock.2.readClock.1 - s.host.readClock.1
  refine ⟨n, u.adapt (UInt32.ofNat n) elapsed, ?_, size, rfl, alive, rfl, engine⟩
  rw [stepMany_of_inactive counting.alive inactive]
  simp only [runBatch, ran', UInt32.toNat_ofNat_of_lt' small]
  rfl

/-- A turn is one batch. The guest is still on its way after it, or has arrived with all that was
left done. -/
theorem runTurn (counting : Counting p arrival s left) :
    (s.runTurn.1 = .goesOn ∧ ∃ n, 0 < n ∧ n < left ∧
        s.runTurn.2.instructionCount = s.instructionCount + n ∧
        Counting p arrival s.runTurn.2 (left - n)) ∨
      (s.runTurn.1 = .stopped (.breakpoint p.exit) ∧
        s.runTurn.2.instructionCount = s.instructionCount + left ∧
        s.runTurn.2.engine.registers = arrival) := by
  have goesOn := counting.heading.goesOn
  have positive := (judged_stepMany s).batchSize counting.batchSize
  obtain ⟨n, u, batch, size, same, alive, count, engine⟩ := counting.stepMany
  have arrived : u.pc = p.exit ↔ left - n = 0 := engine.place.at_exit_iff
  have turn := runTurn_eq counting.heading.running
  rw [batch] at turn positive
  have evaluated := evaluated_evaluateStop u
  generalize u.evaluateStop = x at turn positive evaluated
  cases evaluated with
  | exited ended => cases alive.symm.trans ended
  | @breakpoint b _ entry enabled =>
      have active := Breakpoints.isActive_iff.2 ⟨_, entry, enabled⟩
      rw [same] at active
      have here := counting.quiet _ active
      have done := arrived.1 here
      have all : n = left := by omega
      rw [done] at engine
      have frozen := frozen_cleared u b
      rcases turn with ⟨goesOn, -⟩ | ⟨stops, told⟩
      · cases goesOn
      · rw [← (Prod.mk.inj stops).2] at told ⊢
        refine .inr ⟨?_, ?_, ?_⟩
        · rw [told, here]
          rfl
        · rw [← all, ← count]
          exact frozen.instructionCount
        · rw [← engine.registers]
          exact frozen.registers
  | goesOn _ inactive =>
      have away : u.pc ≠ p.exit := by
        intro here
        rw [same, here, (counting.isActive_iff _).2 rfl] at inactive
        cases inactive
      have rest : left - n ≠ 0 := fun done => away (arrived.2 done)
      have batchSize : s.batchSize.toNat ≠ 0 := fun zero =>
        counting.batchSize (UInt32.toNat_inj.1 zero)
      rcases turn with ⟨answer, told⟩ | ⟨stops, -⟩
      · have heading := goesOn told
        rw [← (Prod.mk.inj answer).2] at heading ⊢
        refine .inl ⟨told, n, by omega, by omega, count, heading, engine, ?_, alive, positive⟩
        rw [same]
        exact counting.quiet
      · cases stops

/-- The induction is on what is left. -/
theorem arrives (counting : Counting p arrival s left) :
    ∃ turns t, Repeats Session.runTurn .goesOn turns s (.stopped (.breakpoint p.exit)) t ∧
      t.instructionCount = s.instructionCount + left ∧ t.engine.registers = arrival := by
  induction left using Nat.strongRecOn generalizing s with
  | ind left ih =>
      rcases counting.runTurn with ⟨turn, n, more, fewer, count, next⟩ | ⟨turn, count, registers⟩
      · obtain ⟨turns, t, repeats, total, registers⟩ := ih (left - n) (by omega) next
        refine ⟨turns + 1, t, .again (Prod.ext turn rfl) repeats, ?_, registers⟩
        rw [total, count]
        omega
      · exact ⟨1, _, .once (Prod.ext turn rfl), count, registers⟩

end Counting

/-! ### From the start -/

theorem runTo_of_away {a : Address} (alive : s.exitCode = none) (away : s.pc ≠ a) :
    s.runTo a = { s.addBreakpoint a { oneShot := true } with state := .running } := by
  have notHere : (s.exitCode.isNone && s.pc == a) = false := by simp [away]
  have alive' : (s.addBreakpoint a { oneShot := true }).exitCode = none := alive
  rw [runTo, notHere]
  simp only [Bool.false_eq_true, if_false, startRunning, alive']

theorem instructionCount_runTo (s : Session Machine) (a : Address) :
    (s.runTo a).instructionCount = s.instructionCount := by
  simp only [runTo, startRunning]
  split
  · rfl
  · split <;> rfl

theorem counting_runTo (mirrored : s.Mirrored) (alive : s.exitCode = none)
    (batchSize : s.batchSize ≠ 0) (quiet : ∀ a, a ≠ p.exit → s.breakpoints.isActive a = false)
    (loaded : s.engine.listing = p.listing) (start : s.pc = p.start) :
    Counting p { s.engine.registers with ecx := 0, eip := p.exit } (s.runTo p.exit) p.total := by
  have place : p.Place s.engine.registers p.total := .start start
  have away : s.pc ≠ p.exit := by
    intro here
    have nothing := place.at_exit_iff.1 here
    rw [total] at nothing
    omega
  have heading := heading_runTo mirrored alive away
  have entries := get?_runTo s p.exit
  have ran := runTo_of_away alive away
  generalize s.runTo p.exit = t at ran heading entries
  rw [ran] at heading entries ⊢
  refine ⟨heading, ⟨loaded, place, rfl⟩, ?_, alive, batchSize⟩
  intro a active
  by_cases other : a = p.exit
  · exact other
  · obtain ⟨b, entry, enabled⟩ := Breakpoints.isActive_iff.1 active
    rw [entries, if_neg fun at_exit => other at_exit.1] at entry
    have active' := Breakpoints.isActive_iff.2 ⟨b, entry, enabled⟩
    cases (quiet a other).symm.trans active'

/-- A counted loop runs as many rounds as its count tells, and as many as there are words if that is
zero. A guest that is set running from its start to its exit stops there, whatever the size of the
batches, unless another breakpoint is in the way: the setting of the counter and every instruction
of every round are counted, the counter is zero, and no other register but the instruction pointer
is touched. -/
theorem runTo_exit_counts_rounds (p : CountedLoop) (reached : Reachable s)
    (loaded : s.engine.listing = p.listing) (start : s.pc = p.start) (alive : s.exitCode = none)
    (quiet : ∀ a, a ≠ p.exit → s.breakpoints.isActive a = false) (size : UInt32)
    (settings : StepSettings) :
    ∃ turns t,
      Repeats runTurn .goesOn turns ((s.tuned size settings).runTo p.exit)
        (.stopped (.breakpoint p.exit)) t ∧
      t.pc = p.exit ∧
      t.instructionCount = s.instructionCount +
        (1 + (if p.count = 0 then UInt32.size else p.count.toNat) * (p.body.length + 1)) ∧
      t.engine.registers = { s.engine.registers with ecx := 0, eip := p.exit } := by
  have counting : Counting p _ ((s.tuned size settings).runTo p.exit) p.total :=
    counting_runTo reached.mirrored alive (max_one_ne_zero size) quiet loaded start
  obtain ⟨turns, t, repeats, count, registers⟩ := counting.arrives
  refine ⟨turns, t, repeats, ?_, ?_, registers⟩
  · exact congrArg Registers.eip registers
  · rw [count, instructionCount_runTo]
    rfl

/-- Three rounds of one instruction and the test. -/
theorem runTo_exit_counts_three_rounds :
    let p : CountedLoop := ⟨0x10, 3, [0x12], 0x13, 0x20, .exit 7, by decide⟩
    let s := create (Machine.create p.listing 16) {} {}
    Reachable s ∧ s.engine.listing = p.listing ∧ s.pc = p.start ∧ s.exitCode = none ∧
      (∀ a, a ≠ p.exit → s.breakpoints.isActive a = false) ∧
      ∃ turns t,
        Repeats runTurn .goesOn turns ((s.tuned 2 {}).runTo 0x20)
          (.stopped (.breakpoint 0x20)) t ∧
        t.pc = 0x20 ∧ t.instructionCount = s.instructionCount + (1 + 3 * (1 + 1)) ∧
        t.engine.registers = { s.engine.registers with ecx := 0, eip := 0x20 } := by
  intro p s
  have reached : Reachable s := reachable_create _ _ _ _
  have start : s.pc = p.start := by decide
  exact ⟨reached, rfl, start, rfl, fun _ _ => rfl,
    runTo_exit_counts_rounds p reached rfl start rfl (fun _ _ => rfl) 2 {}⟩

end GuestDebugger.Session
