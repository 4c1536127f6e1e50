import GuestDebugger.Proofs.Machine.Batch
import Mathlib.Data.List.Count

/-! # Machines that are watched

A watched machine writes down every instruction that it attempts. It is an engine of its own and
executes as the machine in it does, so that what a session makes of a machine can be told together
with the instructions that were attempted on the way.

## Implementation notes

The log belongs to the engine and not to the session: sessions stay as they are, and none of them
can look at it. -/

namespace GuestDebugger

/-- An attempt to execute an instruction. -/
structure Attempt where
  /-- Where the instruction was looked for. -/
  address : Address
  /-- Whether it was there and did not fail. -/
  completed : Bool
deriving DecidableEq, Repr

/-- How many attempts were completed. -/
def completions (log : List Attempt) : Nat := log.countP (·.completed)

/-- Whether an attempt failed. -/
def Failing (log : List Attempt) : Prop := ∃ x ∈ log, x.completed = false

instance (log : List Attempt) : Decidable (Failing log) :=
  inferInstanceAs (Decidable (∃ x ∈ log, x.completed = false))

/-- A machine with all that it attempted, in order. -/
structure Watched where
  /-- The machine. -/
  machine : Machine
  /-- What it attempted so far. -/
  log : List Attempt := []

namespace Watched

/-- Executes the instruction at the instruction pointer, and writes it down. -/
def step (w : Watched) (h : Host) : Ran Watched Unit :=
  let ran := w.machine.step h
  let attempt : Attempt := ⟨w.machine.pc, ran.outcome.isOk⟩
  ⟨⟨ran.engine, w.log ++ [attempt]⟩, ran.host, ran.outcome⟩

/-- Executes at most `fuel` more instructions of a batch in which `done` ran. -/
def runBatch (done : UInt32) : (fuel : Nat) → Watched → Host → Ran Watched UInt32
  | 0, w, h => ⟨w, h, .ok done⟩
  | fuel + 1, w, h =>
      if w.machine.hasBreak w.machine.pc then ⟨w, h, .ok done⟩
      else match w.step h with
        | ⟨w, h, .error halt⟩ => ⟨w, h, .error halt⟩
        | ⟨w, h, .ok ()⟩ =>
            if h.exitCode.isSome then ⟨w, h, .ok (done + 1)⟩ else runBatch (done + 1) fuel w h

instance : Engine Watched where
  addBreak w a := { w with machine := BreakSet.addBreak w.machine a }
  removeBreak w a := { w with machine := BreakSet.removeBreak w.machine a }
  pc w := w.machine.pc
  registers w := w.machine.registers
  memory w := w.machine.memory
  disassemble w := w.machine.disassemble
  step := step
  stepMany w h count := runBatch 0 count.toNat w h

end Watched

/-! ### Forgetting the log -/

/-- What another engine leaves behind. -/
def Ran.map {ε δ α : Type} (f : ε → δ) (ran : Ran ε α) : Ran δ α :=
  ⟨f ran.engine, ran.host, ran.outcome⟩

/-- A map to engines that show the same and do the same. -/
structure Engine.Hom {ε δ : Type} [Engine ε] [Engine δ] (f : ε → δ) : Prop where
  pc : ∀ e, Engine.pc (f e) = Engine.pc e
  registers : ∀ e, Engine.registers (f e) = Engine.registers e
  memory : ∀ e, Engine.memory (f e) = Engine.memory e
  disassemble : ∀ e, Engine.disassemble (f e) = Engine.disassemble e
  addBreak : ∀ e a, BreakSet.addBreak (f e) a = f (BreakSet.addBreak e a)
  removeBreak : ∀ e a, BreakSet.removeBreak (f e) a = f (BreakSet.removeBreak e a)
  step : ∀ e h, Engine.step (f e) h = (Engine.step e h).map f
  stepMany : ∀ e h count, Engine.stepMany (f e) h count = (Engine.stepMany e h count).map f

namespace Watched

theorem map_runBatch (done : UInt32) (fuel : Nat) (w : Watched) (h : Host) :
    (runBatch done fuel w h).map machine = w.machine.runBatch done fuel h := by
  induction fuel generalizing done w h with
  | zero => rfl
  | succ fuel ih =>
      simp only [runBatch, Machine.runBatch]
      split
      · rfl
      · simp only [step]
        cases w.machine.step h with
        | mk m h' outcome =>
            cases outcome with
            | error halt => rfl
            | ok done' =>
                dsimp only
                split
                · rfl
                · exact ih (done + 1) _ h'

/-- A watched machine executes as the machine in it. -/
theorem hom_machine : Engine.Hom machine where
  pc _ := rfl
  registers _ := rfl
  memory _ := rfl
  disassemble _ := rfl
  addBreak _ _ := rfl
  removeBreak _ _ := rfl
  step _ _ := rfl
  stepMany w h count := (map_runBatch 0 count.toNat w h).symm

/-! ### What is written down -/

theorem completions_append (log new : List Attempt) :
    completions (log ++ new) = completions log + completions new := List.countP_append

theorem failing_append (log new : List Attempt) :
    Failing (log ++ new) ↔ Failing log ∨ Failing new := by
  simp only [Failing, List.mem_append, or_and_right, exists_or]

theorem completions_of_completed {new : List Attempt} (completed : ∀ x ∈ new, x.completed = true) :
    completions new = new.length := List.countP_eq_length.2 completed

theorem completions_lt_of_failing {new : List Attempt} (failing : Failing new) :
    completions new < new.length := List.countP_lt_length_iff.2 failing

/-- A single step writes down one attempt. -/
theorem logged_step (w : Watched) (h : Host) :
    (∃ e, (Engine.step w h).outcome = .error (.error e) ∧
        (Engine.step w h).engine.log = w.log ++ [⟨w.machine.pc, false⟩]) ∨
      ((Engine.step w h).outcome = .ok () ∧
        (Engine.step w h).engine.log = w.log ++ [⟨w.machine.pc, true⟩]) := by
  have stepped := Machine.stepped_step w.machine h
  have same : Engine.step w h = w.step h := rfl
  simp only [same, step]
  generalize w.machine.step h = ran at stepped ⊢
  cases stepped with
  | failed e _ => exact .inl ⟨e, rfl, rfl⟩
  | done _ => exact .inr ⟨rfl, rfl⟩

/-- What a batch writes down. If it finishes, it tells how many instructions were completed, which
are all; if it does not, one failed. -/
structure Logged (log : List Attempt) (done : UInt32) (fuel : Nat) (new : List Attempt)
    (ran : Ran Watched UInt32) : Prop where
  log : ran.engine.log = log ++ new
  finished : ∀ total, ran.outcome = .ok total →
    total = done + UInt32.ofNat new.length ∧ new.length ≤ fuel ∧ ∀ x ∈ new, x.completed = true
  failed : ∀ halt, ran.outcome = .error halt → (∃ e, halt = .error e) ∧ Failing new

theorem Logged.nothing (w : Watched) (h : Host) (done : UInt32) (fuel : Nat) :
    Logged w.log done fuel [] ⟨w, h, .ok done⟩ := by
  constructor
  · exact (List.append_nil w.log).symm
  · intro total eq
    cases eq
    exact ⟨by simp, Nat.zero_le fuel, nofun⟩
  · intro halt eq
    cases eq

/-- A completed instruction before a batch is the first that is written down. -/
theorem Logged.more {log new : List Attempt} {done : UInt32} {fuel : Nat}
    {ran : Ran Watched UInt32} (address : Address)
    (rest : Logged (log ++ [⟨address, true⟩]) (done + 1) fuel new ran) :
    Logged log done (fuel + 1) (⟨address, true⟩ :: new) ran where
  log := rest.log.trans (by simp)
  finished total eq := by
    obtain ⟨sum, bounded, completed⟩ := rest.finished total eq
    refine ⟨?_, Nat.succ_le_succ bounded, by simpa using completed⟩
    exact sum.trans (Machine.total_succ done new.length)
  failed halt eq := by
    obtain ⟨error, x, mem, failed⟩ := rest.failed halt eq
    exact ⟨error, x, List.mem_cons_of_mem _ mem, failed⟩

/-- The induction follows the batch: what the rest writes down comes after the first attempt. -/
theorem logged_runBatch (done : UInt32) (fuel : Nat) (w : Watched) (h : Host) :
    ∃ new, Logged w.log done fuel new (runBatch done fuel w h) := by
  induction fuel generalizing done w h with
  | zero => exact ⟨[], .nothing w h done 0⟩
  | succ fuel ih =>
      simp only [runBatch]
      split
      · exact ⟨[], .nothing w h done (fuel + 1)⟩
      · simp only [step]
        have stepped := Machine.stepped_step w.machine h
        generalize w.machine.step h = ran at stepped ⊢
        cases stepped with
        | failed e _ =>
            refine ⟨[⟨w.machine.pc, false⟩], ?_⟩
            constructor
            · rfl
            · intro total eq
              cases eq
            · intro halt eq
              cases eq
              exact ⟨⟨e, rfl⟩, _, List.mem_singleton_self _, rfl⟩
        | @done m' h' _ =>
            dsimp only
            split
            · have last := Logged.nothing ⟨m', w.log ++ [⟨w.machine.pc, true⟩]⟩ h' (done + 1) fuel
              exact ⟨_, last.more w.machine.pc⟩
            · obtain ⟨new, rest⟩ := ih (done + 1) ⟨m', w.log ++ [⟨w.machine.pc, true⟩]⟩ h'
              exact ⟨_, rest.more w.machine.pc⟩

/-- A batch tells how many of its attempts were completed. -/
theorem logged_stepMany (w : Watched) (h : Host) (count : UInt32) :
    ∃ new, (Engine.stepMany w h count).engine.log = w.log ++ new ∧
      (∀ total, (Engine.stepMany w h count).outcome = .ok total →
        total.toNat = completions new ∧ ∀ x ∈ new, x.completed = true) ∧
      ∀ halt, (Engine.stepMany w h count).outcome = .error halt →
        (∃ e, halt = .error e) ∧ Failing new := by
  obtain ⟨new, logged⟩ := logged_runBatch 0 count.toNat w h
  refine ⟨new, logged.log, ?_, logged.failed⟩
  intro total eq
  obtain ⟨sum, bounded, completed⟩ := logged.finished total eq
  have less := UInt32.toNat_lt_size count
  have all := completions_of_completed completed
  refine ⟨?_, completed⟩
  rw [sum, UInt32.zero_add, UInt32.toNat_ofNat_of_lt' (by omega), all]

/-! ### Addresses at which nothing is attempted -/

/-- What executing leaves behind that attempted nothing at an address. An instruction that failed is
the next one still, so it is not there either. -/
structure Avoids {α : Type} (a : Address) (ran : Ran Watched α) : Prop where
  log : ∀ x ∈ ran.engine.log, x.address ≠ a
  failed : ∀ halt, ran.outcome = .error halt → ran.engine.machine.pc ≠ a

theorem avoids_step {w : Watched} {a : Address} (away : w.machine.pc ≠ a)
    (log : ∀ x ∈ w.log, x.address ≠ a) (h : Host) : Avoids a (w.step h) := by
  have stepped := Machine.stepped_step w.machine h
  simp only [step]
  generalize w.machine.step h = ran at stepped ⊢
  constructor
  · intro x mem
    rcases List.mem_append.1 mem with mem | mem
    · exact log x mem
    · rw [List.mem_singleton.1 mem]
      exact away
  · intro halt failed
    cases stepped with
    | done => cases failed
    | failed => exact away

theorem breaks_step (w : Watched) (h : Host) :
    (w.step h).engine.machine.breaks = w.machine.breaks := by
  have stepped := Machine.stepped_step w.machine h
  simp only [step]
  generalize w.machine.step h = ran at stepped ⊢
  cases stepped with
  | done frame => exact frame.breaks
  | failed => rfl

/-- A batch attempts nothing at an address of the break set. -/
theorem avoids_runBatch {w : Watched} {a : Address} (stop : w.machine.hasBreak a = true)
    (log : ∀ x ∈ w.log, x.address ≠ a) (done : UInt32) (fuel : Nat) (h : Host) :
    Avoids a (runBatch done fuel w h) := by
  induction fuel generalizing done w h with
  | zero => exact ⟨log, nofun⟩
  | succ fuel ih =>
      simp only [runBatch]
      split
      · exact ⟨log, nofun⟩
      · rename_i notAtBreak
        have away : w.machine.pc ≠ a := by
          intro here
          rw [here] at notAtBreak
          exact notAtBreak stop
        have first := avoids_step away log h
        have breaks := w.breaks_step h
        split <;> rename_i ran <;> rw [ran] at first breaks
        · exact ⟨first.log, fun _ _ => first.failed _ rfl⟩
        · split
          · exact ⟨first.log, nofun⟩
          · refine ih ?_ first.log (done + 1) _
            rw [Machine.hasBreak, breaks]
            exact stop

end Watched

end GuestDebugger
