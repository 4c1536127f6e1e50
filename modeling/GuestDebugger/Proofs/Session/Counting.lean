import GuestDebugger.Proofs.Session.Engines

/-! # How instructions are counted

Single steps are counted when they are done, batches when the engine tells how many instructions
ran. An engine that fails does not tell, so what ran in a batch before an instruction that fails is
not counted. The step by which a batch leaves a breakpoint is counted on its own.

## Implementation notes

What completes is read off the log of a watched machine. A session does not see the log, so it does
with a watched machine what it does with the machine in it. -/

namespace GuestDebugger

/-- Whether the guest stopped because of a fault. -/
def RunState.IsFault (state : RunState) : Prop := ∃ cause, state = .stopped (.fault cause)

namespace Session

/-- How many instructions a batch executes and counts before it runs on its own: the one that
leaves a breakpoint. -/
def leaving {ε : Type} [Engine ε] (s : Session ε) : Nat :=
  if s.breakpoints.isActive s.pc then 1 else 0

/-- What an operation writes down, and what it counts of it: all if nothing fails, else no more than
what was executed before the batch. -/
inductive Recorded (before : Nat) (w w' : Session Watched) (new : List Attempt) : Prop
  | completed (log : w'.engine.log = w.engine.log ++ new)
      (completed : ∀ x ∈ new, x.completed = true)
      (count : w'.instructionCount = w.instructionCount + completions new)
  | failed (log : w'.engine.log = w.engine.log ++ new) (failing : Failing new)
      (count : w'.instructionCount = w.instructionCount + min before (completions new))
      (fault : w'.state.IsFault)

theorem log_removeBreakpoint (w : Session Watched) (a : Address) :
    (w.removeBreakpoint a).engine.log = w.engine.log := by
  simp only [removeBreakpoint, withBreakpoints, Breakpoints.remove]
  split <;> rfl

namespace Recorded

variable {before : Nat} {w u w' : Session Watched} {new : List Attempt}

theorem nothing (log : w'.engine.log = w.engine.log)
    (count : w'.instructionCount = w.instructionCount) : Recorded before w w' [] :=
  .completed (by simpa using log) nofun count

/-- Judging a session neither executes nor counts. -/
theorem judged (u : Session Watched) :
    u.evaluateStop.2.engine.log = u.engine.log ∧
      u.evaluateStop.2.instructionCount = u.instructionCount := by
  simp only [Session.evaluateStop]
  split
  · exact ⟨rfl, rfl⟩
  · split
    · rename_i b _
      cases b.disabled
      · cases b.isTransient
        · exact ⟨rfl, rfl⟩
        · exact ⟨log_removeBreakpoint u u.pc, rfl⟩
      · exact ⟨rfl, rfl⟩
    · exact ⟨rfl, rfl⟩

/-- What was completed before a session is judged. -/
theorem evaluateStop (log : u.engine.log = w.engine.log ++ new)
    (completed : ∀ x ∈ new, x.completed = true)
    (count : u.instructionCount = w.instructionCount + completions new) :
    Recorded before w u.evaluateStop.2 new :=
  .completed ((judged u).1.trans log) completed ((judged u).2.trans count)

/-- A crash is a fault for whoever takes a turn. -/
theorem stop (recorded : Recorded before w u new) (cause : Halt) :
    Recorded before w (u.stop (.fault cause)) new := by
  cases recorded with
  | completed log completed count => exact .completed log completed count
  | failed log failing count _ => exact .failed log failing count ⟨cause, rfl⟩

/-- An instruction before a batch that is counted on its own. -/
theorem leave {address : Address} (log : u.engine.log = w.engine.log ++ [⟨address, true⟩])
    (count : u.instructionCount = w.instructionCount + 1) (rest : Recorded 0 u w' new) :
    Recorded 1 w w' (⟨address, true⟩ :: new) := by
  have one : completions (⟨address, true⟩ :: new) = completions new + 1 := by
    simp [completions]
  cases rest with
  | completed log' completed count' =>
      refine .completed (log'.trans ?_) (by simpa using completed) ?_
      · rw [log, List.append_assoc, List.singleton_append]
      · omega
  | failed log' failing count' fault =>
      obtain ⟨x, mem, failed⟩ := failing
      refine .failed (log'.trans ?_) ⟨x, List.mem_cons_of_mem _ mem, failed⟩ ?_ fault
      · rw [log, List.append_assoc, List.singleton_append]
      · omega

end Recorded

/-- A single step writes down one attempt at most. -/
theorem recorded_step (before : Nat) (w : Session Watched) :
    ∃ new, new.length ≤ 1 ∧ Recorded before w w.step.2 new := by
  cases ended : w.exitCode with
  | some code =>
      rw [step_of_exited ended]
      exact ⟨[], Nat.zero_le 1, .nothing rfl rfl⟩
  | none =>
      obtain ⟨state, entered, -⟩ := w.enterStep_eq
      rw [step_of_alive ended, entered]
      rcases Watched.logged_step w.engine w.host with ⟨e, outcome, log⟩ | ⟨outcome, log⟩
      · refine ⟨[⟨w.engine.machine.pc, false⟩], Nat.le_refl 1, ?_⟩
        have zero : min before (completions [⟨w.engine.machine.pc, false⟩]) = 0 :=
          Nat.min_zero before
        rw [outcome]
        refine .failed log ⟨_, List.mem_singleton_self _, rfl⟩ ?_ ⟨_, rfl⟩
        rw [zero]
        rfl
      · refine ⟨[⟨w.engine.machine.pc, true⟩], Nat.le_refl 1, ?_⟩
        rw [outcome]
        exact .evaluateStop log (by simp) rfl

/-- A batch without the step before it counts nothing if it fails. -/
theorem recorded_runBatch (w : Session Watched) : ∃ new, Recorded 0 w w.runBatch.2 new := by
  obtain ⟨new, log, finished, failed⟩ :=
    Watched.logged_stepMany w.engine w.host.readClock.2 w.batchSize
  simp only [runBatch]
  refine ⟨new, ?_⟩
  split
  · rename_i halt eq
    obtain ⟨⟨e, rfl⟩, failing⟩ := failed halt eq
    exact .failed log failing (by rw [Nat.zero_min]; rfl) ⟨_, rfl⟩
  · rename_i executed eq
    obtain ⟨sum, completed⟩ := finished executed eq
    exact .evaluateStop log completed (congrArg (w.instructionCount + ·) sum)

theorem recorded_stepMany (w : Session Watched) :
    ∃ new, Recorded w.leaving w w.stepMany.2 new := by
  cases ended : w.exitCode with
  | some code =>
      rw [stepMany_of_exited ended]
      exact ⟨[], .nothing rfl rfl⟩
  | none =>
      cases active : w.breakpoints.isActive w.pc with
      | false =>
          have zero : w.leaving = 0 := by rw [leaving, active]; rfl
          rw [stepMany_of_inactive ended active, zero]
          exact recorded_runBatch w
      | true =>
          have one : w.leaving = 1 := by rw [leaving, active]; rfl
          rw [stepMany_of_active ended active, one]
          rcases Watched.logged_step w.engine w.host with ⟨e, outcome, log⟩ | ⟨outcome, log⟩
          · refine ⟨[⟨w.engine.machine.pc, false⟩], ?_⟩
            rw [outcome]
            exact .failed log ⟨_, List.mem_singleton_self _, rfl⟩ rfl ⟨_, rfl⟩
          · rw [outcome]
            simp only [runRest]
            split
            · exact ⟨_, .evaluateStop log (by simp) rfl⟩
            · obtain ⟨new, rest⟩ := recorded_runBatch
                ((w.afterRun (Engine.step w.engine w.host)).countInstructions 1)
              exact ⟨_, rest.leave log rfl⟩

theorem recorded_runTurn (w : Session Watched) :
    ∃ new, Recorded w.leaving w w.runTurn.2 new := by
  obtain ⟨new, batch⟩ := recorded_stepMany w
  simp only [runTurn]
  split
  · generalize w.stepMany = x at batch ⊢
    obtain ⟨answer, t⟩ := x
    cases answer with
    | ok goesOn => cases goesOn <;> exact ⟨new, batch⟩
    | error c => exact ⟨new, batch.stop (.crash c)⟩
  · exact ⟨[], .nothing rfl rfl⟩

/-- An operation that does not execute writes down and counts nothing. -/
theorem recorded_of_not_executes (w : Session Watched) {o : Operation} (idle : ¬o.Executes)
    (before : Nat) : Recorded before w (w.apply o) [] := by
  cases o with
  | step | stepMany | runStep | runTurn => exact absurd trivial idle
  | startRunning =>
      simp only [apply, startRunning]
      split <;> exact .nothing rfl rfl
  | stopRunning =>
      simp only [apply, stopRunning]
      split <;> exact .nothing rfl rfl
  | runTo a =>
      simp only [apply, runTo]
      split
      · exact .nothing rfl rfl
      · simp only [startRunning]
        split <;> exact .nothing rfl rfl
  | removeBreakpoint a => exact .nothing (log_removeBreakpoint w a) rfl
  | toggleBreakpoint a =>
      simp only [apply, toggleBreakpoint, Breakpoints.toggle]
      cases w.breakpoints.get? a with
      | none => exact .nothing rfl rfl
      | some b =>
          refine .nothing ?_ rfl
          dsimp only [withBreakpoints]
          split <;> rfl
  | addBreakpoint | takeOutput | setLabels | passTime => exact .nothing rfl rfl

/-- Every operation counts what it writes down but for what ran in a batch that failed. -/
theorem recorded_apply (w : Session Watched) (o : Operation) :
    ∃ new, (o = .stepMany ∨ o = .runTurn ∨ new.length ≤ 1) ∧
      Recorded w.leaving w (w.apply o) new := by
  cases o with
  | step =>
      obtain ⟨new, single, recorded⟩ := recorded_step w.leaving w
      exact ⟨new, .inr (.inr single), recorded⟩
  | stepMany =>
      obtain ⟨new, recorded⟩ := recorded_stepMany w
      exact ⟨new, .inl rfl, recorded⟩
  | runStep =>
      obtain ⟨new, single, recorded⟩ := recorded_step w.leaving w
      refine ⟨new, .inr (.inr single), ?_⟩
      simp only [apply, runStep]
      generalize w.step = x at recorded ⊢
      obtain ⟨answer, t⟩ := x
      cases answer with
      | ok goesOn => exact recorded
      | error c => exact recorded.stop (.crash c)
  | runTurn =>
      obtain ⟨new, recorded⟩ := recorded_runTurn w
      exact ⟨new, .inr (.inl rfl), recorded⟩
  | _ => exact ⟨[], .inr (.inr (Nat.zero_le 1)), recorded_of_not_executes w id w.leaving⟩

/-- What a sequence of operations writes down and counts. -/
structure Tallied (w w' : Session Watched) (new : List Attempt) : Prop where
  /-- It writes down more and takes nothing back. -/
  log : w'.engine.log = w.engine.log ++ new
  /-- Nothing is counted that was not completed. -/
  most : w'.instructionCount ≤ w.instructionCount + completions new
  /-- If nothing failed, all is counted. -/
  all : ¬Failing new → w'.instructionCount = w.instructionCount + completions new

theorem Tallied.refl (w : Session Watched) : Tallied w w [] :=
  ⟨(List.append_nil _).symm, Nat.le_refl _, fun _ => rfl⟩

theorem Tallied.recorded {before : Nat} {w u w' : Session Watched} {new more : List Attempt}
    (tallied : Tallied w u new) (recorded : Recorded before u w' more) :
    Tallied w w' (new ++ more) := by
  have sum := Watched.completions_append new more
  have most := tallied.most
  cases recorded with
  | completed log _ count =>
      refine ⟨by rw [log, tallied.log, List.append_assoc], by omega, ?_⟩
      intro quiet
      rw [Watched.failing_append, not_or] at quiet
      have all := tallied.all quiet.1
      omega
  | failed log failing count _ =>
      refine ⟨by rw [log, tallied.log, List.append_assoc], by omega, ?_⟩
      intro quiet
      rw [Watched.failing_append, not_or] at quiet
      exact absurd failing quiet.2

/-- No sequence of operations counts more than what it completes, and one in which nothing fails
counts all of it. -/
theorem Driven.tallied {w w' : Session Watched} (driven : Driven w w') :
    ∃ new, Tallied w w' new := by
  refine driven.keeps (P := fun u => ∃ new, Tallied w u new) ?_ ⟨[], .refl w⟩
  rintro u o ⟨new, tallied⟩
  obtain ⟨more, -, recorded⟩ := recorded_apply u o
  exact ⟨_, tallied.recorded recorded⟩

/-! ### What a session counts -/

/-- The session with a watched machine that attempted nothing so far. -/
def watched (s : Session Machine) : Session Watched := s.map fun m => { machine := m }

/-- What an operation attempts. -/
def attempts (s : Session Machine) (o : Operation) : List Attempt := (s.watched.apply o).engine.log

/-- How many instructions an operation completes. -/
def completed (s : Session Machine) (o : Operation) : Nat := completions (s.attempts o)

/-- Whether an operation leaves instructions uncounted: one failed, and others were completed in the
same batch before it. -/
def Loses (s : Session Machine) (o : Operation) : Prop :=
  Failing (s.attempts o) ∧ s.leaving < s.completed o

instance (s : Session Machine) (o : Operation) : Decidable (s.Loses o) :=
  inferInstanceAs (Decidable (_ ∧ _))

/-- Every operation counts the instructions that it completes, however it ends, unless it is a batch
in which one fails after others were completed. Of those, only the step that leaves a breakpoint is
counted. -/
theorem instructionCount_apply (s : Session Machine) (o : Operation) :
    (s.watched.apply o).map Watched.machine = s.apply o ∧
      (¬s.Loses o → (s.apply o).instructionCount = s.instructionCount + s.completed o) ∧
      (s.Loses o → (s.apply o).instructionCount = s.instructionCount + s.leaving ∧
        (s.apply o).instructionCount < s.instructionCount + s.completed o ∧
        (o = .stepMany ∨ o = .runTurn) ∧ (s.apply o).state.IsFault) := by
  have erased : (s.watched.apply o).map Watched.machine = s.apply o :=
    (map_apply Watched.hom_machine s.watched o).symm
  refine ⟨erased, ?_⟩
  obtain ⟨new, single, recorded⟩ := recorded_apply s.watched o
  have count : (s.apply o).instructionCount = (s.watched.apply o).instructionCount := by
    rw [← erased]
    rfl
  have state : (s.apply o).state = (s.watched.apply o).state := by
    rw [← erased]
    rfl
  have start : s.watched.instructionCount = s.instructionCount := rfl
  have leaving : s.watched.leaving = s.leaving := rfl
  rw [count, state]
  cases recorded with
  | completed log completed counted =>
      have attempts : s.attempts o = new := log.trans (List.nil_append new)
      rw [counted, start, Session.completed, attempts]
      constructor
      · intro _
        rfl
      · rintro ⟨⟨x, mem, failed⟩, -⟩
        rw [attempts] at mem
        rw [completed x mem] at failed
        cases failed
  | failed log failing counted fault =>
      have attempts : s.attempts o = new := log.trans (List.nil_append new)
      have loses : s.Loses o ↔ s.leaving < completions new := by
        simp only [Loses, Session.completed, attempts, failing, true_and]
      rw [counted, start, leaving, Session.completed, attempts, loses]
      constructor
      · intro all
        omega
      · intro less
        refine ⟨by omega, by omega, ?_, fault⟩
        rcases single with batch | batch | single
        · exact .inl batch
        · exact .inr batch
        · have fewer := Watched.completions_lt_of_failing failing
          omega

/-- The instruction before a fault in the first batch is not counted. -/
theorem uncounted_before_fault :
    let s := create (Machine.create (.ofOps [(0x10, .nop), (0x11, .fault "boom")]) 16) {} {}
    Reachable s ∧ s.Loses .stepMany ∧ s.completed .stepMany = 1 ∧
      (s.apply .stepMany).instructionCount = 0 ∧
      (s.apply .stepMany).instructionCount ≠ s.instructionCount + s.completed .stepMany := by
  intro s
  exact ⟨reachable_create _ _ _ _, by decide, by decide, by decide, by decide⟩

end Session

end GuestDebugger
