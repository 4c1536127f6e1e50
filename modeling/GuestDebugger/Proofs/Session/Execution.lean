import GuestDebugger.Proofs.Machine.Batch
import GuestDebugger.Session.Turn

/-! # How executing ends

Whether a single instruction or a batch is executed, a session ends in one of three ways: it had
ended before, an instruction failed, or it is judged where it stands after the last instruction.
Up to there neither the breakpoint table nor the break set changed. -/

namespace GuestDebugger

theorem RunState.eq_running_of_isRunning {state : RunState} (running : state.isRunning = true) :
    state = .running := by
  cases state with
  | running => rfl
  | idle | singleStepping | stopped => cases running

theorem RunState.isRunning_of_ne {state : RunState} (still : state ≠ .running) :
    state.isRunning = false :=
  Bool.eq_false_iff.2 fun running => still (eq_running_of_isRunning running)

namespace Session

/-! ### Calls by cases -/

section Calls

variable {ε : Type} [Engine ε] {s : Session ε}

/-- The session in which a single instruction is executed. -/
def enterStep (s : Session ε) : Session ε :=
  if s.state.isRunning then s else { s with state := .singleStepping }

omit [Engine ε] in
/-- Only the state is another one, if the guest is not running. -/
theorem enterStep_eq (s : Session ε) :
    ∃ state, s.enterStep = { s with state } ∧
      (state = s.state ∨ (s.state ≠ .running ∧ state = .singleStepping)) := by
  simp only [enterStep]
  split
  · exact ⟨s.state, rfl, .inl rfl⟩
  · rename_i notRunning
    refine ⟨.singleStepping, rfl, .inr ⟨?_, rfl⟩⟩
    intro running
    rw [running] at notRunning
    exact notRunning rfl

theorem step_of_exited {code : Int32} (ended : s.exitCode = some code) :
    s.step = (.ok false, s.stop (.exited code)) := by
  simp only [step, ended]

/-- What a single step comes to if the guest has not ended. -/
theorem step_of_alive (alive : s.exitCode = none) :
    s.step =
      match (Engine.step s.engine s.host).outcome with
      | .error halt => (s.enterStep.afterRun (Engine.step s.engine s.host)).halted halt
      | .ok () =>
          ((s.enterStep.afterRun (Engine.step s.engine s.host)).countInstructions
            1).evaluateStop := by
  have same : s.enterStep.engine = s.engine ∧ s.enterStep.host = s.host := by
    obtain ⟨state, eq, -⟩ := s.enterStep_eq
    rw [eq]
    exact ⟨rfl, rfl⟩
  rw [← same.1, ← same.2]
  simp only [step, alive]
  rfl

theorem stepMany_of_exited {code : Int32} (ended : s.exitCode = some code) :
    s.stepMany = (.ok false, s.stop (.exited code)) := by
  simp only [stepMany, ended]

theorem stepMany_of_inactive (alive : s.exitCode = none)
    (inactive : s.breakpoints.isActive s.pc = false) : s.stepMany = s.runBatch := by
  simp only [stepMany, alive, inactive]
  rfl

/-- What is left of a batch after the step that leaves a breakpoint. -/
def runRest (s : Session ε) : Executed ε :=
  if s.exitCode.isSome then s.evaluateStop else s.runBatch

/-- What a batch comes to that begins on a breakpoint. -/
theorem stepMany_of_active (alive : s.exitCode = none)
    (active : s.breakpoints.isActive s.pc = true) :
    s.stepMany =
      match (Engine.step s.engine s.host).outcome with
      | .error halt => (s.afterRun (Engine.step s.engine s.host)).halted halt
      | .ok () => ((s.afterRun (Engine.step s.engine s.host)).countInstructions 1).runRest := by
  simp only [stepMany, alive, active]
  rfl

end Calls

/-! ### Progress -/

/-- A session that executed instructions and was not judged since. -/
structure Progress (s u : Session Machine) : Prop where
  /-- Engine and host did no more than execute. -/
  frame : Machine.Frame s.engine s.host u.engine u.host
  /-- The breakpoint table is the same. -/
  breakpoints : u.breakpoints = s.breakpoints
  /-- The state is the same, unless a guest that is not running executes single instructions. -/
  state : u.state = s.state ∨ (s.state ≠ .running ∧ u.state = .singleStepping)
  /-- Batches do not become empty. -/
  batchSize : s.batchSize ≠ 0 → u.batchSize ≠ 0

namespace Progress

variable {s u : Session Machine}

theorem refl (s : Session Machine) : Progress s s := ⟨.refl _ _, rfl, .inl rfl, id⟩

theorem enter {s : Session Machine} {state : RunState}
    (told : state = s.state ∨ (s.state ≠ .running ∧ state = .singleStepping)) :
    Progress s { s with state } := ⟨.refl _ _, rfl, told, id⟩

theorem afterRun {α : Type} {ran : Ran Machine α} (progress : Progress s u)
    (frame : Machine.Frame u.engine u.host ran.engine ran.host) : Progress s (u.afterRun ran) :=
  ⟨progress.frame.trans frame, progress.breakpoints, progress.state, progress.batchSize⟩

theorem countInstructions (progress : Progress s u) (n : Nat) :
    Progress s (u.countInstructions n) :=
  ⟨progress.frame, progress.breakpoints, progress.state, progress.batchSize⟩

/-- Reading the clock is all that a session does besides. -/
theorem readClock (progress : Progress s u) :
    Progress s { u with host := u.host.readClock.2 } :=
  ⟨progress.frame.trans (.readClock _ _), progress.breakpoints, progress.state, progress.batchSize⟩

end Progress

theorem doubled_ne_zero {size : UInt32} (positive : size ≠ 0) : doubled size ≠ 0 := by
  intro zero
  have nat := congrArg UInt32.toNat zero
  have one : size.toNat ≠ 0 := fun h => positive (UInt32.toNat_inj.1 h)
  simp only [doubled, UInt32.toNat_ofNat', UInt32.size, UInt32.toNat_zero] at nat
  omega

theorem Progress.adapt {s u : Session Machine} (progress : Progress s u) (executed : UInt32)
    (elapsed : Float) : Progress s (u.adapt executed elapsed) := by
  refine ⟨progress.frame, progress.breakpoints, progress.state, ?_⟩
  intro positive
  simp only [Session.adapt]
  split
  · exact doubled_ne_zero (progress.batchSize positive)
  · exact progress.batchSize positive

/-- How executing ends for a session. -/
inductive Judged (s : Session Machine) : Executed Machine → Prop
  | ended {code : Int32} (ended : s.exitCode = some code) :
      Judged s (.ok false, s.stop (.exited code))
  | failed {u : Session Machine} (alive : s.exitCode = none) (progress : Progress s u)
      (still : u.exitCode = none) (e : EngineError) :
      Judged s (.ok false, u.stop (.fault (.error e)))
  | evaluated {u : Session Machine} (alive : s.exitCode = none) (progress : Progress s u) :
      Judged s u.evaluateStop

/-- Where a session stands when it is judged. -/
inductive Evaluated (u : Session Machine) : Executed Machine → Prop
  | exited {code : Int32} (exited : u.exitCode = some code) :
      Evaluated u (.ok false, u.stop (.exited code))
  | breakpoint {b : Breakpoint} (alive : u.exitCode = none)
      (entry : u.breakpoints.get? u.pc = some b) (enabled : b.disabled = false) :
      Evaluated u (.ok false,
        (if b.isTransient then u.removeBreakpoint u.pc else u).stop (.breakpoint u.pc))
  | goesOn (alive : u.exitCode = none) (inactive : u.breakpoints.isActive u.pc = false) :
      Evaluated u (.ok true, u)

theorem evaluated_evaluateStop (u : Session Machine) : Evaluated u u.evaluateStop := by
  simp only [evaluateStop]
  split
  · rename_i code exited
    exact .exited exited
  · rename_i alive
    split
    · rename_i b entry
      split
      · rename_i disabled
        exact .goesOn alive (by simp [Breakpoints.isActive, entry, disabled])
      · rename_i enabled
        exact .breakpoint alive entry (by simpa using enabled)
    · rename_i entry
      exact .goesOn alive (by simp [Breakpoints.isActive, entry])

theorem evaluateStop_goesOn {u t : Session Machine} (goesOn : u.evaluateStop = (.ok true, t)) :
    t = u ∧ u.exitCode = none := by
  have evaluated := evaluated_evaluateStop u
  rw [goesOn] at evaluated
  cases evaluated with
  | goesOn alive => exact ⟨rfl, alive⟩

theorem judged_step (s : Session Machine) : Judged s s.step := by
  cases ended : s.exitCode with
  | some code =>
      rw [step_of_exited ended]
      exact .ended ended
  | none =>
      obtain ⟨state, entered, told⟩ := s.enterStep_eq
      rw [step_of_alive ended, entered]
      have ends : Machine.Ends s.engine s.host (Engine.step s.engine s.host) :=
        Machine.ends_step s.engine ended
      have after := (Progress.enter told).afterRun ends.frame
      split
      · rename_i halt eq
        obtain ⟨e, rfl, still⟩ := ends.failed halt eq
        exact .failed ended after still e
      · exact .evaluated ended (after.countInstructions 1)

/-- A batch ends as executing does, also if an instruction came before it. -/
theorem judged_runBatch {s u : Session Machine} (alive : s.exitCode = none)
    (progress : Progress s u) (still : u.exitCode = none) : Judged s u.runBatch := by
  simp only [runBatch]
  have ends : Machine.Ends u.engine u.host.readClock.2
      (Engine.stepMany u.engine u.host.readClock.2 u.batchSize) :=
    Machine.ends_stepMany u.engine (h := u.host.readClock.2) still u.batchSize
  have after := progress.readClock.afterRun ends.frame
  split
  · rename_i halt eq
    obtain ⟨e, rfl, still'⟩ := ends.failed halt eq
    exact .failed alive after still' e
  · exact .evaluated alive ((after.readClock.countInstructions _).adapt _ _)

theorem judged_stepMany (s : Session Machine) : Judged s s.stepMany := by
  cases ended : s.exitCode with
  | some code =>
      rw [stepMany_of_exited ended]
      exact .ended ended
  | none =>
      cases active : s.breakpoints.isActive s.pc with
      | false =>
          rw [stepMany_of_inactive ended active]
          exact judged_runBatch ended (.refl s) ended
      | true =>
          rw [stepMany_of_active ended active]
          have ends : Machine.Ends s.engine s.host (Engine.step s.engine s.host) :=
            Machine.ends_step s.engine ended
          have after := (Progress.refl s).afterRun ends.frame
          split
          · rename_i halt eq
            obtain ⟨e, rfl, still⟩ := ends.failed halt eq
            exact .failed ended after still e
          · have counted := after.countInstructions 1
            simp only [runRest]
            split
            · exact .evaluated ended counted
            · rename_i goesOn
              exact judged_runBatch ended counted (by simpa using goesOn)

theorem evaluateStop_answered (u : Session Machine) :
    ∃ goesOn, u.evaluateStop = (.ok goesOn, u.evaluateStop.2) := by
  have evaluated := evaluated_evaluateStop u
  generalize u.evaluateStop = x at evaluated ⊢
  cases evaluated <;> exact ⟨_, rfl⟩

/-- The machine does not crash, so whoever executes is always answered. -/
theorem Judged.answered {s : Session Machine} {x : Executed Machine} (judged : Judged s x) :
    ∃ goesOn, x = (.ok goesOn, x.2) := by
  cases judged with
  | ended => exact ⟨_, rfl⟩
  | failed => exact ⟨_, rfl⟩
  | @evaluated u => exact evaluateStop_answered u

/-- Batches do not become empty by executing. -/
theorem Judged.batchSize {s : Session Machine} {x : Executed Machine} (judged : Judged s x)
    (positive : s.batchSize ≠ 0) : x.2.batchSize ≠ 0 := by
  cases judged with
  | ended => exact positive
  | failed _ progress => exact progress.batchSize positive
  | @evaluated u _ progress =>
      have evaluated := evaluated_evaluateStop u
      generalize u.evaluateStop = x at evaluated ⊢
      cases evaluated with
      | exited => exact progress.batchSize positive
      | goesOn => exact progress.batchSize positive
      | breakpoint =>
          dsimp only
          split <;> exact progress.batchSize positive

/-- Execution goes on in the state that it was entered in, or it stops for a reason. -/
theorem Judged.state {s : Session Machine} {x : Executed Machine} (judged : Judged s x) :
    (x.1 = .ok true ∧
        (x.2.state = s.state ∨ (s.state ≠ .running ∧ x.2.state = .singleStepping))) ∨
      (x.1 = .ok false ∧ ∃ reason, x.2.state = .stopped reason) := by
  cases judged with
  | ended => exact .inr ⟨rfl, _, rfl⟩
  | failed => exact .inr ⟨rfl, _, rfl⟩
  | @evaluated u _ progress =>
      have evaluated := evaluated_evaluateStop u
      generalize u.evaluateStop = x at evaluated ⊢
      cases evaluated with
      | exited => exact .inr ⟨rfl, _, rfl⟩
      | breakpoint => exact .inr ⟨rfl, _, rfl⟩
      | goesOn => exact .inl ⟨rfl, progress.state⟩

/-- Where execution goes on, the guest has not ended and no enabled breakpoint is. -/
theorem Judged.of_goesOn {s : Session Machine} {x : Executed Machine} (judged : Judged s x)
    (goesOn : x.1 = .ok true) :
    x.2.exitCode = none ∧ x.2.breakpoints.isActive x.2.pc = false := by
  cases judged with
  | ended => cases goesOn
  | failed => cases goesOn
  | @evaluated u =>
      have evaluated := evaluated_evaluateStop u
      generalize u.evaluateStop = x at evaluated goesOn ⊢
      cases evaluated with
      | exited => cases goesOn
      | breakpoint => cases goesOn
      | goesOn alive inactive => exact ⟨alive, inactive⟩

/-- Where execution stops, a breakpoint was reached or an instruction failed, unless the guest has
ended. -/
theorem Judged.of_stops {s : Session Machine} {x : Executed Machine} (judged : Judged s x)
    (stops : x.1 = .ok false) (alive : x.2.exitCode = none) :
    (∃ a, x.2.state = .stopped (.breakpoint a)) ∨
      ∃ cause, x.2.state = .stopped (.fault cause) := by
  cases judged with
  | ended ended => cases alive.symm.trans ended
  | failed => exact .inr ⟨_, rfl⟩
  | @evaluated u =>
      have evaluated := evaluated_evaluateStop u
      generalize u.evaluateStop = x at evaluated stops alive ⊢
      cases evaluated with
      | exited ended => cases alive.symm.trans ended
      | goesOn => cases stops
      | breakpoint => exact .inl ⟨_, rfl⟩

theorem runStep_eq (s : Session Machine) :
    ∃ goesOn, s.step = (.ok goesOn, s.runStep.2) ∧ s.runStep.1 = goesOn := by
  obtain ⟨goesOn, eq⟩ := (judged_step s).answered
  have ran : s.runStep = (goesOn, s.step.2) := by
    rw [runStep, eq]
  exact ⟨goesOn, by rw [ran]; exact eq, by rw [ran]⟩

/-- The outcome of a turn of a running guest, told by the batch it executes. -/
theorem runTurn_eq {s : Session Machine} (running : s.state = .running) :
    (s.stepMany = (.ok true, s.runTurn.2) ∧ s.runTurn.1 = .goesOn) ∨
      (s.stepMany = (.ok false, s.runTurn.2) ∧ s.runTurn.1 = s.runTurn.2.stoppedTurn) := by
  obtain ⟨goesOn, eq⟩ := (judged_stepMany s).answered
  have isRunning : s.state.isRunning = true := by rw [running]; rfl
  cases goesOn with
  | true =>
      have ran : s.runTurn = (.goesOn, s.stepMany.2) := by
        rw [runTurn, if_pos isRunning, eq]
      exact .inl ⟨by rw [ran]; exact eq, by rw [ran]⟩
  | false =>
      have ran : s.runTurn = (s.stepMany.2.stoppedTurn, s.stepMany.2) := by
        rw [runTurn, if_pos isRunning, eq]
      exact .inr ⟨by rw [ran]; exact eq, by rw [ran]⟩

/-- A turn of a running guest leaves it running, or tells why it stopped. -/
theorem runTurn_of_running {s : Session Machine} (running : s.state = .running) :
    (s.runTurn.1 = .goesOn ∧ s.runTurn.2.state = .running) ∨
      ∃ reason, s.runTurn.1 = .stopped reason ∧ s.runTurn.2.state = .stopped reason := by
  have told := (judged_stepMany s).state
  rcases runTurn_eq running with ⟨batch, turn⟩ | ⟨batch, turn⟩
  · rw [batch] at told
    rcases told with ⟨-, same | ⟨other, -⟩⟩ | ⟨stopped, -⟩
    · exact .inl ⟨turn, same.trans running⟩
    · exact absurd running other
    · cases stopped
  · rw [batch] at told
    rcases told with ⟨goesOn, -⟩ | ⟨-, reason, stopped⟩
    · cases goesOn
    · refine .inr ⟨reason, ?_, stopped⟩
      rw [turn, stoppedTurn, stopped]
      rfl

/-- A single step does not set the guest running. -/
theorem runStep_of_not_running {s : Session Machine} (still : s.state.isRunning = false) :
    s.runStep.2.state.isRunning = false := by
  have told := (judged_step s).state
  obtain ⟨goesOn, eq, -⟩ := runStep_eq s
  rw [eq] at told
  rcases told with ⟨-, same | ⟨-, single⟩⟩ | ⟨-, reason, stopped⟩
  · rw [same]
    exact still
  · rw [single]
    rfl
  · rw [stopped]
    rfl

/-- Nothing happens in a turn unless the guest is running. -/
theorem runTurn_of_not_running {ε : Type} [Engine ε] {s : Session ε} (still : s.state ≠ .running) :
    s.runTurn = (.idle, s) := by
  rw [runTurn, RunState.isRunning_of_ne still]
  rfl

/-- A session after a turn is one after a batch, if it is another one at all. -/
theorem runTurn_snd (s : Session Machine) : s.runTurn.2 = s ∨ s.runTurn.2 = s.stepMany.2 := by
  by_cases running : s.state = .running
  · rcases runTurn_eq running with ⟨eq, -⟩ | ⟨eq, -⟩
    · exact .inr (congrArg Prod.snd eq).symm
    · exact .inr (congrArg Prod.snd eq).symm
  · exact .inl (congrArg Prod.snd (runTurn_of_not_running running))

/-! ### Starting and stopping -/

@[simp] theorem host_startRunning (s : Session Machine) : s.startRunning.host = s.host := by
  simp only [startRunning]
  split <;> rfl

@[simp] theorem host_stopRunning (s : Session Machine) : s.stopRunning.host = s.host := by
  simp only [stopRunning]
  split <;> rfl

@[simp] theorem host_runTo (s : Session Machine) (a : Address) : (s.runTo a).host = s.host := by
  simp only [runTo]
  split
  · rfl
  · exact host_startRunning _

theorem isRunning_stopRunning {ε : Type} (s : Session ε) :
    s.stopRunning.state.isRunning = false := by
  simp only [stopRunning]
  split
  · rfl
  · rename_i notRunning
    simpa using notRunning

theorem state_stopRunning_ne {ε : Type} (s : Session ε) : s.stopRunning.state ≠ .running := by
  intro running
  have still := isRunning_stopRunning s
  rw [running] at still
  cases still

theorem stopRunning_of_running {ε : Type} {s : Session ε} (running : s.state = .running) :
    s.stopRunning = s.stop .paused := by
  rw [stopRunning, running]
  rfl

theorem stopRunning_of_not_running {ε : Type} {s : Session ε} (still : s.state ≠ .running) :
    s.stopRunning = s := by
  rw [stopRunning, RunState.isRunning_of_ne still]
  rfl

end Session

end GuestDebugger
