import GuestDebugger.Proofs.Machine.Independence
import GuestDebugger.Proofs.Session.Operations

/-! # Output that waits

An engine reaches the host through its calls, and none of them tells what output waits to be taken.
So an engine, and with it a session, does the same whether output was taken or not: what was not
taken is only passed on. -/

namespace GuestDebugger

/-- A host in which a text waits before its output. -/
def Host.holding (h : Host) (text : String) : Host := { h with output := text ++ h.output }

theorem Host.holding_empty (h : Host) : h.holding "" = h := by
  rw [holding, String.empty_append]

theorem Host.behind_clock (h : Host) (text : String) : h.behind text h.clock = h.holding text := rfl

/-- An engine that sees nothing of the output that waits. Engines reach the host through its calls
alone, and no call tells what waits. -/
class Engine.OutputUnseen (ε : Type) [Engine ε] : Prop where
  step_holding : ∀ (e : ε) (h : Host) (text : String),
    Engine.step e (h.holding text) = (Engine.step e h).mapHost (·.holding text)
  stepMany_holding : ∀ (e : ε) (h : Host) (count : UInt32) (text : String),
    Engine.stepMany e (h.holding text) count = (Engine.stepMany e h count).mapHost (·.holding text)

/-! ### The machine -/

namespace Machine

/-- An instruction that does not ask for the time leaves the clock as it is. -/
theorem clock_step {m : Machine} {h : Host} (untimed : m.listing.get? m.pc ≠ some .time) :
    (m.step h).host.clock = h.clock := by
  have same := m.step_behind h untimed "" h.clock
  rw [Host.behind_clock, Host.holding_empty] at same
  exact congrArg (·.host.clock) same

theorem step_holding (m : Machine) (h : Host) (text : String) :
    m.step (h.holding text) = (m.step h).mapHost (·.holding text) := by
  by_cases time : m.listing.get? m.pc = some .time
  · simp only [step, time]
    rfl
  · have behind := m.step_behind h time text h.clock
    rw [← clock_step time] at behind
    rwa [← Host.behind_clock, ← clock_step time]

/-- A batch passes on what waits; the induction follows the batch. -/
theorem runBatch_holding (done : UInt32) (fuel : Nat) (m : Machine) (h : Host) (text : String) :
    runBatch done fuel m (h.holding text) =
      (runBatch done fuel m h).mapHost (·.holding text) := by
  induction fuel generalizing done m h with
  | zero => rfl
  | succ fuel ih =>
      simp only [runBatch, step_holding]
      cases m.hasBreak m.pc with
      | true => rfl
      | false =>
          obtain ⟨m₁, h₁, outcome⟩ := m.step h
          cases outcome with
          | error halt => rfl
          | ok =>
              have alive : (h₁.holding text).exitCode = h₁.exitCode := rfl
              simp only [Ran.mapHost, alive, ih]
              cases h₁.exitCode.isSome <;> rfl

instance : Engine.OutputUnseen Machine where
  step_holding := step_holding
  stepMany_holding m h count := runBatch_holding 0 count.toNat m h

end Machine

/-! ### Sessions -/

namespace Session

variable {ε : Type}

/-- A session in which a text waits before its output. -/
def holding (s : Session ε) (text : String) : Session ε := { s with host := s.host.holding text }

theorem holding_empty (s : Session ε) : s.holding "" = s := by
  rw [holding, Host.holding_empty]

/-- What is not taken waits before what the guest writes next. -/
theorem holding_takeOutput (s : Session ε) (text : String) :
    s.takeOutput.2.holding (text ++ s.takeOutput.1) = s.holding text := by
  simp only [takeOutput, Host.takeOutput, holding, Host.holding, String.append_empty]

theorem halted_holding (s : Session ε) (halt : Halt) (text : String) :
    (s.holding text).halted halt = ((s.halted halt).1, (s.halted halt).2.holding text) := by
  cases halt <;> rfl

theorem stopRunning_holding (s : Session ε) (text : String) :
    (s.holding text).stopRunning = s.stopRunning.holding text := by
  have same : (s.holding text).state = s.state := rfl
  simp only [stopRunning, same]
  split <;> rfl

variable [Engine ε]

theorem removeBreakpoint_holding (s : Session ε) (a : Address) (text : String) :
    (s.holding text).removeBreakpoint a = (s.removeBreakpoint a).holding text := rfl

theorem evaluateStop_holding (s : Session ε) (text : String) :
    (s.holding text).evaluateStop = (s.evaluateStop.1, s.evaluateStop.2.holding text) := by
  have exitCode : (s.holding text).exitCode = s.exitCode := rfl
  have pc : (s.holding text).pc = s.pc := rfl
  have same : (s.holding text).breakpoints = s.breakpoints := rfl
  simp only [evaluateStop, exitCode, pc, same, removeBreakpoint_holding]
  cases s.exitCode with
  | some code => rfl
  | none =>
      cases s.breakpoints.get? s.pc with
      | none => rfl
      | some b =>
          dsimp only
          cases b.disabled
          · cases b.isTransient <;> rfl
          · rfl

variable [Engine.OutputUnseen ε]

theorem runBatch_holding (s : Session ε) (text : String) :
    (s.holding text).runBatch = (s.runBatch.1, s.runBatch.2.holding text) := by
  have ran : Engine.stepMany (s.holding text).engine (s.holding text).host.readClock.2
      (s.holding text).batchSize =
        (Engine.stepMany s.engine s.host.readClock.2 s.batchSize).mapHost (·.holding text) :=
    Engine.OutputUnseen.stepMany_holding s.engine s.host.readClock.2 s.batchSize text
  have clock : (s.holding text).host.readClock.1 = s.host.readClock.1 := rfl
  simp only [runBatch, ran, clock]
  obtain ⟨e, h, outcome⟩ := Engine.stepMany s.engine s.host.readClock.2 s.batchSize
  cases outcome with
  | error halt => exact halted_holding (s.afterRun ⟨e, h, .error halt⟩) halt text
  | ok executed =>
      let counted := { s with engine := e, host := h.readClock.2 }.countInstructions executed.toNat
      exact evaluateStop_holding
        (counted.adapt executed (h.readClock.1 - s.host.readClock.1)) text

theorem runRest_holding (s : Session ε) (text : String) :
    (s.holding text).runRest = (s.runRest.1, s.runRest.2.holding text) := by
  have same : (s.holding text).exitCode = s.exitCode := rfl
  simp only [runRest, same]
  split
  · exact evaluateStop_holding s text
  · exact runBatch_holding s text

theorem stepMany_holding (s : Session ε) (text : String) :
    (s.holding text).stepMany = (s.stepMany.1, s.stepMany.2.holding text) := by
  cases ended : s.exitCode with
  | some code =>
      have ended' : (s.holding text).exitCode = some code := ended
      rw [stepMany_of_exited ended, stepMany_of_exited ended']
      rfl
  | none =>
      have alive : (s.holding text).exitCode = none := ended
      cases active : s.breakpoints.isActive s.pc with
      | false =>
          have inactive : (s.holding text).breakpoints.isActive (s.holding text).pc = false :=
            active
          rw [stepMany_of_inactive ended active, stepMany_of_inactive alive inactive]
          exact runBatch_holding s text
      | true =>
          have active' : (s.holding text).breakpoints.isActive (s.holding text).pc = true := active
          have ran : Engine.step (s.holding text).engine (s.holding text).host =
              (Engine.step s.engine s.host).mapHost (·.holding text) :=
            Engine.OutputUnseen.step_holding s.engine s.host text
          rw [stepMany_of_active ended active, stepMany_of_active alive active', ran]
          obtain ⟨e, h, outcome⟩ := Engine.step s.engine s.host
          cases outcome with
          | error halt => exact halted_holding (s.afterRun ⟨e, h, .error halt⟩) halt text
          | ok done =>
              exact runRest_holding ((s.afterRun ⟨e, h, .ok done⟩).countInstructions 1) text

theorem runTurn_holding (s : Session ε) (text : String) :
    (s.holding text).runTurn = (s.runTurn.1, s.runTurn.2.holding text) := by
  have same : (s.holding text).state = s.state := rfl
  simp only [runTurn, same, stepMany_holding]
  cases s.state.isRunning with
  | false => rfl
  | true =>
      obtain ⟨answer, t⟩ := s.stepMany
      cases answer with
      | error c => rfl
      | ok goesOn => cases goesOn <;> rfl

end Session

end GuestDebugger
