import GuestDebugger.Proofs.Machine.Trace
import GuestDebugger.Proofs.Session.Operations

/-! # Sessions with another engine

A session sees of its engine what engines show and does with it what engines do. With an engine
that shows the same and does the same, it is the same session. -/

namespace GuestDebugger

namespace Session

variable {ε δ : Type}

/-- A session with another engine. -/
def map (f : ε → δ) (s : Session ε) : Session δ :=
  { engine := f s.engine, host := s.host, breakpoints := s.breakpoints
    instructionCount := s.instructionCount, batchSize := s.batchSize, rate := s.rate
    state := s.state, settings := s.settings, labels := s.labels }

variable [Engine ε] [Engine δ] {f : ε → δ}

/-! ### Breakpoints -/

theorem map_addBreakpoint (hom : Engine.Hom f) (s : Session ε) (a : Address)
    (flags : BreakpointFlags) :
    (s.map f).addBreakpoint a flags = (s.addBreakpoint a flags).map f := by
  have added : BreakSet.addBreak (s.map f).engine a = f (BreakSet.addBreak s.engine a) :=
    hom.addBreak s.engine a
  simp only [addBreakpoint, withBreakpoints, Breakpoints.add, added]
  rfl

theorem map_removeBreakpoint (hom : Engine.Hom f) (s : Session ε) (a : Address) :
    (s.map f).removeBreakpoint a = (s.removeBreakpoint a).map f := by
  have removed : BreakSet.removeBreak (s.map f).engine a = f (BreakSet.removeBreak s.engine a) :=
    hom.removeBreak s.engine a
  have same : (s.map f).breakpoints = s.breakpoints := rfl
  simp only [removeBreakpoint, withBreakpoints, Breakpoints.remove, removed, same]
  cases s.breakpoints.get? a <;> rfl

theorem map_toggleBreakpoint (hom : Engine.Hom f) (s : Session ε) (a : Address) :
    (s.map f).toggleBreakpoint a =
      ((s.toggleBreakpoint a).1, (s.toggleBreakpoint a).2.map f) := by
  have added : BreakSet.addBreak (s.map f).engine a = f (BreakSet.addBreak s.engine a) :=
    hom.addBreak s.engine a
  have removed : BreakSet.removeBreak (s.map f).engine a = f (BreakSet.removeBreak s.engine a) :=
    hom.removeBreak s.engine a
  have same : (s.map f).breakpoints = s.breakpoints := rfl
  simp only [toggleBreakpoint, withBreakpoints, Breakpoints.toggle, added, removed, same]
  cases s.breakpoints.get? a with
  | none => rfl
  | some b =>
      dsimp only
      cases b.disabled <;> rfl

/-! ### Executing -/

theorem map_evaluateStop (hom : Engine.Hom f) (s : Session ε) :
    (s.map f).evaluateStop = (s.evaluateStop.1, s.evaluateStop.2.map f) := by
  have exitCode : (s.map f).exitCode = s.exitCode := rfl
  have pc : (s.map f).pc = s.pc := hom.pc s.engine
  have same : (s.map f).breakpoints = s.breakpoints := rfl
  simp only [evaluateStop, exitCode, pc, same, map_removeBreakpoint hom]
  cases s.exitCode with
  | some code => rfl
  | none =>
      cases s.breakpoints.get? s.pc with
      | none => rfl
      | some b =>
          dsimp only
          cases b.disabled
          · cases b.isTransient <;> rfl
          · rfl

omit [Engine ε] [Engine δ] in
theorem map_halted (s : Session ε) (halt : Halt) :
    (s.map f).halted halt = ((s.halted halt).1, (s.halted halt).2.map f) := by
  cases halt <;> rfl

omit [Engine ε] [Engine δ] in
theorem map_enterStep (s : Session ε) : (s.map f).enterStep = s.enterStep.map f := by
  have same : (s.map f).state = s.state := rfl
  simp only [enterStep, same]
  split <;> rfl

theorem map_step (hom : Engine.Hom f) (s : Session ε) :
    (s.map f).step = (s.step.1, s.step.2.map f) := by
  cases ended : s.exitCode with
  | some code =>
      have ended' : (s.map f).exitCode = some code := ended
      rw [step_of_exited ended, step_of_exited ended']
      rfl
  | none =>
      have alive : (s.map f).exitCode = none := ended
      have ran : Engine.step (s.map f).engine (s.map f).host =
        (Engine.step s.engine s.host).map f := hom.step s.engine s.host
      rw [step_of_alive ended, step_of_alive alive, ran, map_enterStep]
      obtain ⟨e, h, outcome⟩ := Engine.step s.engine s.host
      cases outcome with
      | error halt => exact map_halted (s.enterStep.afterRun ⟨e, h, .error halt⟩) halt
      | ok done =>
          exact map_evaluateStop hom ((s.enterStep.afterRun ⟨e, h, .ok done⟩).countInstructions 1)

theorem map_runBatch (hom : Engine.Hom f) (s : Session ε) :
    (s.map f).runBatch = (s.runBatch.1, s.runBatch.2.map f) := by
  have ran : Engine.stepMany (s.map f).engine (s.map f).host.readClock.2 (s.map f).batchSize =
      (Engine.stepMany s.engine s.host.readClock.2 s.batchSize).map f :=
    hom.stepMany s.engine s.host.readClock.2 s.batchSize
  have clock : (s.map f).host.readClock.1 = s.host.readClock.1 := rfl
  simp only [runBatch, ran, clock]
  obtain ⟨e, h, outcome⟩ := Engine.stepMany s.engine s.host.readClock.2 s.batchSize
  cases outcome with
  | error halt => exact map_halted (s.afterRun ⟨e, h, .error halt⟩) halt
  | ok executed =>
      let counted := { s with engine := e, host := h.readClock.2 }.countInstructions executed.toNat
      exact map_evaluateStop hom (counted.adapt executed (h.readClock.1 - s.host.readClock.1))

theorem map_runRest (hom : Engine.Hom f) (s : Session ε) :
    (s.map f).runRest = (s.runRest.1, s.runRest.2.map f) := by
  have same : (s.map f).exitCode = s.exitCode := rfl
  simp only [runRest, same]
  split
  · exact map_evaluateStop hom s
  · exact map_runBatch hom s

theorem map_stepMany (hom : Engine.Hom f) (s : Session ε) :
    (s.map f).stepMany = (s.stepMany.1, s.stepMany.2.map f) := by
  have pc : (s.map f).pc = s.pc := hom.pc s.engine
  cases ended : s.exitCode with
  | some code =>
      have ended' : (s.map f).exitCode = some code := ended
      rw [stepMany_of_exited ended, stepMany_of_exited ended']
      rfl
  | none =>
      have alive : (s.map f).exitCode = none := ended
      cases active : s.breakpoints.isActive s.pc with
      | false =>
          have inactive : (s.map f).breakpoints.isActive (s.map f).pc = false := pc ▸ active
          rw [stepMany_of_inactive ended active, stepMany_of_inactive alive inactive]
          exact map_runBatch hom s
      | true =>
          have active' : (s.map f).breakpoints.isActive (s.map f).pc = true := pc ▸ active
          have ran : Engine.step (s.map f).engine (s.map f).host =
            (Engine.step s.engine s.host).map f := hom.step s.engine s.host
          rw [stepMany_of_active ended active, stepMany_of_active alive active', ran]
          obtain ⟨e, h, outcome⟩ := Engine.step s.engine s.host
          cases outcome with
          | error halt => exact map_halted (s.afterRun ⟨e, h, .error halt⟩) halt
          | ok done => exact map_runRest hom ((s.afterRun ⟨e, h, .ok done⟩).countInstructions 1)

omit [Engine ε] [Engine δ] in
theorem map_startRunning (s : Session ε) : (s.map f).startRunning = s.startRunning.map f := by
  have exitCode : (s.map f).exitCode = s.exitCode := rfl
  simp only [startRunning, exitCode]
  cases s.exitCode <;> rfl

theorem map_runTo (hom : Engine.Hom f) (s : Session ε) (a : Address) :
    (s.map f).runTo a = (s.runTo a).map f := by
  have exitCode : (s.map f).exitCode = s.exitCode := rfl
  have pc : (s.map f).pc = s.pc := hom.pc s.engine
  simp only [runTo, exitCode, pc, map_addBreakpoint hom, map_startRunning]
  split <;> rfl

theorem map_runTurn (hom : Engine.Hom f) (s : Session ε) :
    (s.map f).runTurn = (s.runTurn.1, s.runTurn.2.map f) := by
  have same : (s.map f).state = s.state := rfl
  simp only [runTurn, same, map_stepMany hom]
  cases s.state.isRunning with
  | false => rfl
  | true =>
      obtain ⟨answer, t⟩ := s.stepMany
      cases answer with
      | error c => rfl
      | ok goesOn => cases goesOn <;> rfl

theorem map_runStep (hom : Engine.Hom f) (s : Session ε) :
    (s.map f).runStep = (s.runStep.1, s.runStep.2.map f) := by
  simp only [runStep, map_step hom]
  obtain ⟨answer, t⟩ := s.step
  cases answer <;> rfl

/-- Every operation does the same with an engine that does the same. -/
theorem map_apply (hom : Engine.Hom f) (s : Session ε) (o : Operation) :
    (s.map f).apply o = (s.apply o).map f := by
  cases o with
  | step => exact congrArg Prod.snd (map_step hom s)
  | stepMany => exact congrArg Prod.snd (map_stepMany hom s)
  | runStep => exact congrArg Prod.snd (map_runStep hom s)
  | runTurn => exact congrArg Prod.snd (map_runTurn hom s)
  | startRunning => exact map_startRunning s
  | stopRunning =>
      have same : (s.map f).state = s.state := rfl
      simp only [apply, stopRunning, same]
      split <;> rfl
  | runTo a => exact map_runTo hom s a
  | addBreakpoint a flags => exact map_addBreakpoint hom s a flags
  | removeBreakpoint a => exact map_removeBreakpoint hom s a
  | toggleBreakpoint a =>
      simp only [apply, map_toggleBreakpoint hom]
  | takeOutput | setLabels | passTime => rfl

end Session

end GuestDebugger
