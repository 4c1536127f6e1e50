import GuestDebugger.Proofs.Session.Operations

/-! # The end of the guest is final

The exit code is set by the host in the middle of an instruction, the state by the session after it.
Between operations the two always agree, and once they tell that the guest ended, no operation
executes anything any more. -/

namespace GuestDebugger

namespace Session

/-- A session whose state tells that the guest ended exactly if the host has an exit code. -/
def Settled (s : Session Machine) : Prop :=
  ∀ code, s.exitCode = some code ↔ s.state = .stopped (.exited code)

theorem Settled.state_ne {s : Session Machine} (settled : s.Settled) (alive : s.exitCode = none)
    (code : Int32) : s.state ≠ .stopped (.exited code) := by
  intro exited
  have ended := (settled code).2 exited
  rw [alive] at ended
  cases ended

theorem settled_of_alive {s : Session Machine} (alive : s.exitCode = none)
    (state : ∀ code, s.state ≠ .stopped (.exited code)) : s.Settled := by
  intro code
  constructor
  · intro ended
    rw [alive] at ended
    cases ended
  · intro exited
    exact absurd exited (state code)

theorem settled_stop_exited {s : Session Machine} {code : Int32} (ended : s.exitCode = some code) :
    (s.stop (.exited code)).Settled := by
  intro other
  constructor
  · intro exited
    have same : some code = some other := ended.symm.trans exited
    cases same
    rfl
  · intro exited
    cases exited
    exact ended

theorem settled_stop {s : Session Machine} {reason : StopReason} (alive : s.exitCode = none)
    (other : ∀ code, reason ≠ .exited code) : (s.stop reason).Settled := by
  refine settled_of_alive alive ?_
  intro code stopped
  exact other code (RunState.stopped.inj stopped)

theorem settled_create (m : Machine) (settings : StepSettings) (clock : Clock) :
    (create m settings clock).Settled := settled_of_alive rfl fun _ => RunState.noConfusion

theorem settled_evaluateStop {u : Session Machine}
    (state : ∀ code, u.state ≠ .stopped (.exited code)) : u.evaluateStop.2.Settled := by
  have evaluated := evaluated_evaluateStop u
  generalize u.evaluateStop = x at evaluated ⊢
  cases evaluated with
  | exited ended => exact settled_stop_exited ended
  | goesOn alive => exact settled_of_alive alive state
  | breakpoint alive =>
      refine settled_stop ?_ fun _ => StopReason.noConfusion
      split <;> exact alive

theorem Settled.of_judged {s : Session Machine} {x : Executed Machine} (settled : s.Settled)
    (judged : Judged s x) : x.2.Settled := by
  cases judged with
  | ended ended => exact settled_stop_exited ended
  | failed _ _ still => exact settled_stop still fun _ => StopReason.noConfusion
  | evaluated alive progress =>
      apply settled_evaluateStop
      intro code exited
      rcases progress.state with same | ⟨-, single⟩
      · exact settled.state_ne alive code (same.symm.trans exited)
      · rw [single] at exited
        cases exited

theorem settled_startRunning (s : Session Machine) : s.startRunning.Settled := by
  simp only [startRunning]
  split
  · rename_i code ended
    exact settled_stop_exited ended
  · rename_i alive
    exact settled_of_alive alive fun _ => RunState.noConfusion

theorem Settled.stopRunning {s : Session Machine} (settled : s.Settled) :
    s.stopRunning.Settled := by
  simp only [Session.stopRunning]
  split
  · rename_i running
    refine settled_stop ?_ fun _ => StopReason.noConfusion
    -- A running guest has not ended: its state would tell.
    cases ended : s.exitCode with
    | none => rfl
    | some code =>
        rw [(settled code).1 ended] at running
        cases running
  · exact settled

/-- A running guest has not ended, so it goes on running when it is set running. -/
theorem Settled.startRunning_of_running {s : Session Machine} (settled : s.Settled)
    (running : s.state.isRunning = true) : s.startRunning.state = .running := by
  have alive : s.exitCode = none := by
    cases ended : s.exitCode with
    | none => rfl
    | some code =>
        rw [(settled code).1 ended] at running
        cases running
  simp only [startRunning, alive]

theorem Settled.apply {s : Session Machine} (settled : s.Settled) (o : Operation) :
    (s.apply o).Settled := by
  cases o with
  | step | stepMany | runStep | runTurn =>
      exact keeps_of_judged trivial settled fun _ => settled.of_judged
  | startRunning => exact settled_startRunning s
  | stopRunning => exact settled.stopRunning
  | runTo a =>
      simp only [Session.apply, Session.runTo]
      split
      · rename_i here
        have alive : s.exitCode = none := by simpa using (Bool.and_eq_true_iff.1 here).1
        refine settled_of_alive alive ?_
        intro code exited
        cases exited
      · exact settled_startRunning _
  | addBreakpoint | removeBreakpoint | toggleBreakpoint | takeOutput | setLabels | passTime =>
      exact settled

theorem Reachable.settled {s : Session Machine} (reached : Reachable s) : s.Settled :=
  reached.keeps (fun _ _ => settled_create _) (fun _ o settled => settled.apply o)

/-! ### After the end -/

/-- What an ended guest leaves for good. The output may be taken, but nothing is added to it. -/
structure Frozen (s t : Session Machine) : Prop where
  exitCode : t.exitCode = s.exitCode
  state : t.state = s.state
  registers : t.engine.registers = s.engine.registers
  pc : t.pc = s.pc
  memory : t.engine.memory = s.engine.memory
  display : t.host.display = s.host.display
  output : t.host.output = s.host.output ∨ t.host.output = ""
  instructionCount : t.instructionCount = s.instructionCount
  batchSize : t.batchSize = s.batchSize
  rate : t.rate = s.rate

namespace Frozen

variable {s t u : Session Machine}

theorem refl (s : Session Machine) : Frozen s s :=
  ⟨rfl, rfl, rfl, rfl, rfl, rfl, .inl rfl, rfl, rfl, rfl⟩

theorem trans (first : Frozen s t) (second : Frozen t u) : Frozen s u where
  exitCode := second.exitCode.trans first.exitCode
  state := second.state.trans first.state
  registers := second.registers.trans first.registers
  pc := second.pc.trans first.pc
  memory := second.memory.trans first.memory
  display := second.display.trans first.display
  output := by
    rcases second.output with same | taken
    · rw [same]
      exact first.output
    · exact .inr taken
  instructionCount := second.instructionCount.trans first.instructionCount
  batchSize := second.batchSize.trans first.batchSize
  rate := second.rate.trans first.rate

/-- Stopping an ended guest once more changes nothing. -/
theorem stop {code : Int32} (exited : s.state = .stopped (.exited code)) :
    Frozen s (s.stop (.exited code)) :=
  ⟨rfl, exited.symm, rfl, rfl, rfl, rfl, .inl rfl, rfl, rfl, rfl⟩

/-- A changed breakpoint table may go with another break set, but not with other registers or
another memory. -/
theorem withBreakpoints (s : Session Machine) {changed : Breakpoints × Machine}
    (registers : changed.2.registers = s.engine.registers)
    (memory : changed.2.memory = s.engine.memory) : Frozen s (s.withBreakpoints changed) :=
  ⟨rfl, rfl, registers, congrArg Registers.eip registers, memory, rfl, .inl rfl, rfl, rfl, rfl⟩

theorem addBreakpoint (s : Session Machine) (a : Address) (flags : BreakpointFlags) :
    Frozen s (s.addBreakpoint a flags) := withBreakpoints s rfl rfl

theorem removeBreakpoint (s : Session Machine) (a : Address) :
    Frozen s (s.removeBreakpoint a) := by
  refine withBreakpoints s ?_ ?_
  · simp only [Breakpoints.remove]
    split <;> rfl
  · simp only [Breakpoints.remove]
    split <;> rfl

theorem toggleBreakpoint (s : Session Machine) (a : Address) :
    Frozen s (s.toggleBreakpoint a).2 := by
  have same : (s.breakpoints.toggle s.engine a).2.2.registers = s.engine.registers ∧
      (s.breakpoints.toggle s.engine a).2.2.memory = s.engine.memory := by
    simp only [Breakpoints.toggle]
    split
    · exact ⟨rfl, rfl⟩
    · split <;> exact ⟨rfl, rfl⟩
  exact withBreakpoints s same.1 same.2

end Frozen

theorem Settled.of_frozen {s t : Session Machine} (settled : s.Settled) (frozen : Frozen s t) :
    t.Settled := by
  intro code
  rw [frozen.exitCode, frozen.state]
  exact settled code

theorem Frozen.drained {s t : Session Machine} (frozen : Frozen s t)
    (drained : s.host.output = "") : t.host.output = "" := by
  rcases frozen.output with same | taken
  · exact same.trans drained
  · exact taken

/-- Every operation passes over a session whose guest has ended. -/
theorem frozen_apply {s : Session Machine} {code : Int32} (ended : s.exitCode = some code)
    (exited : s.state = .stopped (.exited code)) (o : Operation) : Frozen s (s.apply o) := by
  have notRunning : s.state ≠ .running := by rw [exited]; nofun
  have stepped := step_of_exited ended
  have batched := stepMany_of_exited ended
  cases o with
  | step =>
      rw [Session.apply, stepped]
      exact .stop exited
  | stepMany =>
      rw [Session.apply, batched]
      exact .stop exited
  | runStep =>
      rw [Session.apply, runStep, stepped]
      exact .stop exited
  | runTurn =>
      rw [Session.apply, runTurn_of_not_running notRunning]
      exact .refl s
  | startRunning =>
      rw [Session.apply, startRunning, ended]
      exact .stop exited
  | stopRunning =>
      rw [Session.apply, stopRunning, exited]
      exact .refl s
  | runTo a =>
      have added := Frozen.addBreakpoint s a { oneShot := true }
      have still := added.exitCode.trans ended
      rw [Session.apply, runTo, ended]
      simp only [Option.isNone_some, Bool.false_and, Bool.false_eq_true, if_false]
      rw [startRunning, still]
      exact added.trans (.stop (added.state.trans exited))
  | addBreakpoint a flags => exact .addBreakpoint s a flags
  | removeBreakpoint a => exact .removeBreakpoint s a
  | toggleBreakpoint a => exact .toggleBreakpoint s a
  | takeOutput => exact ⟨rfl, rfl, rfl, rfl, rfl, rfl, .inr rfl, rfl, rfl, rfl⟩
  | setLabels labels => exact ⟨rfl, rfl, rfl, rfl, rfl, rfl, .inl rfl, rfl, rfl, rfl⟩
  | passTime milliseconds => exact ⟨rfl, rfl, rfl, rfl, rfl, rfl, .inl rfl, rfl, rfl, rfl⟩

/-- A session whose guest has ended stays as it is, whatever is done to it. -/
theorem Driven.frozen {s t : Session Machine} {code : Int32} (ended : s.exitCode = some code)
    (exited : s.state = .stopped (.exited code)) (driven : Driven s t) : Frozen s t := by
  refine driven.keeps ?_ (.refl s)
  intro u o frozen
  exact frozen.trans (frozen_apply (frozen.exitCode.trans ended) (frozen.state.trans exited) o)

/-- Host and state tell the end of the guest together, and it is final: no sequence of operations
executes, draws, writes or counts anything after it. -/
theorem exit_final {s : Session Machine} (reached : Reachable s) (code : Int32) :
    (s.exitCode = some code ↔ s.state = .stopped (.exited code)) ∧
      (s.exitCode = some code → ∀ t, Driven s t → Frozen s t) := by
  have settled := reached.settled
  refine ⟨settled code, ?_⟩
  intro ended t driven
  exact driven.frozen ended ((settled code).1 ended)

/-- A guest that ends in the middle of a batch. -/
theorem exit_final_in_batch :
    let listing := Listing.ofOps [(0x10, .write "a"), (0x11, .exit 3), (0x12, .write "b")]
    let start := create (Machine.create listing 16) {} {}
    let s := (start.apply .startRunning).apply .runTurn
    Reachable s ∧ s.exitCode = some 3 ∧
      (s.exitCode = some 3 ↔ s.state = .stopped (.exited 3)) ∧
      ∀ t, Driven s t → Frozen s t := by
  intro listing start s
  have reached : Reachable s := ((reachable_create _ _ _ _).operation _).operation _
  have ended : s.exitCode = some 3 := by decide
  obtain ⟨told, final⟩ := exit_final reached 3
  exact ⟨reached, ended, told, final ended⟩

end Session

end GuestDebugger
