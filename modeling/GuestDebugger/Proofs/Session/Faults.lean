import GuestDebugger.Proofs.Machine.Independence
import GuestDebugger.Proofs.Session.SingleStepping

/-! # Faults repeat

An instruction that fails leaves machine and host as they are, so after a fault the guest stands
before the same instruction. Nothing that is done to the session from outside gets the guest past
it: whoever executes next, by a single step or by a batch, meets the same failure. -/

namespace GuestDebugger

namespace Session

/-- A session whose next instruction fails. -/
structure Stuck (s : Session Machine) (cause : Halt) : Prop where
  /-- The guest has not ended. -/
  alive : s.exitCode = none
  /-- The next instruction fails. -/
  fails : (s.engine.step s.host).outcome = .error cause

/-- What a guest that cannot go on leaves for good. Its break set may change and its output may be
taken. -/
structure Held (s t : Session Machine) : Prop where
  engine : t.engine = s.engine.withBreaks t.engine.breaks
  host : t.host = { s.host with output := t.host.output, clock := t.host.clock }
  output : t.host.output = s.host.output ∨ t.host.output = ""
  batchSize : t.batchSize = s.batchSize

/-- A session with another clock. -/
def withClock (s : Session Machine) (clock : Clock) : Session Machine :=
  { s with host := { s.host with clock } }

namespace Held

variable {s t u : Session Machine}

theorem refl (s : Session Machine) : Held s s := ⟨rfl, rfl, .inl rfl, rfl⟩

theorem trans (first : Held s t) (second : Held t u) : Held s u where
  engine := by
    rw [second.engine, first.engine]
    rfl
  host := by
    rw [second.host, first.host]
  output := by
    rcases second.output with same | taken
    · rw [same]
      exact first.output
    · exact .inr taken
  batchSize := second.batchSize.trans first.batchSize

theorem stuck {cause : Halt} (held : Held s t) (stuck : s.Stuck cause) : t.Stuck cause where
  alive := by
    rw [exitCode, held.host]
    exact stuck.alive
  fails := by
    rw [held.engine, held.host, Machine.outcome_step_of_same]
    exact stuck.fails

theorem withBreakpoints (s : Session Machine) {changed : Breakpoints × Machine}
    (engine : changed.2 = s.engine.withBreaks changed.2.breaks) :
    Held s (s.withBreakpoints changed) := ⟨engine, rfl, .inl rfl, rfl⟩

theorem addBreakpoint (s : Session Machine) (a : Address) (flags : BreakpointFlags) :
    Held s (s.addBreakpoint a flags) := withBreakpoints s rfl

theorem removeBreakpoint (s : Session Machine) (a : Address) : Held s (s.removeBreakpoint a) := by
  apply withBreakpoints
  simp only [Breakpoints.remove]
  split <;> rfl

theorem toggleBreakpoint (s : Session Machine) (a : Address) :
    Held s (s.toggleBreakpoint a).2 := by
  have breaks : (s.breakpoints.toggle s.engine a).2.2 =
      s.engine.withBreaks (s.breakpoints.toggle s.engine a).2.2.breaks := by
    simp only [Breakpoints.toggle]
    split
    · rfl
    · split <;> rfl
  exact withBreakpoints s breaks

theorem stop (s : Session Machine) (reason : StopReason) : Held s (s.stop reason) :=
  ⟨rfl, rfl, .inl rfl, rfl⟩

theorem startRunning (s : Session Machine) : Held s s.startRunning := by
  simp only [Session.startRunning]
  split
  · exact .stop s _
  · exact ⟨rfl, rfl, .inl rfl, rfl⟩

end Held

/-! ### Executing once more -/

namespace Stuck

variable {s : Session Machine} {cause : Halt}

theorem exists_error (stuck : s.Stuck cause) : ∃ e, cause = .error e := by
  obtain ⟨e, eq, -⟩ := (Machine.ends_step s.engine stuck.alive).failed cause stuck.fails
  exact ⟨e, eq⟩

theorem engine_step (stuck : s.Stuck cause) :
    Engine.step s.engine s.host = ⟨s.engine, s.host, .error cause⟩ :=
  Machine.step_of_error stuck.fails

theorem withClock (stuck : s.Stuck cause) (clock : Clock) : (s.withClock clock).Stuck cause :=
  Held.stuck ⟨rfl, rfl, .inl rfl, rfl⟩ stuck

/-- A single step fails again. -/
theorem step (stuck : s.Stuck cause) : s.step = (.ok false, s.stop (.fault cause)) := by
  obtain ⟨e, rfl⟩ := stuck.exists_error
  obtain ⟨state, entered, -⟩ := s.enterStep_eq
  rw [step_of_alive stuck.alive, stuck.engine_step, entered]
  rfl

theorem runStep (stuck : s.Stuck cause) : s.runStep = (false, s.stop (.fault cause)) := by
  rw [Session.runStep, stuck.step]

/-- A batch fails again at its first instruction, but the clock may be read before. -/
theorem stepMany (stuck : s.Stuck cause) (mirrored : s.Mirrored) (batchSize : s.batchSize ≠ 0) :
    ∃ clock, s.stepMany = (.ok false, (s.withClock clock).stop (.fault cause)) := by
  obtain ⟨e, eq⟩ := stuck.exists_error
  cases active : s.breakpoints.isActive s.pc with
  | false =>
      have free := mirrored.hasBreak_of_inactive active
      have fails := (stuck.withClock s.host.readClock.2.clock).fails
      have ran : Engine.stepMany s.engine s.host.readClock.2 s.batchSize =
          ⟨s.engine, s.host.readClock.2, .error cause⟩ :=
        Machine.stepMany_of_error free batchSize fails
      refine ⟨s.host.readClock.2.clock, ?_⟩
      rw [stepMany_of_inactive stuck.alive active]
      simp only [runBatch, ran, eq]
      rfl
  | true =>
      refine ⟨s.host.clock, ?_⟩
      rw [stepMany_of_active stuck.alive active, stuck.engine_step, eq]
      rfl

/-- Setting the guest running leads to the same fault within a turn. -/
theorem runTurn (stuck : s.Stuck cause) (mirrored : s.Mirrored) (batchSize : s.batchSize ≠ 0) :
    ∃ clock, s.startRunning.runTurn =
      (.stopped (.fault cause), (s.withClock clock).stop (.fault cause)) := by
  have started : s.startRunning = { s with state := .running } := by
    rw [startRunning, stuck.alive]
  have again : s.startRunning.Stuck cause := (Held.startRunning s).stuck stuck
  obtain ⟨clock, batch⟩ := again.stepMany mirrored.startRunning
    ((batchSize_startRunning s).trans_ne batchSize)
  refine ⟨clock, ?_⟩
  rw [Session.runTurn, batch, started]
  rfl

end Stuck

/-! ### Every operation -/

/-- What executes leaves the session of a single step or a batch, if it executes at all. -/
theorem apply_of_executes (s : Session Machine) {o : Operation} (executes : o.Executes) :
    s.apply o = s ∨ s.apply o = s.step.2 ∨ s.apply o = s.stepMany.2 := by
  cases o with
  | step => exact .inr (.inl rfl)
  | stepMany => exact .inr (.inr rfl)
  | runStep =>
      obtain ⟨goesOn, eq, -⟩ := runStep_eq s
      exact .inr (.inl (congrArg Prod.snd eq).symm)
  | runTurn =>
      rcases runTurn_snd s with eq | eq
      · exact .inl eq
      · exact .inr (.inr eq)
  | _ => exact executes.elim

theorem Stuck.held_apply {s : Session Machine} {cause : Halt} (stuck : s.Stuck cause)
    (reached : Reachable s) (o : Operation) : Held s (s.apply o) := by
  have executed : ∀ o : Operation, o.Executes → Held s (s.apply o) := by
    intro o executes
    rcases s.apply_of_executes executes with eq | eq | eq <;> rw [eq]
    · exact .refl s
    · rw [stuck.step]
      exact .stop s _
    · obtain ⟨clock, again⟩ := stuck.stepMany reached.mirrored reached.batchSize_ne_zero
      rw [again]
      exact ⟨rfl, rfl, .inl rfl, rfl⟩
  cases o with
  | step | stepMany | runStep | runTurn => exact executed _ trivial
  | startRunning => exact .startRunning s
  | stopRunning =>
      simp only [apply, stopRunning]
      split
      · exact .stop s _
      · exact .refl s
  | runTo a =>
      simp only [apply, runTo]
      split
      · exact .stop s _
      · exact (Held.addBreakpoint s a { oneShot := true }).trans (.startRunning _)
  | addBreakpoint a flags => exact .addBreakpoint s a flags
  | removeBreakpoint a => exact .removeBreakpoint s a
  | toggleBreakpoint a => exact .toggleBreakpoint s a
  | takeOutput => exact ⟨rfl, rfl, .inr rfl, rfl⟩
  | setLabels | passTime => exact ⟨rfl, rfl, .inl rfl, rfl⟩

/-- If the session stopped with a fault, the next instruction is the one that fails. -/
def Stands (s : Session Machine) : Prop :=
  ∀ cause, s.state = .stopped (.fault cause) → s.Stuck cause

theorem Stuck.stands {s : Session Machine} {cause : Halt} (stuck : s.Stuck cause) :
    (s.stop (.fault cause)).Stands := by
  intro cause' fault
  cases fault
  exact ⟨stuck.alive, stuck.fails⟩

theorem stands_of_state {s : Session Machine} (state : ∀ cause, s.state ≠ .stopped (.fault cause)) :
    s.Stands := by
  intro cause fault
  exact absurd fault (state cause)

/-- Judging does not make a fault. -/
theorem stands_evaluateStop {u : Session Machine}
    (state : ∀ cause, u.state ≠ .stopped (.fault cause)) : u.evaluateStop.2.Stands := by
  have evaluated := evaluated_evaluateStop u
  generalize u.evaluateStop = x at evaluated ⊢
  cases evaluated with
  | exited => exact stands_of_state nofun
  | breakpoint => exact stands_of_state nofun
  | goesOn => exact stands_of_state state

theorem stands_step (s : Session Machine) : s.step.2.Stands := by
  cases ended : s.exitCode with
  | some code =>
      rw [step_of_exited ended]
      exact stands_of_state nofun
  | none =>
      cases ran : (s.engine.step s.host).outcome with
      | error cause =>
          have stuck : s.Stuck cause := ⟨ended, ran⟩
          rw [stuck.step]
          exact stuck.stands
      | ok done =>
          have engine : (Engine.step s.engine s.host).outcome = .ok done := ran
          rw [step_of_alive ended, engine]
          apply stands_evaluateStop
          intro cause fault
          simp only [countInstructions, afterRun, enterStep] at fault
          split at fault
          · rename_i running
            rw [fault] at running
            cases running
          · cases fault

theorem stands_runBatch {s : Session Machine} (alive : s.exitCode = none)
    (state : ∀ cause, s.state ≠ .stopped (.fault cause)) : s.runBatch.2.Stands := by
  have batched := Machine.batched_stepMany s.engine s.host.readClock.2 s.batchSize
  have ends := Machine.ends_stepMany s.engine (h := s.host.readClock.2) alive s.batchSize
  have engine : Engine.stepMany s.engine s.host.readClock.2 s.batchSize =
    s.engine.stepMany s.host.readClock.2 s.batchSize := rfl
  simp only [runBatch, engine]
  generalize s.engine.stepMany s.host.readClock.2 s.batchSize = ran at batched ends ⊢
  cases batched with
  | finished => exact stands_evaluateStop state
  | @failed n m₁ m h₁ h halt _ _ _ _ fails =>
      obtain ⟨e, rfl, still⟩ := ends.failed halt rfl
      -- The instruction that failed is the next one still.
      have failed : (m₁.step h₁).outcome = .error (.error e) := by rw [fails]
      have same := (Machine.step_of_error failed).symm.trans fails
      cases same
      have stuck : (s.afterRun ⟨m₁, h₁, .ok ()⟩).Stuck (.error e) := ⟨still, failed⟩
      exact stuck.stands

theorem Stands.stepMany {s : Session Machine} (stands : s.Stands) (mirrored : s.Mirrored)
    (batchSize : s.batchSize ≠ 0) : s.stepMany.2.Stands := by
  by_cases fault : ∃ cause, s.state = .stopped (.fault cause)
  · obtain ⟨cause, fault⟩ := fault
    have stuck := stands cause fault
    obtain ⟨clock, again⟩ := stuck.stepMany mirrored batchSize
    rw [again]
    exact (stuck.withClock clock).stands
  · have state : ∀ cause, s.state ≠ .stopped (.fault cause) := by
      intro cause eq
      exact fault ⟨cause, eq⟩
    cases ended : s.exitCode with
    | some code =>
        rw [stepMany_of_exited ended]
        exact stands_of_state nofun
    | none =>
        cases active : s.breakpoints.isActive s.pc with
        | false =>
            rw [stepMany_of_inactive ended active]
            exact stands_runBatch ended state
        | true =>
            rw [stepMany_of_active ended active]
            cases ran : (Engine.step s.engine s.host).outcome with
            | error cause =>
                have stuck : s.Stuck cause := ⟨ended, ran⟩
                obtain ⟨e, rfl⟩ := stuck.exists_error
                rw [stuck.engine_step]
                exact stuck.stands
            | ok done =>
                simp only [runRest]
                split
                · exact stands_evaluateStop state
                · rename_i goesOn
                  exact stands_runBatch (by simpa using goesOn) state

/-- Only what executes ends in a fault. -/
theorem state_of_not_executes {s : Session Machine} {o : Operation} {cause : Halt}
    (executes : ¬ o.Executes) (fault : (s.apply o).state = .stopped (.fault cause)) :
    s.state = .stopped (.fault cause) := by
  have started : ∀ u : Session Machine, u.startRunning.state ≠ .stopped (.fault cause) := by
    intro u eq
    simp only [startRunning] at eq
    split at eq <;> cases eq
  cases o with
  | step | stepMany | runStep | runTurn => exact absurd trivial executes
  | startRunning => exact absurd fault (started s)
  | stopRunning =>
      simp only [apply, stopRunning] at fault
      split at fault
      · cases fault
      · exact fault
  | runTo a =>
      simp only [apply, runTo] at fault
      split at fault
      · cases fault
      · exact absurd fault (started _)
  | addBreakpoint | removeBreakpoint | toggleBreakpoint | takeOutput | setLabels | passTime =>
      exact fault

theorem Stands.apply {s : Session Machine} (stands : s.Stands) (reached : Reachable s)
    (o : Operation) : (s.apply o).Stands := by
  by_cases executes : o.Executes
  · rcases s.apply_of_executes executes with eq | eq | eq <;> rw [eq]
    · exact stands
    · exact stands_step s
    · exact stands.stepMany reached.mirrored reached.batchSize_ne_zero
  · intro cause fault
    have stuck := stands cause (state_of_not_executes executes fault)
    exact (stuck.held_apply reached o).stuck stuck

/-- In every reachable session a fault stands. -/
theorem Reachable.stands {s : Session Machine} (reached : Reachable s) : s.Stands := by
  have both : Reachable s ∧ s.Stands := by
    refine reached.keeps (P := fun s => Reachable s ∧ s.Stands) ?_ ?_
    · intro listing memorySize settings clock
      exact ⟨reachable_create listing memorySize settings clock, stands_of_state nofun⟩
    · rintro s o ⟨reached, stands⟩
      exact ⟨reached.operation o, stands.apply reached o⟩
  exact both.2

/-! ### After a fault -/

/-- Whatever is done to a session whose guest cannot go on, it stays where it is. -/
theorem Driven.held {s t : Session Machine} {cause : Halt} (stuck : s.Stuck cause)
    (reached : Reachable s) (driven : Driven s t) : Reachable t ∧ Held s t := by
  refine driven.keeps (P := fun t => Reachable t ∧ Held s t) ?_ ⟨reached, .refl s⟩
  rintro t o ⟨reached, held⟩
  exact ⟨reached.operation o, held.trans ((held.stuck stuck).held_apply reached o)⟩

/-- Faults are atomic and repeat. An instruction that fails leaves machine and host as they are. So
after a fault, whatever is done to the session, the guest stays where it is, and single steps and
turns end in the same fault again, leaving all but the state and the clock as it is. -/
theorem faults_repeat :
    (∀ (m : Machine) (h : Host) (halt : Halt), (m.step h).outcome = .error halt →
      m.step h = ⟨m, h, .error halt⟩) ∧
    ∀ (s t : Session Machine) (cause : Halt), Reachable s → s.state = .stopped (.fault cause) →
      Driven s t →
        Held s t ∧ t.step = (.ok false, t.stop (.fault cause)) ∧
        t.runStep = (false, t.stop (.fault cause)) ∧
        ∃ clock, t.startRunning.runTurn =
          (.stopped (.fault cause), (t.withClock clock).stop (.fault cause)) := by
  refine ⟨fun m h halt => Machine.step_of_error, ?_⟩
  intro s t cause reached fault driven
  have first := reached.stands cause fault
  obtain ⟨reached', held⟩ := driven.held first reached
  have stuck := held.stuck first
  exact ⟨held, stuck.step, stuck.runStep,
    stuck.runTurn reached'.mirrored reached'.batchSize_ne_zero⟩

/-- A fault in the middle of a batch, after which the output is taken and a breakpoint is set where
the guest stands. -/
theorem faults_repeat_at_a_breakpoint :
    let listing := Listing.ofOps [(0x10, .write "a"), (0x11, .fault "broken"), (0x12, .exit 0)]
    let start := create (Machine.create listing 16) {} {}
    let s := (start.apply .startRunning).apply .runTurn
    let t := (s.apply .takeOutput).apply (.addBreakpoint 0x11 {})
    let cause := Halt.error (.guestFault "broken")
    (s.engine.step s.host).outcome = .error cause ∧
      s.engine.step s.host = ⟨s.engine, s.host, .error cause⟩ ∧
      Reachable s ∧ s.state = .stopped (.fault cause) ∧ Driven s t ∧
      Held s t ∧ t.step = (.ok false, t.stop (.fault cause)) ∧
      t.runStep = (false, t.stop (.fault cause)) ∧
      ∃ clock, t.startRunning.runTurn =
        (.stopped (.fault cause), (t.withClock clock).stop (.fault cause)) := by
  intro listing start s t cause
  have fails : (s.engine.step s.host).outcome = .error cause := by decide
  have reached : Reachable s := ((reachable_create _ _ _ _).operation _).operation _
  have fault : s.state = .stopped (.fault cause) := by decide
  have driven : Driven s t := ((Driven.refl s).operation .takeOutput).operation _
  exact ⟨fails, faults_repeat.1 _ _ cause fails, reached, fault, driven,
    faults_repeat.2 s t cause reached fault driven⟩

end Session

end GuestDebugger
