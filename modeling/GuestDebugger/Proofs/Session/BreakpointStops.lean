import GuestDebugger.Proofs.Session.Entries
import GuestDebugger.Proofs.Session.Exit

/-! # Stops at breakpoints

Executing stops at a breakpoint only where the guest stands, if there is an enabled entry there. Of
the table such a stop takes at most that entry, and nothing else that executes changes it.

A session whose guest runs in turns only tells of such a stop no longer than the guest stands
there: whatever moves the guest enters another state first. Batches outside of turns do not, so a
guest that was stopped may be moved by them while the state tells of the stop it made before. -/

namespace GuestDebugger.Session

/-! ### What executing makes of the breakpoint table -/

/-- A stop at a breakpoint, and the table before and after it. -/
structure StoppedAt (s t : Session Machine) (a : Address) : Prop where
  /-- The guest stands there. -/
  pc : t.pc = a
  /-- It has not ended. -/
  alive : t.exitCode = none
  /-- An enabled entry was there. It is gone if it was for one hit, and the same if it was not. -/
  entry : ∃ b, s.breakpoints.get? a = some b ∧ b.disabled = false ∧
    t.breakpoints.get? a = if b.flags.temporary || b.flags.oneShot then none else some b
  /-- All other entries are the same. -/
  others : ∀ x, x ≠ a → t.breakpoints.get? x = s.breakpoints.get? x

/-- Whether executing stopped at a breakpoint. -/
def Hits (x : Executed Machine) (a : Address) : Prop :=
  x.1 = .ok false ∧ x.2.state = .stopped (.breakpoint a)

/-- A session that is judged to stand on an enabled breakpoint. -/
theorem stoppedAt_of_entry {s u : Session Machine} {b : Breakpoint} (progress : Progress s u)
    (alive : u.exitCode = none) (entry : u.breakpoints.get? u.pc = some b)
    (enabled : b.disabled = false) :
    StoppedAt s ((if b.isTransient then u.removeBreakpoint u.pc else u).stop (.breakpoint u.pc))
      u.pc := by
  have entry' : s.breakpoints.get? u.pc = some b := progress.breakpoints ▸ entry
  cases transient : b.isTransient with
  | true =>
      have removed : ∀ x, (u.removeBreakpoint u.pc).breakpoints.get? x =
          if x = u.pc then none else s.breakpoints.get? x := by
        intro x
        rw [get?_removeBreakpoint, progress.breakpoints]
      have frozen := Frozen.removeBreakpoint u u.pc
      refine ⟨frozen.pc, frozen.exitCode.trans alive, ⟨b, entry', enabled, ?_⟩, ?_⟩
      · exact (removed u.pc).trans ((if_pos rfl).trans (if_pos transient).symm)
      · intro x other
        exact (removed x).trans (if_neg other)
  | false =>
      have kept : (if b.flags.temporary || b.flags.oneShot then none else some b) = some b :=
        if_neg (by simpa [Breakpoint.isTransient] using transient)
      refine ⟨rfl, alive, ⟨b, entry', enabled, entry.trans kept.symm⟩, ?_⟩
      intro x _
      exact congrArg (·.get? x) progress.breakpoints

/-- Executing stops at a breakpoint, or it leaves the table alone. -/
theorem Judged.stoppedAt_or_same {s : Session Machine} {x : Executed Machine}
    (judged : Judged s x) :
    (∃ a, Hits x a ∧ StoppedAt s x.2 a) ∨
      ((∀ a, ¬Hits x a) ∧ x.2.breakpoints = s.breakpoints) := by
  cases judged with
  | ended => exact .inr ⟨fun a hits => (by cases hits.2), rfl⟩
  | failed _ progress => exact .inr ⟨fun a hits => (by cases hits.2), progress.breakpoints⟩
  | @evaluated u _ progress =>
      have evaluated := evaluated_evaluateStop u
      generalize u.evaluateStop = x at evaluated ⊢
      cases evaluated with
      | exited => exact .inr ⟨fun a hits => (by cases hits.2), progress.breakpoints⟩
      | goesOn => exact .inr ⟨fun a hits => (by cases hits.1), progress.breakpoints⟩
      | breakpoint alive entry enabled =>
          exact .inl ⟨u.pc, ⟨rfl, rfl⟩, stoppedAt_of_entry progress alive entry enabled⟩

theorem Judged.stoppedAt {s : Session Machine} {x : Executed Machine} {a : Address}
    (judged : Judged s x) (hits : Hits x a) : StoppedAt s x.2 a := by
  rcases judged.stoppedAt_or_same with ⟨a', hits', stopped⟩ | ⟨noHit, -⟩
  · cases hits.2.symm.trans hits'.2
    exact stopped
  · exact absurd hits (noHit a)

theorem Judged.breakpoints_of_not_hits {s : Session Machine} {x : Executed Machine}
    (judged : Judged s x) (noHit : ∀ a, ¬Hits x a) : x.2.breakpoints = s.breakpoints := by
  rcases judged.stoppedAt_or_same with ⟨a, hits, -⟩ | ⟨-, same⟩
  · exact absurd hits (noHit a)
  · exact same

/-! ### Sessions whose guest runs in turns only -/

/-- A session that comes from another one by operations of which none is a batch outside of
turns. -/
inductive DrivenInTurns {ε : Type} [Engine ε] : Session ε → Session ε → Prop
  | refl (s : Session ε) : DrivenInTurns s s
  | operation {s t : Session ε} (driven : DrivenInTurns s t) (o : Operation)
      (inTurns : o ≠ .stepMany) : DrivenInTurns s (t.apply o)
  | runUntilStopped {σ : Type} {s : Session ε} {r r' : Run ε σ} {between : Run ε σ → Run ε σ}
      {fuel : Nat} {reason : Option StopReason} (driven : DrivenInTurns s r.session)
      (caller : ∀ q, DrivenInTurns q.session (between q).session)
      (ran : Session.runUntilStopped between fuel r = some (reason, r')) :
      DrivenInTurns s r'.session

theorem DrivenInTurns.keeps {ε : Type} [Engine ε] {P : Session ε → Prop}
    (operation : ∀ s o, o ≠ .stepMany → P s → P (s.apply o)) {s t : Session ε}
    (driven : DrivenInTurns s t) (start : P s) : P t := by
  induction driven with
  | refl => exact start
  | operation _ o inTurns ih => exact operation _ o inTurns (ih start)
  | runUntilStopped _ _ ran ih caller =>
      exact runUntilStopped_keeps (fun s => operation s .stopRunning nofun)
        (fun s => operation s .runTurn nofun) caller (ih start) ran

/-- A session with a machine that executes a listing, after operations of which none is a batch
outside of turns. -/
def ReachableInTurns (s : Session Machine) : Prop :=
  ∃ listing memorySize settings clock,
    DrivenInTurns (create (Machine.create listing memorySize) settings clock) s

theorem reachableInTurns_create (listing : Listing) (memorySize : Nat) (settings : StepSettings)
    (clock : Clock) :
    ReachableInTurns (create (Machine.create listing memorySize) settings clock) :=
  ⟨listing, memorySize, settings, clock, .refl _⟩

theorem ReachableInTurns.operation {s : Session Machine} (reached : ReachableInTurns s)
    (o : Operation) (inTurns : o ≠ .stepMany) : ReachableInTurns (s.apply o) := by
  obtain ⟨listing, memorySize, settings, clock, driven⟩ := reached
  exact ⟨listing, memorySize, settings, clock, driven.operation o inTurns⟩

/-- If the state tells of a stop at a breakpoint, the guest stands there and has not ended. -/
def HoldsPlace (s : Session Machine) : Prop :=
  ∀ a, s.state = .stopped (.breakpoint a) → s.pc = a ∧ s.exitCode = none

theorem holdsPlace_of_state {s : Session Machine}
    (state : ∀ a, s.state ≠ .stopped (.breakpoint a)) : s.HoldsPlace := by
  intro a stopped
  exact absurd stopped (state a)

theorem HoldsPlace.of_frozen {s t : Session Machine} (holds : s.HoldsPlace)
    (frozen : Frozen s t) : t.HoldsPlace := by
  intro a stopped
  rw [frozen.pc, frozen.exitCode]
  exact holds a (frozen.state.symm.trans stopped)

theorem Judged.holdsPlace {s : Session Machine} {x : Executed Machine} (judged : Judged s x)
    (stops : x.1 = .ok false) : x.2.HoldsPlace := by
  intro a stopped
  have there := judged.stoppedAt ⟨stops, stopped⟩
  exact ⟨there.pc, there.alive⟩

/-- A single step is entered in another state than that of a stop. -/
theorem isRunning_or_singleStepping_of_step {s t : Session Machine}
    (goesOn : s.step = (.ok true, t)) : t.state = .running ∨ t.state = .singleStepping := by
  have entered : s.enterStep.state = .running ∨ s.enterStep.state = .singleStepping := by
    simp only [enterStep]
    split
    · rename_i running
      exact .inl (RunState.eq_running_of_isRunning running)
    · exact .inr rfl
  cases ended : s.exitCode with
  | some code =>
      rw [step_of_exited ended] at goesOn
      cases goesOn
  | none =>
      rw [step_of_alive ended] at goesOn
      split at goesOn
      · rename_i halt _
        cases halt <;> cases goesOn
      · obtain ⟨rfl, -⟩ := evaluateStop_goesOn goesOn
        exact entered

theorem holdsPlace_step (s : Session Machine) : s.step.2.HoldsPlace := by
  obtain ⟨goesOn, answer⟩ := (judged_step s).answered
  cases goesOn with
  | true =>
      apply holdsPlace_of_state
      intro a stopped
      rcases isRunning_or_singleStepping_of_step answer with state | state <;>
        cases stopped.symm.trans state
  | false => exact (judged_step s).holdsPlace (congrArg Prod.fst answer)

theorem HoldsPlace.runTurn {s : Session Machine} (holds : s.HoldsPlace) :
    s.runTurn.2.HoldsPlace := by
  by_cases running : s.state = .running
  · rcases runTurn_of_running running with ⟨-, state⟩ | ⟨reason, turn, -⟩
    · exact holdsPlace_of_state fun a stopped => (by cases stopped.symm.trans state)
    · rcases runTurn_eq running with ⟨-, goesOn⟩ | ⟨batch, -⟩
      · cases turn.symm.trans goesOn
      · have judged := judged_stepMany s
        rw [batch] at judged
        exact judged.holdsPlace rfl
  · rw [runTurn_of_not_running running]
    exact holds

theorem holdsPlace_startRunning (s : Session Machine) : s.startRunning.HoldsPlace := by
  simp only [startRunning]
  split
  · intro a stopped
    cases stopped
  · intro a stopped
    cases stopped

theorem HoldsPlace.apply {s : Session Machine} (holds : s.HoldsPlace) {o : Operation}
    (inTurns : o ≠ .stepMany) : (s.apply o).HoldsPlace := by
  cases o with
  | stepMany => exact absurd rfl inTurns
  | step => exact holdsPlace_step s
  | runStep =>
      obtain ⟨goesOn, answer, -⟩ := runStep_eq s
      have stepped := holdsPlace_step s
      rw [answer] at stepped
      exact stepped
  | runTurn => exact holds.runTurn
  | startRunning => exact holdsPlace_startRunning s
  | stopRunning =>
      simp only [Session.apply, stopRunning]
      split
      · intro a stopped
        cases stopped
      · exact holds
  | runTo a =>
      simp only [Session.apply, runTo]
      split
      · -- The guest is there already.
        rename_i here
        rw [Bool.and_eq_true, Option.isNone_iff_eq_none, beq_iff_eq] at here
        intro x stopped
        cases stopped
        exact ⟨here.2, here.1⟩
      · exact holdsPlace_startRunning _
  | addBreakpoint a flags => exact holds.of_frozen (.addBreakpoint s a flags)
  | removeBreakpoint a => exact holds.of_frozen (.removeBreakpoint s a)
  | toggleBreakpoint a => exact holds.of_frozen (.toggleBreakpoint s a)
  | takeOutput | setLabels | passTime => exact holds

theorem ReachableInTurns.holdsPlace {s : Session Machine} (reached : ReachableInTurns s) :
    s.HoldsPlace := by
  obtain ⟨listing, memorySize, settings, clock, driven⟩ := reached
  exact driven.keeps (fun _ _ inTurns holds => holds.apply inTurns) (holdsPlace_of_state nofun)

/-! ### What a stop at a breakpoint tells -/

/-- A call that executes stops at a breakpoint only if the guest stands there now and an enabled
entry was there before. The entry is gone exactly if it was for one hit, and all others are the
same; a call that ends in another way leaves the table alone. As long as batches are executed in
turns only, the state tells of such a stop only while the guest stands there and has not ended. -/
theorem breakpoint_stops_tell :
    (∀ (s : Session Machine) (x : Executed Machine), x = s.step ∨ x = s.stepMany →
      (∀ a, x.1 = .ok false → x.2.state = .stopped (.breakpoint a) → StoppedAt s x.2 a) ∧
        ((∀ a, ¬(x.1 = .ok false ∧ x.2.state = .stopped (.breakpoint a))) →
          x.2.breakpoints = s.breakpoints)) ∧
      ∀ s : Session Machine, ReachableInTurns s → ∀ a, s.state = .stopped (.breakpoint a) →
        s.pc = a ∧ s.exitCode = none := by
  refine ⟨?_, fun s reached => reached.holdsPlace⟩
  intro s x call
  have judged : Judged s x := by
    rcases call with rfl | rfl
    · exact judged_step s
    · exact judged_stepMany s
  exact ⟨fun a stops stopped => judged.stoppedAt ⟨stops, stopped⟩, judged.breakpoints_of_not_hits⟩

/-- A batch that is stopped by a temporary breakpoint, a step that goes on, and a turn that is
stopped. -/
theorem breakpoint_stops_tell_of_temporary :
    let start := create (Machine.create (.ofOps [(0x10, .nop), (0x11, .nop)]) 16) {} {}
    let s := start.apply (.addBreakpoint 0x11 { temporary := true })
    let t := (s.apply .startRunning).apply .runTurn
    s.stepMany.1 = .ok false ∧ s.stepMany.2.state = .stopped (.breakpoint 0x11) ∧
      StoppedAt s s.stepMany.2 0x11 ∧
      (∀ a, ¬(start.step.1 = .ok false ∧ start.step.2.state = .stopped (.breakpoint a))) ∧
      start.step.2.breakpoints = start.breakpoints ∧
      ReachableInTurns t ∧ t.state = .stopped (.breakpoint 0x11) ∧
      t.pc = 0x11 ∧ t.exitCode = none := by
  intro start s t
  have stops : s.stepMany.1 = .ok false := rfl
  have stopped : s.stepMany.2.state = .stopped (.breakpoint 0x11) := rfl
  have goesOn : start.step.1 = .ok true := rfl
  have noHit :
      ∀ a, ¬(start.step.1 = .ok false ∧ start.step.2.state = .stopped (.breakpoint a)) := by
    rintro a ⟨stops, -⟩
    cases goesOn.symm.trans stops
  have reached : ReachableInTurns t :=
    (((reachableInTurns_create _ _ _ _).operation (.addBreakpoint 0x11 { temporary := true })
      nofun).operation .startRunning nofun).operation .runTurn nofun
  have stopped' : t.state = .stopped (.breakpoint 0x11) := rfl
  exact ⟨stops, stopped, (breakpoint_stops_tell.1 s _ (.inr rfl)).1 _ stops stopped, noHit,
    (breakpoint_stops_tell.1 start _ (.inl rfl)).2 noHit, reached, stopped',
    breakpoint_stops_tell.2 t reached _ stopped'⟩

end GuestDebugger.Session
