import GuestDebugger.Breakpoints.Lemmas
import GuestDebugger.Except.Lemmas
import GuestDebugger.Proofs.Session.Execution

/-! # Entries of the breakpoint table

What is found at an address after each change of a session. Executing takes at most one entry, a
transient one at the address where it stops. -/

namespace GuestDebugger.Session

section Changes

variable {ε : Type}

@[simp] theorem breakpoints_startRunning (s : Session ε) :
    s.startRunning.breakpoints = s.breakpoints := by
  simp only [startRunning]
  split <;> rfl

@[simp] theorem breakpoints_stopRunning (s : Session ε) :
    s.stopRunning.breakpoints = s.breakpoints := by
  simp only [stopRunning]
  split <;> rfl

@[simp] theorem breakpoints_takeOutput (s : Session ε) :
    s.takeOutput.2.breakpoints = s.breakpoints := rfl

@[simp] theorem state_takeOutput (s : Session ε) : s.takeOutput.2.state = s.state := rfl

variable [Engine ε]

theorem get?_addBreakpoint (s : Session ε) (a x : Address) (flags : BreakpointFlags) :
    (s.addBreakpoint a flags).breakpoints.get? x =
      if x = a then some ⟨a, false, flags⟩ else s.breakpoints.get? x :=
  Breakpoints.get?_add (s := s.engine) flags x

theorem get?_removeBreakpoint (s : Session ε) (a x : Address) :
    (s.removeBreakpoint a).breakpoints.get? x = if x = a then none else s.breakpoints.get? x :=
  Breakpoints.get?_remove (s := s.engine) x

theorem get?_toggleBreakpoint (s : Session ε) (a x : Address) :
    (s.toggleBreakpoint a).2.breakpoints.get? x =
      if x = a then (s.breakpoints.get? a).map fun b => { b with disabled := !b.disabled }
      else s.breakpoints.get? x :=
  Breakpoints.get?_toggle (s := s.engine) x

theorem toggleBreakpoint_of_absent {s : Session ε} {a : Address}
    (absent : s.breakpoints.get? a = none) : s.toggleBreakpoint a = (.error (.notFound a), s) := by
  rw [toggleBreakpoint, Breakpoints.toggle_of_absent absent]
  rfl

/-- A breakpoint that cannot be enabled or disabled leaves the session as it is. -/
theorem toggleBreakpoint_of_error {s : Session ε} {a : Address} {e : BreakpointError}
    (failed : (s.toggleBreakpoint a).1 = .error e) : (s.toggleBreakpoint a).2 = s := by
  have same := Breakpoints.toggle_of_error failed
  exact congrArg s.withBreakpoints same

/-- Running to an address puts an entry there, unless the guest stands there. -/
theorem get?_runTo (s : Session ε) (a x : Address) :
    (s.runTo a).breakpoints.get? x =
      if x = a ∧ ¬(s.exitCode = none ∧ s.pc = a) then some ⟨a, false, { oneShot := true }⟩
      else s.breakpoints.get? x := by
  by_cases here : s.exitCode = none ∧ s.pc = a
  · simp [runTo, here, stop]
  · have away : (s.exitCode.isNone && s.pc == a) = false := by
      simpa [Option.isNone_iff_eq_none] using here
    simp only [runTo, away, Bool.false_eq_true, if_false, breakpoints_startRunning,
      get?_addBreakpoint, here, not_false_eq_true, and_true]

end Changes

/-- Execution stopped at an address and took the transient entry there. -/
structure Took (s t : Session Machine) (a : Address) (b : Breakpoint) : Prop where
  /-- The entry was in the table and enabled. -/
  entry : s.breakpoints.get? a = some b ∧ b.disabled = false
  /-- It was to be removed. -/
  transient : b.isTransient = true
  /-- Execution stopped there. -/
  state : t.state = .stopped (.breakpoint a)
  /-- The table is the one before without it. -/
  table : t.breakpoints = ⟨s.breakpoints.entries.erase a⟩

/-- Executing leaves the table alone or takes an entry. -/
theorem breakpoints_of_judged {s : Session Machine} {x : Executed Machine} (judged : Judged s x) :
    x.2.breakpoints = s.breakpoints ∨ ∃ a b, Took s x.2 a b := by
  cases judged with
  | ended => exact .inl rfl
  | failed _ progress => exact .inl progress.breakpoints
  | @evaluated u _ progress =>
      have evaluated := evaluated_evaluateStop u
      generalize u.evaluateStop = x at evaluated ⊢
      cases evaluated with
      | exited => exact .inl progress.breakpoints
      | goesOn => exact .inl progress.breakpoints
      | @breakpoint b _ entry enabled =>
          dsimp only
          split
          · rename_i transient
            rw [progress.breakpoints] at entry
            refine .inr ⟨u.pc, b, ⟨entry, enabled⟩, transient, rfl, ?_⟩
            simp only [stop, removeBreakpoint, withBreakpoints, Breakpoints.remove,
              progress.breakpoints, entry]
          · exact .inl progress.breakpoints

theorem breakpoints_runTurn (s : Session Machine) :
    s.runTurn.2.breakpoints = s.breakpoints ∨ ∃ a b, Took s s.runTurn.2 a b := by
  rcases runTurn_snd s with eq | eq <;> rw [eq]
  · exact .inl rfl
  · exact breakpoints_of_judged (judged_stepMany s)

theorem breakpoints_runStep (s : Session Machine) :
    s.runStep.2.breakpoints = s.breakpoints ∨ ∃ a b, Took s s.runStep.2 a b := by
  obtain ⟨goesOn, eq, -⟩ := runStep_eq s
  have judged := judged_step s
  rw [eq] at judged
  exact breakpoints_of_judged judged

end GuestDebugger.Session
