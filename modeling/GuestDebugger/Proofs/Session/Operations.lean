import GuestDebugger.Proofs.Session.Execution

/-! # Operations on a session

Everything that may be done to a session from outside, in any order. What one operation keeps, every
sequence of operations keeps; running until a stop is one too, whatever is done between turns. -/

namespace GuestDebugger

/-- What may be done to a session. -/
inductive Operation where
  /-- Executes one instruction. -/
  | step
  /-- Executes a batch, be the guest running or not. -/
  | stepMany
  /-- Executes one instruction, after which a crash is a fault. -/
  | runStep
  /-- Takes a turn. -/
  | runTurn
  /-- Sets the guest running. -/
  | startRunning
  /-- Stops a running guest. -/
  | stopRunning
  /-- Sets the guest running up to an address. -/
  | runTo (address : Address)
  /-- Adds or replaces a breakpoint. -/
  | addBreakpoint (address : Address) (flags : BreakpointFlags)
  /-- Removes a breakpoint. -/
  | removeBreakpoint (address : Address)
  /-- Enables or disables a breakpoint, or fails. -/
  | toggleBreakpoint (address : Address)
  /-- Takes the output. -/
  | takeOutput
  /-- Replaces the labels. -/
  | setLabels (labels : Labels)
  /-- Lets time pass. -/
  | passTime (milliseconds : Float)

/-- Whether an operation executes. -/
def Operation.Executes : Operation → Prop
  | step | stepMany | runStep | runTurn => True
  | _ => False

namespace Session

variable {ε : Type} [Engine ε]

/-- The session after an operation, whether it succeeds or fails. -/
def apply (s : Session ε) : Operation → Session ε
  | .step => s.step.2
  | .stepMany => s.stepMany.2
  | .runStep => s.runStep.2
  | .runTurn => s.runTurn.2
  | .startRunning => s.startRunning
  | .stopRunning => s.stopRunning
  | .runTo a => s.runTo a
  | .addBreakpoint a flags => s.addBreakpoint a flags
  | .removeBreakpoint a => s.removeBreakpoint a
  | .toggleBreakpoint a => (s.toggleBreakpoint a).2
  | .takeOutput => s.takeOutput.2
  | .setLabels labels => { s with labels }
  | .passTime milliseconds =>
      { s with host := { s.host with clock := s.host.clock.advance milliseconds } }

/-- A session that comes from another one by a finite sequence of operations. Between the turns of
a run, the caller may do the same. -/
inductive Driven : Session ε → Session ε → Prop
  | refl (s : Session ε) : Driven s s
  | operation {s t : Session ε} (driven : Driven s t) (o : Operation) : Driven s (t.apply o)
  | runUntilStopped {σ : Type} {s : Session ε} {r r' : Run ε σ} {between : Run ε σ → Run ε σ}
      {fuel : Nat} {reason : Option StopReason} (driven : Driven s r.session)
      (caller : ∀ q, Driven q.session (between q).session)
      (ran : Session.runUntilStopped between fuel r = some (reason, r')) : Driven s r'.session

/-- One turn of a run, after a look at the stop flag. -/
theorem runUntilStopped_succ {σ : Type} (between : Run ε σ → Run ε σ) (fuel : Nat) (r : Run ε σ) :
    runUntilStopped between (fuel + 1) r =
      match (if r.flag.requested then r.session.stopRunning else r.session).runTurn with
      | (.goesOn, s) => runUntilStopped between fuel (between { r with session := s, flag := {} })
      | (.stopped reason, s) => some (some reason, { r with session := s, flag := {} })
      | (.idle, s) => some (s.state.stopReason?, { r with session := s, flag := {} }) := rfl

/-- A run keeps what a turn and the caller keep; the induction is on the turns. -/
theorem invariant_runUntilStopped {σ : Type} {P : Run ε σ → Prop} {between : Run ε σ → Run ε σ}
    (turn : ∀ r, P r → P { r with
      session := (if r.flag.requested then r.session.stopRunning else r.session).runTurn.2
      flag := {} })
    (caller : ∀ r, P r → P (between r)) {fuel : Nat} {r r' : Run ε σ} {reason : Option StopReason}
    (start : P r) (ran : Session.runUntilStopped between fuel r = some (reason, r')) : P r' := by
  induction fuel generalizing r with
  | zero => cases ran
  | succ fuel ih =>
      have after := turn r start
      rw [runUntilStopped_succ] at ran
      split at ran <;> rename_i eq <;> rw [eq] at after
      · exact ih (caller _ after) ran
      · cases ran
        exact after
      · cases ran
        exact after

theorem runUntilStopped_keeps {σ : Type} {P : Session ε → Prop} {between : Run ε σ → Run ε σ}
    (stop : ∀ s, P s → P s.stopRunning) (turn : ∀ s, P s → P s.runTurn.2)
    (caller : ∀ q, P q.session → P (between q).session) {fuel : Nat} {r r' : Run ε σ}
    {reason : Option StopReason} (start : P r.session)
    (ran : Session.runUntilStopped between fuel r = some (reason, r')) : P r'.session := by
  refine invariant_runUntilStopped (P := fun r => P r.session) (fun q before => ?_) caller start ran
  refine turn _ ?_
  split
  · exact stop _ before
  · exact before

/-- What every operation keeps is kept by every sequence of operations. -/
theorem Driven.keeps {P : Session ε → Prop} (operation : ∀ s o, P s → P (s.apply o))
    {s t : Session ε} (driven : Driven s t) (start : P s) : P t := by
  induction driven with
  | refl => exact start
  | operation _ o ih => exact operation _ o (ih start)
  | runUntilStopped _ _ ran ih caller =>
      exact runUntilStopped_keeps (fun s => operation s .stopRunning)
        (fun s => operation s .runTurn) caller (ih start) ran

/-- An operation that executes keeps what judging keeps. -/
theorem keeps_of_judged {P : Session Machine → Prop} {s : Session Machine} {o : Operation}
    (executes : o.Executes) (start : P s) (judged : ∀ x, Judged s x → P x.2) : P (s.apply o) := by
  cases o with
  | step => exact judged _ (judged_step s)
  | stepMany => exact judged _ (judged_stepMany s)
  | runStep =>
      obtain ⟨goesOn, eq, -⟩ := runStep_eq s
      have kept := judged _ (judged_step s)
      rw [eq] at kept
      exact kept
  | runTurn =>
      simp only [apply]
      rcases runTurn_snd s with eq | eq <;> rw [eq]
      · exact start
      · exact judged _ (judged_stepMany s)
  | _ => exact executes.elim

/-- A session with a machine that executes a listing, after any sequence of operations since it was
created. -/
def Reachable (s : Session Machine) : Prop :=
  ∃ listing memorySize settings clock,
    Driven (create (Machine.create listing memorySize) settings clock) s

theorem reachable_create (listing : Listing) (memorySize : Nat) (settings : StepSettings)
    (clock : Clock) : Reachable (create (Machine.create listing memorySize) settings clock) :=
  ⟨listing, memorySize, settings, clock, .refl _⟩

theorem Reachable.operation {s : Session Machine} (reached : Reachable s) (o : Operation) :
    Reachable (s.apply o) := by
  obtain ⟨listing, memorySize, settings, clock, driven⟩ := reached
  exact ⟨listing, memorySize, settings, clock, driven.operation o⟩

/-- What holds at the beginning and is kept by every operation holds in every reachable session. -/
theorem Reachable.keeps {P : Session Machine → Prop}
    (create : ∀ listing memorySize settings clock,
      P (.create (Machine.create listing memorySize) settings clock))
    (operation : ∀ s o, P s → P (s.apply o)) {s : Session Machine} (reached : Reachable s) :
    P s := by
  obtain ⟨listing, memorySize, settings, clock, driven⟩ := reached
  exact driven.keeps operation (create listing memorySize settings clock)

end Session

end GuestDebugger
