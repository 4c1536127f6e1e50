import GuestDebugger.Proofs.Session.Operations

/-! # Invariants of instructions

What every instruction keeps, every batch keeps. If it does not depend on the break set, the clock
and the output that waits to be taken, everything that may be done to a session keeps it. -/

namespace GuestDebugger

namespace Machine

/-- What every instruction keeps, and nothing that a session does besides can change. -/
structure Invariant (P : Machine → Host → Prop) : Prop where
  step : ∀ {m h}, P m h → P (m.step h).engine (m.step h).host
  breaks : ∀ {m h} (breaks : AddressSet), P m h → P { m with breaks } h
  clock : ∀ {m h} (clock : Clock), P m h → P m { h with clock }
  output : ∀ {m h} (output : String), P m h → P m { h with output }

namespace Invariant

variable {P : Machine → Host → Prop} {m : Machine} {h : Host}

theorem readClock (invariant : Invariant P) (holds : P m h) : P m h.readClock.2 :=
  invariant.clock _ holds

/-- The induction is on the instructions of the batch. -/
theorem runBatch (invariant : Invariant P) (done : UInt32) (fuel : Nat) (holds : P m h) :
    P (runBatch done fuel m h).engine (runBatch done fuel m h).host := by
  induction fuel generalizing done m h with
  | zero => exact holds
  | succ fuel ih =>
      have stepped := invariant.step holds
      simp only [Machine.runBatch]
      split
      · exact holds
      · split
        · rename_i eq
          rw [eq] at stepped
          exact stepped
        · rename_i eq
          rw [eq] at stepped
          split
          · exact stepped
          · exact ih (done + 1) stepped

end Invariant

end Machine

namespace Session

/-- A session with a machine and a host of which something holds. -/
def Satisfies (P : Machine → Host → Prop) (s : Session Machine) : Prop := P s.engine s.host

namespace Satisfies

variable {P : Machine → Host → Prop} {s : Session Machine}

theorem removeBreakpoint (holds : s.Satisfies P) (invariant : Machine.Invariant P) (a : Address) :
    (s.removeBreakpoint a).Satisfies P := by
  simp only [Satisfies, Session.removeBreakpoint, withBreakpoints, Breakpoints.remove]
  split
  · exact invariant.breaks _ holds
  · exact holds

theorem evaluateStop (holds : s.Satisfies P) (invariant : Machine.Invariant P) :
    s.evaluateStop.2.Satisfies P := by
  have evaluated := evaluated_evaluateStop s
  generalize s.evaluateStop = x at evaluated ⊢
  cases evaluated with
  | exited | goesOn => exact holds
  | breakpoint =>
      dsimp only
      split
      · exact holds.removeBreakpoint invariant s.pc
      · exact holds

theorem halted {halt : Halt} (holds : s.Satisfies P) : (s.halted halt).2.Satisfies P := by
  cases halt <;> exact holds

theorem step (holds : s.Satisfies P) (invariant : Machine.Invariant P) :
    s.step.2.Satisfies P := by
  cases ended : s.exitCode with
  | some code =>
      rw [step_of_exited ended]
      exact holds
  | none =>
      have after : P (Engine.step s.engine s.host).engine (Engine.step s.engine s.host).host :=
        invariant.step holds
      obtain ⟨state, entered, -⟩ := s.enterStep_eq
      rw [step_of_alive ended, entered]
      split
      · exact halted after
      · exact evaluateStop after invariant

theorem runBatch (holds : s.Satisfies P) (invariant : Machine.Invariant P) :
    s.runBatch.2.Satisfies P := by
  have after := invariant.runBatch 0 s.batchSize.toNat (invariant.readClock holds)
  have same : Engine.stepMany s.engine s.host.readClock.2 s.batchSize =
    Machine.runBatch 0 s.batchSize.toNat s.engine s.host.readClock.2 := rfl
  simp only [Session.runBatch, same]
  split
  · exact halted after
  · exact evaluateStop (invariant.readClock after) invariant

theorem stepMany (holds : s.Satisfies P) (invariant : Machine.Invariant P) :
    s.stepMany.2.Satisfies P := by
  cases ended : s.exitCode with
  | some code =>
      rw [stepMany_of_exited ended]
      exact holds
  | none =>
      cases active : s.breakpoints.isActive s.pc with
      | false =>
          rw [stepMany_of_inactive ended active]
          exact holds.runBatch invariant
      | true =>
          have after : P (Engine.step s.engine s.host).engine (Engine.step s.engine s.host).host :=
            invariant.step holds
          rw [stepMany_of_active ended active]
          split
          · exact halted after
          · simp only [runRest]
            split
            · exact evaluateStop after invariant
            · exact runBatch after invariant

theorem startRunning (holds : s.Satisfies P) : s.startRunning.Satisfies P := by
  simp only [Session.startRunning]
  split <;> exact holds

/-- Whatever is done to a session keeps what its instructions keep. -/
theorem apply (holds : s.Satisfies P) (invariant : Machine.Invariant P) (o : Operation) :
    (s.apply o).Satisfies P := by
  cases o with
  | step => exact holds.step invariant
  | stepMany => exact holds.stepMany invariant
  | runStep =>
      obtain ⟨goesOn, answer, -⟩ := runStep_eq s
      have stepped := holds.step invariant
      rw [answer] at stepped
      exact stepped
  | runTurn =>
      rcases runTurn_snd s with same | batch
      · rw [Session.apply, same]
        exact holds
      · rw [Session.apply, batch]
        exact holds.stepMany invariant
  | startRunning => exact holds.startRunning
  | stopRunning =>
      simp only [Session.apply, Session.stopRunning]
      split <;> exact holds
  | runTo a =>
      simp only [Session.apply, Session.runTo]
      split
      · exact holds
      · exact startRunning (invariant.breaks _ holds)
  | addBreakpoint a flags => exact invariant.breaks _ holds
  | removeBreakpoint a => exact holds.removeBreakpoint invariant a
  | toggleBreakpoint a =>
      simp only [Session.apply, Session.toggleBreakpoint, Breakpoints.toggle]
      cases s.breakpoints.get? a with
      | none => exact holds
      | some b =>
          dsimp only [withBreakpoints]
          split <;> exact invariant.breaks _ holds
  | takeOutput => exact invariant.output _ holds
  | setLabels => exact holds
  | passTime => exact invariant.clock _ holds

end Satisfies

/-- What holds before the first instruction holds in every reachable session. -/
theorem Reachable.satisfies {P : Machine → Host → Prop} {s : Session Machine}
    (reached : s.Reachable) (invariant : Machine.Invariant P)
    (start : ∀ listing memorySize clock,
      P (.create listing memorySize) (.create guestBytesPerPixel clock)) : s.Satisfies P :=
  reached.keeps (fun listing memorySize _ clock => start listing memorySize clock)
    fun _ o holds => holds.apply invariant o

end Session

end GuestDebugger
