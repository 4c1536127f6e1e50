import GuestDebugger.Proofs.Machine.Output
import GuestDebugger.Proofs.Session.Counting

/-! # The output of a session

Until it is taken, the output of a session grows by what the guest writes, whatever is done to the
session, and by nothing else. How a batch ends makes no difference: what was written before an
instruction that fails is there. -/

namespace GuestDebugger

namespace Session

/-- A session with a watched machine whose output since `base` is what the log tells. -/
def Told (base : String) (listing : Listing) (w : Session Watched) : Prop :=
  w.engine.Told base listing w.host

namespace Told

variable {base : String} {listing : Listing} {w : Session Watched}

theorem removeBreakpoint (told : w.Told base listing) (a : Address) :
    (w.removeBreakpoint a).Told base listing := by
  simp only [Told, Session.removeBreakpoint, withBreakpoints, Breakpoints.remove]
  split
  · exact ⟨told.program, told.output⟩
  · exact told

theorem evaluateStop (told : w.Told base listing) : w.evaluateStop.2.Told base listing := by
  simp only [Session.evaluateStop]
  split
  · exact told
  · split
    · split
      · exact told
      · split
        · exact told.removeBreakpoint w.pc
        · exact told
    · exact told

theorem step (told : w.Told base listing) : w.step.2.Told base listing := by
  cases ended : w.exitCode with
  | some code =>
      rw [step_of_exited ended]
      exact told
  | none =>
      obtain ⟨state, entered, -⟩ := w.enterStep_eq
      have after := Watched.Told.step told
      rw [step_of_alive ended, entered]
      rcases Watched.logged_step w.engine w.host with ⟨e, outcome, -⟩ | ⟨outcome, -⟩
      · rw [outcome]
        exact after
      · rw [outcome]
        exact evaluateStop after

theorem runBatch (told : w.Told base listing) : w.runBatch.2.Told base listing := by
  have before : w.engine.Told base listing w.host.readClock.2 := told.of_output_eq rfl
  have after := before.stepMany w.batchSize
  simp only [Session.runBatch]
  generalize Engine.stepMany w.engine w.host.readClock.2 w.batchSize = ran at after ⊢
  obtain ⟨e, h, outcome⟩ := ran
  cases outcome with
  | error halt => cases halt <;> exact after
  | ok executed => exact evaluateStop (after.of_output_eq rfl)

theorem stepMany (told : w.Told base listing) : w.stepMany.2.Told base listing := by
  cases ended : w.exitCode with
  | some code =>
      rw [stepMany_of_exited ended]
      exact told
  | none =>
      cases active : w.breakpoints.isActive w.pc with
      | false =>
          rw [stepMany_of_inactive ended active]
          exact told.runBatch
      | true =>
          have after := Watched.Told.step told
          rw [stepMany_of_active ended active]
          rcases Watched.logged_step w.engine w.host with ⟨e, outcome, -⟩ | ⟨outcome, -⟩
          · rw [outcome]
            exact after
          · rw [outcome]
            simp only [runRest]
            split
            · exact evaluateStop after
            · exact runBatch after

/-- Whatever is done to a session, the log goes on to tell its output, unless that is taken. -/
theorem apply (told : w.Told base listing) {o : Operation} (kept : o ≠ .takeOutput) :
    (w.apply o).Told base listing := by
  cases o with
  | step => exact told.step
  | stepMany => exact told.stepMany
  | runStep =>
      have after := told.step
      simp only [Session.apply, runStep]
      generalize w.step = x at after ⊢
      obtain ⟨answer, t⟩ := x
      cases answer <;> exact after
  | runTurn =>
      have after := told.stepMany
      simp only [Session.apply, runTurn]
      split
      · generalize w.stepMany = x at after ⊢
        obtain ⟨answer, t⟩ := x
        cases answer with
        | error c => exact after
        | ok goesOn => cases goesOn <;> exact after
      · exact told
  | startRunning =>
      simp only [Session.apply, startRunning]
      split <;> exact told
  | stopRunning =>
      simp only [Session.apply, stopRunning]
      split <;> exact told
  | runTo a =>
      simp only [Session.apply, runTo]
      split
      · exact told
      · simp only [startRunning]
        split <;> exact ⟨told.program, told.output⟩
  | addBreakpoint a flags => exact ⟨told.program, told.output⟩
  | removeBreakpoint a => exact told.removeBreakpoint a
  | toggleBreakpoint a =>
      simp only [Session.apply, toggleBreakpoint, Breakpoints.toggle]
      cases w.breakpoints.get? a with
      | none => exact told
      | some b =>
          dsimp only [withBreakpoints]
          split <;> exact ⟨told.program, told.output⟩
  | takeOutput => exact absurd rfl kept
  | setLabels labels => exact told
  | passTime milliseconds => exact told.of_output_eq rfl

end Told

/-- What the guest writes in an operation. -/
def written (s : Session Machine) (o : Operation) : String :=
  s.engine.listing.written (s.attempts o)

/-- An operation adds to the output what the guest writes in it. -/
theorem output_apply (s : Session Machine) {o : Operation} (kept : o ≠ .takeOutput) :
    (s.apply o).host.output = s.host.output ++ s.written o := by
  have start : s.watched.Told s.host.output s.engine.listing :=
    ⟨rfl, by simp [Listing.written, watched, map, String.join]⟩
  have erased : (s.watched.apply o).map Watched.machine = s.apply o :=
    (map_apply Watched.hom_machine s.watched o).symm
  calc
    (s.apply o).host.output = (s.watched.apply o).host.output := by rw [← erased]; rfl
    _ = s.host.output ++ s.written o := (start.apply kept).output

theorem output_runTurn (s : Session Machine) :
    s.runTurn.2.host.output = s.host.output ++ s.written .runTurn :=
  s.output_apply (o := .runTurn) nofun

theorem output_runStep (s : Session Machine) :
    s.runStep.2.host.output = s.host.output ++ s.written .runStep :=
  s.output_apply (o := .runStep) nofun

end Session

end GuestDebugger
