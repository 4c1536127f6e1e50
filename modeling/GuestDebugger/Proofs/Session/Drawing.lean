import GuestDebugger.Proofs.Machine.Drawing
import GuestDebugger.Proofs.Session.Invariants

/-! # Drawing in a session

Before every instruction of every session, in the middle of a batch too, the machine remembers the
latest window and surface of its display as they are. -/

namespace GuestDebugger

namespace Machine

/-- A machine and a host as an instruction may find them: those of a session, or what executing
leaves of them, whatever the time. -/
inductive Arises : Machine → Host → Prop
  | session {s : Session Machine} (reached : s.Reachable) : Arises s.engine s.host
  | clock {m : Machine} {h : Host} (arises : Arises m h) (clock : Clock) :
      Arises m { h with clock }
  | step {m : Machine} {h : Host} (arises : Arises m h) :
      Arises (m.step h).engine (m.step h).host

theorem invariant_linked : Invariant fun m h => m.Linked h.display where
  step linked := linked.step
  breaks _ linked := linked.of_same rfl rfl
  clock _ linked := linked
  output _ linked := linked

theorem Arises.linked {m : Machine} {h : Host} (arises : Arises m h) : m.Linked h.display := by
  induction arises with
  | session reached =>
      exact reached.satisfies invariant_linked fun listing memorySize _ =>
        .create listing memorySize
  | clock _ _ ih => exact ih
  | step _ ih => exact ih.step

/-- Whatever was executed, the window and the surface that a machine remembers are the latest ones
of its display, with the size that the surface has. Hence filling fails exactly if no surface was
created, and paints the buffer of the latest one that is drawn to; presenting fails exactly if there
is no latest surface that is primary; and a surface is refused exactly if it is too large, or to be
shown where one is already. -/
theorem draws_on_latest {m : Machine} {h : Host} (arises : Arises m h)
    (fewWindows : h.display.windows.size < UInt32.size - 1)
    (fewSurfaces : h.display.surfaces.size < UInt32.size - 1) : m.Draws h :=
  arises.linked.draws fewWindows fewSurfaces

/-- A surface that a window shows, and a second one for the same window. -/
theorem draws_on_latest_in_window :
    let listing := Listing.ofOps
      [(0x10, .window "w" 4 4), (0x11, .surface 2 1 true), (0x12, .surface 2 1 true)]
    let s := ((Session.create (.create listing 16) {} {}).apply .step).apply .step
    let m := s.engine
    let h := s.host
    (Arises m h ∧ h.display.windows.size < UInt32.size - 1 ∧
        h.display.surfaces.size < UInt32.size - 1) ∧
      m.Draws h ∧ m.lastSurface = some ⟨⟨0, false⟩, 2, 1⟩ ∧
      ¬ Fails (m.execute h (.fill 7)) ∧ ¬ Fails (m.execute h .flip) ∧
      Fails (m.execute h (.surface 2 1 true)) ∧ ¬ Fails (m.execute h (.surface 2 1 false)) := by
  intro listing s m h
  have reached : s.Reachable := ((Session.reachable_create _ _ _ _).operation _).operation _
  have arises : Arises m h := .session reached
  have fewWindows : h.display.windows.size < UInt32.size - 1 := by decide
  have fewSurfaces : h.display.surfaces.size < UInt32.size - 1 := by decide
  have last : m.lastSurface = some ⟨⟨0, false⟩, 2, 1⟩ := by decide
  have primary : h.display.surfaces.back?.any (·.isPrimary) = true := by decide
  have shown : h.display.windows.back?.any (·.surface.isSome) = true := by decide
  obtain ⟨surface, back, primary⟩ := (Option.any_eq_true _ _).1 primary
  have draws := draws_on_latest arises fewWindows fewSurfaces
  refine ⟨⟨arises, fewWindows, fewSurfaces⟩, draws, last, ?_, ?_, ?_, ?_⟩
  · rw [draws.fill_fails, ← draws.remembers, last]
    exact Option.some_ne_none _
  · rw [draws.flip_fails]
    intro secondary
    cases primary.symm.trans (secondary surface back)
  · exact (draws.surface_fails 2 1 true).2 (.inr ⟨rfl, (Option.any_eq_true _ _).1 shown⟩)
  · rw [draws.surface_fails]
    rintro (large | ⟨isPrimary, -⟩)
    · exact absurd large (by decide)
    · cases isPrimary

end Machine

end GuestDebugger
