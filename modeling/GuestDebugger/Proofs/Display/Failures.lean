import GuestDebugger.Host
import GuestDebugger.Proofs.Display.Handles

/-! # Failed calls leave no trace

A display call looks at everything it needs before it changes anything. Creating a surface for a
window is the one call of the host that changes the display twice: it allocates, and then binds. The
window was looked at before, so the second change cannot fail after the first. -/

namespace GuestDebugger

/-- The outcome of a call without the value that it gives. -/
def withoutValue {ε α σ : Type} (r : Except ε α × σ) : Except ε Unit × σ :=
  (r.1.map fun _ => (), r.2)

theorem error_of_withoutValue {ε α σ : Type} {r : Except ε α × σ} {e : ε}
    (failed : (withoutValue r).1 = .error e) : r.1 = .error e := by
  obtain ⟨outcome, s⟩ := r
  cases outcome with
  | error e' =>
      cases failed
      rfl
  | ok => cases failed

namespace Display

/-- A call of a display that may fail. -/
inductive Call where
  | createSurface (width height : UInt32) (primary : Bool)
  | bindSurface (window : WindowHandle) (surface : SurfaceHandle)
  | writePixels (handle : SurfaceHandle) (pixels : ByteArray)
  | attached (handle : SurfaceHandle)
  | flip (handle : SurfaceHandle)
  | copyRect (transfer : Transfer)

/-- What a call comes to. -/
def call (d : Display) : Call → Result Unit
  | .createSurface width height primary => withoutValue (d.createSurface width height primary)
  | .bindSurface window surface => d.bindSurface window surface
  | .writePixels handle pixels => d.writePixels handle pixels
  | .attached handle => withoutValue (d.attached handle, d)
  | .flip handle => d.flip handle
  | .copyRect transfer => d.copyRect transfer

variable {d : Display} {e : DisplayError}

theorem createSurface_of_error {width height : UInt32} {primary : Bool}
    (failed : (d.createSurface width height primary).1 = .error e) :
    (d.createSurface width height primary).2 = d := by
  simp only [createSurface] at failed ⊢
  split at failed
  · rfl
  · cases failed

theorem bindSurface_of_error {window : WindowHandle} {surface : SurfaceHandle}
    (failed : (d.bindSurface window surface).1 = .error e) :
    (d.bindSurface window surface).2 = d := by
  simp only [bindSurface] at failed ⊢
  split at failed
  · rfl
  · rfl
  · split at failed
    · rename_i bound
      rw [if_pos bound]
    · cases failed

theorem writePixels_of_error {handle : SurfaceHandle} {pixels : ByteArray}
    (failed : (d.writePixels handle pixels).1 = .error e) :
    (d.writePixels handle pixels).2 = d := by
  simp only [writePixels] at failed ⊢
  split at failed
  · rfl
  · cases failed

theorem flip_of_error {handle : SurfaceHandle} (failed : (d.flip handle).1 = .error e) :
    (d.flip handle).2 = d := by
  simp only [flip] at failed ⊢
  split
  · rfl
  · rename_i own
    rw [if_neg own] at failed
    split at failed
    · rfl
    · cases failed

theorem copyRect_of_error {t : Transfer} (failed : (d.copyRect t).1 = .error e) :
    (d.copyRect t).2 = d := by
  simp only [copyRect] at failed ⊢
  split at failed
  · rfl
  · rfl
  · cases failed

theorem call_of_error {c : Call} (failed : (d.call c).1 = .error e) : (d.call c).2 = d := by
  cases c with
  | createSurface width height primary =>
      exact createSurface_of_error (error_of_withoutValue failed)
  | bindSurface window surface => exact bindSurface_of_error failed
  | writePixels handle pixels => exact writePixels_of_error failed
  | attached handle => rfl
  | flip handle => exact flip_of_error failed
  | copyRect transfer => exact copyRect_of_error failed

/-! ### Binding what was created -/

variable {e : Display} {surface : SurfaceHandle}

/-- A created surface can be drawn to, however many there are, and no window shows it yet. -/
theorem buffer_of_created {width height : UInt32} {primary : Bool}
    (created : d.createSurface width height primary = (.ok surface, e)) :
    e.windows = d.windows ∧ ∃ b, e.buffer surface = .ok b := by
  simp only [createSurface] at created
  split at created
  · cases created
  · rename_i s _
    cases created
    have inside : d.surfaces.size % 2 ^ 32 < (d.surfaces.push s).size := by
      rw [Array.size_push]
      exact Nat.lt_succ_of_le (Nat.mod_le _ _)
    have found : (d.surfaces.push s)[(UInt32.ofNat d.surfaces.size).toNat]? =
        some (d.surfaces.push s)[d.surfaces.size % 2 ^ 32] := by
      rw [UInt32.toNat_ofNat']
      exact Array.getElem?_eq_getElem inside
    exact ⟨rfl, _, buffer_eq_ok_iff.2 ⟨_, found, rfl⟩⟩

/-- A window that shows nothing is bound to any surface there is. -/
theorem bindSurface_of_free {window : WindowHandle} {w : Window} {b : PixelBuffer}
    (there : d.buffer surface = .ok b) (opened : d.window window = .ok w)
    (free : w.surface = none) :
    (d.bindSurface window surface).1 = .ok () ∧
      (d.bindSurface window surface).2.window window =
        .ok { w with surface := some surface } := by
  obtain ⟨nonzero, found⟩ := window_eq_ok_iff.1 opened
  have bound : d.bindSurface window surface = (.ok (), { d with
      windows := d.windows.modify (window.id.toNat - 1)
        ({ · with surface := some surface }) }) := by
    simp only [bindSurface, there, opened, free]
    rfl
  rw [bound]
  refine ⟨rfl, window_eq_ok_iff.2 ⟨nonzero, ?_⟩⟩
  rw [Array.getElem?_modify, if_pos rfl, found]
  rfl

end Display

namespace Host

/-- A display call of a host that may fail. -/
inductive Call where
  | createSurface (options : SurfaceOptions)
  | writePixels (handle : SurfaceHandle) (pixels : ByteArray)
  | attached (handle : SurfaceHandle)
  | flip (handle : SurfaceHandle)
  | copyRect (transfer : Display.Transfer)

/-- What a call comes to. -/
def call (h : Host) : Call → Result Unit
  | .createSurface options => withoutValue (h.createSurface options)
  | .writePixels handle pixels => h.writePixels handle pixels
  | .attached handle => withoutValue (h.attached handle, h)
  | .flip handle => h.flip handle
  | .copyRect transfer => h.copyRect transfer

variable {h : Host} {e : DisplayError}

/-- A display call that leaves the display as it is leaves the host as it is. -/
theorem withDisplay_of_same {α : Type} {r : Display.Result α} (same : r.2 = h.display) :
    (h.withDisplay r).2 = h := by
  rw [withDisplay, same]

theorem writePixels_of_error {handle : SurfaceHandle} {pixels : ByteArray}
    (failed : (h.writePixels handle pixels).1 = .error e) : (h.writePixels handle pixels).2 = h :=
  withDisplay_of_same (Display.writePixels_of_error failed)

theorem flip_of_error {handle : SurfaceHandle} (failed : (h.flip handle).1 = .error e) :
    (h.flip handle).2 = h := withDisplay_of_same (Display.flip_of_error failed)

theorem copyRect_of_error {t : Display.Transfer} (failed : (h.copyRect t).1 = .error e) :
    (h.copyRect t).2 = h := withDisplay_of_same (Display.copyRect_of_error failed)

/-- The window that a primary surface is created for is there and shows nothing. -/
theorem free_of_checkWindow {options : SurfaceOptions} {window : WindowHandle}
    (passed : h.checkWindow options = .ok ()) (primary : options.primary = true)
    (named : options.window = some window) :
    ∃ w, h.display.window window = .ok w ∧ w.surface = none := by
  simp only [checkWindow, named, primary, Bool.true_and] at passed
  cases opened : h.display.window window with
  | error e =>
      rw [opened] at passed
      cases passed
  | ok w =>
      refine ⟨w, rfl, ?_⟩
      cases shown : w.surface with
      | none => rfl
      | some surface =>
          simp [opened, shown, bind, Except.bind, throw, throwThe, MonadExceptOf.throw] at passed

/-- How creating a surface ends. It is refused, it is too large, or it is created and, if it is to
be shown in a window, shown there. -/
inductive Created (h : Host) (options : SurfaceOptions) : Result SurfaceHandle → Prop
  | refused {e : DisplayError} (check : h.checkWindow options = .error e) :
      Created h options (.error e, h)
  | tooLarge {e : DisplayError} (passed : h.checkWindow options = .ok ())
      (failed : (h.display.createSurface options.width options.height options.primary).1 =
        .error e) : Created h options (.error e, h)
  | created {surface : SurfaceHandle} {d d' : Display} (passed : h.checkWindow options = .ok ())
      (made : h.display.createSurface options.width options.height options.primary =
        (.ok surface, d))
      (shown : ∀ window, options.primary = true → options.window = some window →
        ∃ w, d'.window window = .ok w ∧ w.surface = some surface) :
      Created h options (.ok surface, { h with display := d' })

theorem created_createSurface (h : Host) (options : SurfaceOptions) :
    Created h options (h.createSurface options) := by
  simp only [createSurface]
  cases passed : h.checkWindow options with
  | error e => exact .refused passed
  | ok =>
      cases made : h.display.createSurface options.width options.height options.primary with
      | mk outcome d =>
          cases outcome with
          | error e =>
              have failed := congrArg Prod.fst made
              have same := Display.createSurface_of_error failed
              rw [made] at same
              obtain rfl : d = h.display := same
              exact .tooLarge passed failed
          | ok surface =>
              obtain ⟨windows, b, there⟩ := Display.buffer_of_created made
              dsimp only [withDisplay]
              split
              · -- What is left to do is to bind the window that was checked before.
                rename_i window primary named
                obtain ⟨w, opened, free⟩ := free_of_checkWindow passed primary named
                have still : d.window window = .ok w := by
                  simp only [Display.window, windows] at opened ⊢
                  exact opened
                obtain ⟨bound, shown⟩ := Display.bindSurface_of_free there still free
                rw [bound]
                refine .created passed made fun other _ named' => ?_
                rw [named] at named'
                cases named'
                exact ⟨_, shown, rfl⟩
              · rename_i notBoth
                exact .created passed made fun window primary named =>
                  absurd named (notBoth window primary)

theorem createSurface_of_error {options : SurfaceOptions}
    (failed : (h.createSurface options).1 = .error e) : (h.createSurface options).2 = h := by
  have created := h.created_createSurface options
  generalize h.createSurface options = r at created failed ⊢
  cases created with
  | refused => rfl
  | tooLarge => rfl
  | created => cases failed

theorem call_of_error {c : Call} (failed : (h.call c).1 = .error e) : (h.call c).2 = h := by
  cases c with
  | createSurface options => exact createSurface_of_error (error_of_withoutValue failed)
  | writePixels handle pixels => exact writePixels_of_error failed
  | attached handle => rfl
  | flip handle => exact flip_of_error failed
  | copyRect transfer => exact copyRect_of_error failed

/-- Every display call that fails, of a display or of the host, leaves everything as it was. Once
the window that is named was found fit and the surface could be allocated, creating a surface
succeeds and the window shows it. -/
theorem failed_calls_change_nothing :
    (∀ (d : Display) (c : Display.Call) (e : DisplayError),
        (d.call c).1 = .error e → (d.call c).2 = d) ∧
      (∀ (h : Host) (c : Call) (e : DisplayError), (h.call c).1 = .error e → (h.call c).2 = h) ∧
      ∀ (h : Host) (options : SurfaceOptions) (surface : SurfaceHandle) (d : Display),
        h.checkWindow options = .ok () →
          h.display.createSurface options.width options.height options.primary =
            (.ok surface, d) →
          (h.createSurface options).1 = .ok surface ∧
            ∀ window, options.primary = true → options.window = some window →
              ∃ w, (h.createSurface options).2.display.window window = .ok w ∧
                w.surface = some surface := by
  refine ⟨fun _ _ _ => Display.call_of_error, fun _ _ _ => call_of_error, ?_⟩
  intro h options surface d passed made
  have created := h.created_createSurface options
  generalize h.createSurface options = r at created ⊢
  cases created with
  | refused check =>
      rw [passed] at check
      cases check
  | tooLarge _ failed =>
      rw [made] at failed
      cases failed
  | created _ made' shown =>
      rw [made] at made'
      cases made'
      exact ⟨rfl, shown⟩

/-- Two primary surfaces for one window: the first is bound, the second is refused before it is
allocated. -/
theorem failed_calls_change_nothing_of_bound :
    let start := (Host.create 4 {}).createWindow ⟨"w", 2, 1⟩
    let options : SurfaceOptions := ⟨2, 1, true, some start.1⟩
    let first := start.2.createSurface options
    let second := first.2.call (.createSurface options)
    (first.1 = .ok ⟨0, false⟩ ∧ ∃ w, first.2.display.window start.1 = .ok w ∧
        w.surface = some ⟨0, false⟩) ∧
      second.1 = .error (.alreadyBound start.1) ∧ second.2 = first.2 := by
  intro start options first second
  have passed : start.2.checkWindow options = .ok () := rfl
  have made : start.2.display.createSurface 2 1 true =
      (.ok ⟨0, false⟩, (start.2.display.createSurface 2 1 true).2) := rfl
  have refused : second.1 = .error (.alreadyBound start.1) := rfl
  obtain ⟨done, shown⟩ := failed_calls_change_nothing.2.2 _ options _ _ passed made
  exact ⟨⟨done, shown start.1 rfl rfl⟩, refused,
    failed_calls_change_nothing.2.1 first.2 (.createSurface options) _ refused⟩

end Host

end GuestDebugger
