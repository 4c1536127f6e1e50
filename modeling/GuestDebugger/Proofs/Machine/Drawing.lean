import GuestDebugger.Proofs.Display.Filling
import GuestDebugger.Proofs.Machine.Independence

/-! # The machine and the display

A machine remembers the window and the surface that it created last, with the size of the surface.
The display keeps them for good, so what the machine remembers is there and is what it was. How the
instructions that draw come out is then told by the display alone. -/

namespace GuestDebugger

namespace Display

/-- The surface that was created last, as a machine remembers it. -/
def latestSurface? (d : Display) : Option CreatedSurface :=
  d.surfaces.back?.map fun s =>
    { handle := { index := UInt32.ofNat (d.surfaces.size - 1) }
      width := s.front.width, height := s.front.height }

variable {d e : Display}

/-- What is read off the last element is the same if there are as many, each of which is kept. -/
theorem map_back?_eq {α β : Type} {xs ys : Array α} (read : α → β) (same : ys.size = xs.size)
    (kept : ∀ (i : Nat) x, xs[i]? = some x → ∃ y, ys[i]? = some y ∧ read y = read x) :
    ys.back?.map read = xs.back?.map read := by
  rw [Array.back?_eq_getElem?, Array.back?_eq_getElem?, same]
  cases found : xs[xs.size - 1]? with
  | none =>
      have outside := Array.getElem?_eq_none_iff.1 found
      rw [← same] at outside ⊢
      rw [Array.getElem?_eq_none_iff.2 outside]
  | some x =>
      obtain ⟨y, after, kept⟩ := kept _ x found
      rw [after]
      exact congrArg some kept

/-- The latest window stays the latest one if none is opened. -/
theorem Kept.latestWindow? (kept : d.Kept e) (same : e.windows.size = d.windows.size) :
    e.latestWindow? = d.latestWindow? := by
  refine map_back?_eq _ same fun i w found => ?_
  obtain ⟨v, after, kept⟩ := kept.windows i w found
  exact ⟨v, after, kept.handle⟩

/-- The latest surface stays the latest one if none is created. -/
theorem Kept.latestSurface? (kept : d.Kept e) (same : e.surfaces.size = d.surfaces.size) :
    e.latestSurface? = d.latestSurface? := by
  rw [Display.latestSurface?, Display.latestSurface?, same]
  refine map_back?_eq _ same fun i s found => ?_
  obtain ⟨t, after, kept⟩ := kept.surfaces i s found
  exact ⟨t, after, by rw [kept.front.width, kept.front.height]⟩

theorem Changed.bytesPerPixel (changed : Changed d e) : e.bytesPerPixel = d.bytesPerPixel := by
  cases changed <;> rfl

theorem latestWindow?_createWindow (d : Display) (options : WindowOptions) :
    (d.createWindow options).2.latestWindow? = some (d.createWindow options).1 := by
  simp [latestWindow?, createWindow]

theorem latestSurface?_createSurface {width height : UInt32} {primary : Bool}
    {surface : SurfaceHandle}
    (created : d.createSurface width height primary = (.ok surface, e)) :
    e.latestSurface? = some ⟨surface, width, height⟩ ∧ e.windows = d.windows := by
  simp only [createSurface] at created
  split at created
  · cases created
  · rename_i s made
    obtain ⟨rfl, rfl⟩ := Surface.size_of_create made
    cases created
    simp [latestSurface?]

end Display

namespace Host

/-- The display on which a surface was created: it was only added, or shown in a window too. -/
theorem display_of_createSurface {h h' : Host} {options : SurfaceOptions} {surface : SurfaceHandle}
    (created : h.createSurface options = (.ok surface, h')) :
    ∃ d, h.display.createSurface options.width options.height options.primary =
        (.ok surface, d) ∧
      (h'.display = d ∨ ∃ window, h'.display = d.apply (.bindSurface window surface)) := by
  simp only [createSurface] at created
  split at created
  · cases created
  · cases made : h.display.createSurface options.width options.height options.primary with
    | mk outcome d =>
        rw [made] at created
        cases outcome with
        | error e => cases created
        | ok surface' =>
            dsimp only [withDisplay] at created
            split at created
            · rename_i window _ _
              refine ⟨d, ?_⟩
              cases bound : d.bindSurface window surface' with
              | mk outcome e =>
                  rw [bound] at created
                  cases outcome with
                  | error => cases created
                  | ok =>
                      cases created
                      exact ⟨rfl, .inr ⟨window, by rw [Display.apply, bound]⟩⟩
            · cases created
              exact ⟨d, rfl, .inl rfl⟩

/-- A surface is created unless the window is refused or there is no room for it. -/
theorem createSurface_fails_iff (h : Host) (options : SurfaceOptions) :
    (∃ e, (h.createSurface options).1 = .error e) ↔
      (∃ e, h.checkWindow options = .error e) ∨
        ∃ e, (h.display.createSurface options.width options.height options.primary).1 =
          .error e := by
  have created := h.created_createSurface options
  generalize h.createSurface options = r at created ⊢
  cases created with
  | refused check => exact ⟨fun _ => .inl ⟨_, check⟩, fun _ => ⟨_, rfl⟩⟩
  | tooLarge _ failed => exact ⟨fun _ => .inr ⟨_, failed⟩, fun _ => ⟨_, rfl⟩⟩
  | created passed made =>
      constructor
      · rintro ⟨e, failed⟩
        cases failed
      · rintro (⟨e, refused⟩ | ⟨e, failed⟩)
        · cases passed.symm.trans refused
        · rw [made] at failed
          cases failed

end Host

namespace Machine

/-- A machine that remembers the latest window and surface of a display. -/
structure Linked (m : Machine) (d : Display) : Prop where
  /-- The display comes from operations on displays. -/
  reached : d.Reachable
  /-- Its pixels have the size that guests are offered. -/
  bytes : d.bytesPerPixel = guestBytesPerPixel
  window : m.lastWindow = d.latestWindow?
  surface : m.lastSurface = d.latestSurface?

namespace Linked

variable {m m' : Machine} {h : Host} {d : Display}

theorem create (listing : Listing) (memorySize : Nat) :
    Linked (.create listing memorySize) (.create guestBytesPerPixel) :=
  ⟨.create _, rfl, rfl, rfl⟩

/-- Nothing else of the machine matters. -/
theorem of_same (linked : m.Linked d) (window : m'.lastWindow = m.lastWindow)
    (surface : m'.lastSurface = m.lastSurface) : m'.Linked d :=
  ⟨linked.reached, linked.bytes, window.trans linked.window, surface.trans linked.surface⟩

/-- What creates nothing changes nothing that the machine remembers. -/
theorem draw (linked : m.Linked d) (o : Display.Operation)
    (same : (d.apply o).windows.size = d.windows.size ∧
      (d.apply o).surfaces.size = d.surfaces.size) : m.Linked (d.apply o) where
  reached := linked.reached.operation o
  bytes := (Display.changed_apply d o).bytesPerPixel.trans linked.bytes
  window := linked.window.trans ((Display.changed_apply d o).kept.latestWindow? same.1).symm
  surface := linked.surface.trans ((Display.changed_apply d o).kept.latestSurface? same.2).symm

theorem bindSurface (linked : m.Linked d) (window : WindowHandle) (surface : SurfaceHandle) :
    m.Linked (d.apply (.bindSurface window surface)) := by
  refine linked.draw _ ?_
  simp only [Display.apply, Display.bindSurface]
  split
  · exact ⟨rfl, rfl⟩
  · exact ⟨rfl, rfl⟩
  · split
    · exact ⟨rfl, rfl⟩
    · exact ⟨Array.size_modify, rfl⟩

theorem writePixels (linked : m.Linked d) (handle : SurfaceHandle) (pixels : ByteArray) :
    m.Linked (d.writePixels handle pixels).2 := by
  refine linked.draw (.writePixels handle pixels) ?_
  simp only [Display.apply, Display.writePixels]
  split
  · exact ⟨rfl, rfl⟩
  · exact ⟨rfl, Array.size_modify⟩

theorem flip (linked : m.Linked d) (handle : SurfaceHandle) : m.Linked (d.flip handle).2 := by
  refine linked.draw (.flip handle) ?_
  simp only [Display.apply, Display.flip]
  split
  · exact ⟨rfl, rfl⟩
  · split
    · exact ⟨rfl, rfl⟩
    · exact ⟨rfl, Array.size_modify⟩

/-- A window that was opened is remembered as the latest one. -/
theorem createWindow (linked : m.Linked d) (options : WindowOptions)
    (window : m'.lastWindow = some (d.createWindow options).1)
    (surface : m'.lastSurface = m.lastSurface) : m'.Linked (d.createWindow options).2 where
  reached := linked.reached.operation (.createWindow options)
  bytes := linked.bytes
  window := window.trans (d.latestWindow?_createWindow options).symm
  surface := surface.trans linked.surface

/-- A surface that was created is remembered with its size, be it shown in a window or not. -/
theorem createSurface (linked : m.Linked h.display) {h' : Host} {options : SurfaceOptions}
    {surface : SurfaceHandle} (created : h.createSurface options = (.ok surface, h'))
    (window : m'.lastWindow = m.lastWindow)
    (remembered : m'.lastSurface = some ⟨surface, options.width, options.height⟩) :
    m'.Linked h'.display := by
  obtain ⟨d, made, shown⟩ := Host.display_of_createSurface created
  obtain ⟨latest, windows⟩ := Display.latestSurface?_createSurface made
  have applied : h.display.apply (.createSurface options.width options.height options.primary) =
    d := congrArg Prod.snd made
  have linked' : m'.Linked d :=
    { reached := applied ▸ linked.reached.operation _
      bytes := by
        rw [← applied, (Display.changed_apply _ _).bytesPerPixel]
        exact linked.bytes
      window := by
        rw [window, linked.window, Display.latestWindow?, Display.latestWindow?, windows]
      surface := remembered.trans latest.symm }
  rcases shown with same | ⟨window, bound⟩
  · rw [same]
    exact linked'
  · rw [bound]
    exact linked'.bindSurface window surface

theorem paint (linked : m.Linked h.display) (surface : CreatedSurface) (byte : UInt8) :
    m.Linked (Machine.paint h surface byte).2.display := by
  simp only [Machine.paint]
  split
  · exact linked
  · exact linked
  · exact linked.writePixels _ _

/-- Every instruction keeps what the machine remembers right. -/
theorem execute (linked : m.Linked h.display) (op : Op) :
    (m.execute h op).engine.Linked (m.execute h op).host.display := by
  cases op with
  | nop | jump | loop | time | write | writeLine | fault => exact linked.of_same rfl rfl
  | exit code =>
      have same : (h.exit code).display = h.display := by
        simp only [Host.exit]
        split <;> rfl
      simp only [Machine.execute, Machine.proceed, same]
      exact linked.of_same rfl rfl
  | move | poke =>
      simp only [Machine.execute]
      split <;> exact linked.of_same rfl rfl
  | window title width height => exact linked.createWindow _ rfl rfl
  | surface width height primary =>
      simp only [Machine.execute]
      split <;> rename_i created
      · have same := Host.createSurface_of_error (congrArg Prod.fst created)
        rw [created] at same
        obtain rfl : _ = h := same
        exact linked
      · exact linked.createSurface created rfl rfl
  | fill byte =>
      simp only [Machine.execute]
      split
      · exact linked
      · rename_i surface _
        have painted := linked.paint surface byte
        split <;> rename_i eq <;> rw [eq] at painted
        · exact painted
        · exact painted.of_same rfl rfl
  | flip =>
      simp only [Machine.execute]
      split
      · exact linked
      · rename_i surface _
        have flipped : m.Linked (h.flip surface.handle).2.display := linked.flip surface.handle
        split <;> rename_i eq <;> rw [eq] at flipped
        · exact flipped
        · exact flipped.of_same rfl rfl

theorem step (linked : m.Linked h.display) :
    (m.step h).engine.Linked (m.step h).host.display := by
  simp only [Machine.step]
  split
  · exact linked.execute _
  · exact linked

/-! ### What is remembered is there -/

theorem exists_window (linked : m.Linked d) (fewWindows : d.windows.size < UInt32.size - 1)
    (fewSurfaces : d.surfaces.size < UInt32.size - 1) {w : WindowHandle}
    (last : m.lastWindow = some w) : ∃ v, d.windows.back? = some v ∧ d.window w = .ok v := by
  rw [linked.window] at last
  obtain ⟨v, back, rfl⟩ := Option.map_eq_some_iff.1 last
  refine ⟨v, back, ?_⟩
  rw [Array.back?_eq_getElem?] at back
  exact ((linked.reached.regular fewWindows fewSurfaces).window_id _ v back).2

theorem exists_surface (linked : m.Linked d) (fewSurfaces : d.surfaces.size < UInt32.size - 1)
    {c : CreatedSurface} (last : m.lastSurface = some c) :
    ∃ s, d.surfaces.back? = some s ∧ d.owner c.handle = .ok s ∧ c.handle.attached = false ∧
      c.width = s.front.width ∧ c.height = s.front.height := by
  rw [linked.surface] at last
  obtain ⟨s, back, rfl⟩ := Option.map_eq_some_iff.1 last
  refine ⟨s, back, ?_, rfl, rfl, rfl⟩
  rw [Array.back?_eq_getElem?] at back
  have index : (UInt32.ofNat (d.surfaces.size - 1)).toNat = d.surfaces.size - 1 :=
    UInt32.toNat_ofNat_of_lt' (by omega)
  rw [Display.owner_eq_ok_iff, index, back]

theorem lastSurface_eq_none_iff (linked : m.Linked d) :
    m.lastSurface = none ↔ d.surfaces = #[] := by
  rw [linked.surface, Display.latestSurface?, Option.map_eq_none_iff, Array.back?_eq_none_iff]

/-! ### How drawing comes out -/

section Outcomes

variable {s : Surface} {c : CreatedSurface}

theorem paintTarget_of_owner (own : c.handle.attached = false)
    (found : h.display.owner c.handle = .ok s) :
    paintTarget h c.handle = .ok (Display.drawn c.handle s) := by
  simp only [paintTarget, Host.attached, Display.attached, own, found, Display.drawn]
  cases primary : s.isPrimary <;>
    simp [bind, Except.bind, pure, Except.pure, throw, throwThe, MonadExceptOf.throw, primary]

/-- The size that the machine remembers is that of the buffer that it paints. -/
theorem exists_paint (linked : m.Linked h.display) (own : c.handle.attached = false)
    (found : h.display.owner c.handle = .ok s) (width : c.width = s.front.width)
    (height : c.height = s.front.height) (byte : UInt8) :
    ∃ after, Machine.paint h c byte = (.ok (), { h with display := after }) ∧
      h.display.Filled (Display.drawn c.handle s) byte after := by
  obtain ⟨b, there, whole, shape⟩ := linked.reached.sound.exists_drawn own found
  obtain ⟨-, bytes⟩ := linked.reached.sound.buffer there
  have length : PixelBuffer.byteLength c.width c.height guestBytesPerPixel =
      .ok b.pixels.size := by
    rw [width, height, ← linked.bytes, ← bytes, ← shape.width, ← shape.height]
    exact whole.byteLength_eq
  obtain ⟨after, written, filled⟩ := Display.filled_writePixels there byte
  refine ⟨after, ?_, filled⟩
  simp only [Machine.paint, paintTarget_of_owner own found, length, Host.writePixels, written]
  rfl

/-- The window for a surface is refused only if it is to show a second one. -/
theorem checkWindow_fails_iff (linked : m.Linked h.display)
    (fewWindows : h.display.windows.size < UInt32.size - 1)
    (fewSurfaces : h.display.surfaces.size < UInt32.size - 1) (width height : UInt32)
    (primary : Bool) :
    (∃ e, h.checkWindow
        ⟨width, height, primary, if primary then m.lastWindow else none⟩ = .error e) ↔
      primary = true ∧ ∃ w, h.display.windows.back? = some w ∧ w.surface.isSome = true := by
  cases primary with
  | false =>
      constructor
      · rintro ⟨e, refused⟩
        cases refused
      · rintro ⟨primary, -⟩
        cases primary
  | true =>
      simp only [if_true, true_and]
      cases last : m.lastWindow with
      | none =>
          have noWindow : h.display.windows.back? = none := by
            rw [linked.window] at last
            exact Option.map_eq_none_iff.1 last
          constructor
          · rintro ⟨e, refused⟩
            cases refused
          · rintro ⟨w, back, -⟩
            cases noWindow.symm.trans back
      | some window =>
          obtain ⟨w, back, found⟩ := linked.exists_window fewWindows fewSurfaces last
          have check : h.checkWindow ⟨width, height, true, some window⟩ =
              if w.surface.isSome then .error (.alreadyBound window) else .ok () := by
            simp only [Host.checkWindow, found]
            rfl
          rw [check, back]
          cases shown : w.surface.isSome with
          | true => exact ⟨fun _ => ⟨w, rfl, shown⟩, fun _ => ⟨_, rfl⟩⟩
          | false =>
              constructor
              · rintro ⟨e, refused⟩
                cases refused
              · rintro ⟨_, ⟨⟩, shows⟩
                cases shown.symm.trans shows

end Outcomes

end Linked

/-- An instruction that is not done. -/
def Fails {α : Type} (ran : Ran Machine α) : Prop := ∃ halt, ran.outcome = .error halt

/-- An instruction that is done exactly if a call of the display is fails exactly if that fails. -/
theorem fails_iff_of_result {α : Type} {r : Host.Result α} {ran : Ran Machine Unit}
    (failed : ∀ e h, r = (.error e, h) → ran.outcome = .error (.error (.display e)))
    (done : ∀ a h, r = (.ok a, h) → ran.outcome = .ok ()) :
    Fails ran ↔ ∃ e, r.1 = .error e := by
  obtain ⟨outcome, h⟩ := r
  cases outcome with
  | error e =>
      exact ⟨fun _ => ⟨e, rfl⟩, fun _ => ⟨_, failed e h rfl⟩⟩
  | ok a =>
      have done := done a h rfl
      constructor
      · rintro ⟨halt, failed⟩
        cases done.symm.trans failed
      · rintro ⟨e, failed⟩
        cases failed

/-- What a machine remembers of a display, and how the instructions that draw come out. -/
structure Draws (m : Machine) (h : Host) : Prop where
  /-- The window that the machine remembers is there, and none was opened later. -/
  window : ∀ w, m.lastWindow = some w →
    ∃ v, h.display.window w = .ok v ∧ h.display.windows.back? = some v
  /-- The surface that it remembers is there with its size, and none was created later. -/
  surface : ∀ c, m.lastSurface = some c → c.handle.attached = false ∧
    ∃ s, h.display.owner c.handle = .ok s ∧ h.display.surfaces.back? = some s ∧
      c.width = s.front.width ∧ c.height = s.front.height
  remembers : m.lastSurface = none ↔ h.display.surfaces = #[]
  fill_fails : ∀ byte, Fails (m.execute h (.fill byte)) ↔ h.display.surfaces = #[]
  /-- The back buffer of the latest surface is filled, or the surface if it has none. -/
  fills : ∀ byte c s, m.lastSurface = some c → h.display.owner c.handle = .ok s →
    ∃ after, m.execute h (.fill byte) = m.proceed { h with display := after } m.fallThrough ∧
      h.display.Filled (if s.isPrimary then { c.handle with attached := true } else c.handle) byte
        after
  flip_fails : Fails (m.execute h .flip) ↔
    ∀ s, h.display.surfaces.back? = some s → s.isPrimary = false
  surface_fails : ∀ width height primary, Fails (m.execute h (.surface width height primary)) ↔
    64 * 1024 * 1024 < width.toNat * height.toNat * 4 ∨
      primary = true ∧ ∃ w, h.display.windows.back? = some w ∧ w.surface.isSome = true

namespace Linked

variable {m : Machine} {h : Host} {d : Display}

theorem execute_fill (linked : m.Linked h.display)
    (fewSurfaces : h.display.surfaces.size < UInt32.size - 1) (byte : UInt8) {c : CreatedSurface}
    {s : Surface} (last : m.lastSurface = some c) (found : h.display.owner c.handle = .ok s) :
    ∃ after, m.execute h (.fill byte) = m.proceed { h with display := after } m.fallThrough ∧
      h.display.Filled (Display.drawn c.handle s) byte after := by
  obtain ⟨t, -, owner, own, width, height⟩ := linked.exists_surface fewSurfaces last
  cases found.symm.trans owner
  obtain ⟨after, painted, filled⟩ := linked.exists_paint own found width height byte
  refine ⟨after, ?_, filled⟩
  simp only [Machine.execute, last, painted]

theorem fill_fails_iff (linked : m.Linked h.display)
    (fewSurfaces : h.display.surfaces.size < UInt32.size - 1) (byte : UInt8) :
    Fails (m.execute h (.fill byte)) ↔ h.display.surfaces = #[] := by
  rw [← linked.lastSurface_eq_none_iff]
  cases last : m.lastSurface with
  | none =>
      have failed : m.execute h (.fill byte) = m.fail h .noSurface := by
        simp only [Machine.execute, last]
      rw [failed]
      exact ⟨fun _ => rfl, fun _ => ⟨_, rfl⟩⟩
  | some c =>
      obtain ⟨s, -, found, -⟩ := linked.exists_surface fewSurfaces last
      obtain ⟨after, done, -⟩ := linked.execute_fill fewSurfaces byte last found
      rw [done]
      constructor
      · rintro ⟨halt, failed⟩
        cases failed
      · rintro ⟨⟩

theorem flip_fails_iff (linked : m.Linked h.display)
    (fewSurfaces : h.display.surfaces.size < UInt32.size - 1) :
    Fails (m.execute h .flip) ↔
      ∀ s, h.display.surfaces.back? = some s → s.isPrimary = false := by
  cases last : m.lastSurface with
  | none =>
      have failed : m.execute h .flip = m.fail h .noSurface := by
        simp only [Machine.execute, last]
      have empty := linked.lastSurface_eq_none_iff.1 last
      rw [failed, empty]
      constructor
      · intro _ s back
        cases back
      · intro _
        exact ⟨_, rfl⟩
  | some c =>
      obtain ⟨s, back, found, own, -⟩ := linked.exists_surface fewSurfaces last
      have presented : Fails (m.execute h .flip) ↔
          ∃ e, (h.display.flip c.handle).1 = .error e := by
        refine fails_iff_of_result (r := h.flip c.handle) ?_ ?_
        · intro e h' result
          simp only [Machine.execute, last, result]
          rfl
        · intro _ h' result
          simp only [Machine.execute, last, result]
          rfl
      rw [presented, Display.flip_fails_iff own found, back]
      constructor
      · rintro secondary _ ⟨⟩
        exact secondary
      · intro secondary
        exact secondary s rfl

theorem surface_fails_iff (linked : m.Linked h.display)
    (fewWindows : h.display.windows.size < UInt32.size - 1)
    (fewSurfaces : h.display.surfaces.size < UInt32.size - 1) (width height : UInt32)
    (primary : Bool) :
    Fails (m.execute h (.surface width height primary)) ↔
      64 * 1024 * 1024 < width.toNat * height.toNat * 4 ∨
        primary = true ∧ ∃ w, h.display.windows.back? = some w ∧ w.surface.isSome = true := by
  have created : Fails (m.execute h (.surface width height primary)) ↔
      ∃ e, (h.createSurface
        ⟨width, height, primary, if primary then m.lastWindow else none⟩).1 = .error e := by
    refine fails_iff_of_result ?_ ?_
    · intro e h' result
      simp only [Machine.execute, result]
      rfl
    · intro surface h' result
      simp only [Machine.execute, result]
      rfl
  rw [created, Host.createSurface_fails_iff,
    linked.checkWindow_fails_iff fewWindows fewSurfaces, Display.createSurface_fails_iff,
    linked.bytes, or_comm]
  rfl

theorem draws (linked : m.Linked h.display)
    (fewWindows : h.display.windows.size < UInt32.size - 1)
    (fewSurfaces : h.display.surfaces.size < UInt32.size - 1) : m.Draws h where
  window w last := by
    obtain ⟨v, back, found⟩ := linked.exists_window fewWindows fewSurfaces last
    exact ⟨v, found, back⟩
  surface c last := by
    obtain ⟨s, back, found, own, width, height⟩ := linked.exists_surface fewSurfaces last
    exact ⟨own, s, found, back, width, height⟩
  remembers := linked.lastSurface_eq_none_iff
  fill_fails := linked.fill_fails_iff fewSurfaces
  fills byte c s last found := linked.execute_fill fewSurfaces byte last found
  flip_fails := linked.flip_fails_iff fewSurfaces
  surface_fails := linked.surface_fails_iff fewWindows fewSurfaces

end Linked

end Machine

end GuestDebugger
