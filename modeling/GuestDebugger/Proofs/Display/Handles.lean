import GuestDebugger.Proofs.Display.Operations

/-! # Handles for good

Windows and surfaces are only ever added, and a buffer is only ever replaced by one of its shape. So
a handle that means something goes on to mean it, whatever is done to the display, and a window
that shows a buffer shows it for good. -/

namespace GuestDebugger

namespace PixelBuffer

/-! ### Sizes in 64 bits -/

/-- The product of two numbers, if it fits into 64 bits. -/
def checkedMul (a b : UInt64) : Option UInt64 :=
  if a.toNat * b.toNat < UInt64.size then some (a * b) else none

/-- The number of bytes of a buffer, computed in 64 bits, if it is not too large. -/
def checkedLength (width height bytesPerPixel : UInt32) : Option UInt64 :=
  ((checkedMul width.toUInt64 height.toUInt64).bind (checkedMul · bytesPerPixel.toUInt64)).filter
    (·.toNat ≤ maxBufferBytes)

theorem checkedMul_eq_some_iff {a b c : UInt64} :
    checkedMul a b = some c ↔ c.toNat = a.toNat * b.toNat := by
  simp only [checkedMul]
  constructor
  · intro product
    split at product
    · rename_i fits
      cases product
      rw [UInt64.toNat_mul, Nat.mod_eq_of_lt fits]
    · cases product
  · intro product
    have fits : a.toNat * b.toNat < UInt64.size := product ▸ c.toNat_lt
    rw [if_pos fits, Option.some_inj, ← UInt64.toNat_inj, UInt64.toNat_mul, Nat.mod_eq_of_lt fits,
      product]

/-- The first of the two products always fits, and a second one that does not is too large. -/
theorem checkedLength_eq_some_iff {width height bytesPerPixel : UInt32} {n : UInt64} :
    checkedLength width height bytesPerPixel = some n ↔
      n.toNat = width.toNat * height.toNat * bytesPerPixel.toNat ∧ n.toNat ≤ maxBufferBytes := by
  have area : width.toNat * height.toNat < UInt64.size := by
    have := Nat.mul_lt_mul'' width.toNat_lt height.toNat_lt
    omega
  have first : checkedMul width.toUInt64 height.toUInt64 =
      some (UInt64.ofNat (width.toNat * height.toNat)) := by
    rw [checkedMul_eq_some_iff, UInt64.toNat_ofNat', Nat.mod_eq_of_lt area]
    simp
  simp only [checkedLength, first, Option.bind_some, Option.filter_eq_some_iff,
    checkedMul_eq_some_iff, UInt64.toNat_ofNat', Nat.mod_eq_of_lt area, UInt32.toNat_toUInt64,
    decide_eq_true_eq]

/-- The number of bytes is the one that 64 bits give, also where they do not suffice. -/
theorem byteLength_eq_checkedLength (width height bytesPerPixel : UInt32) :
    byteLength width height bytesPerPixel =
      match checkedLength width height bytesPerPixel with
      | some n => .ok n.toNat
      | none => .error (.tooLarge width height) := by
  simp only [byteLength]
  cases computed : checkedLength width height bytesPerPixel with
  | some n =>
      obtain ⟨product, small⟩ := checkedLength_eq_some_iff.1 computed
      rw [← product, if_pos small]
  | none =>
      refine if_neg fun small => ?_
      have fits : width.toNat * height.toNat * bytesPerPixel.toNat < UInt64.size :=
        Nat.lt_of_le_of_lt small (by decide)
      have same := UInt64.toNat_ofNat_of_lt' fits
      have found := checkedLength_eq_some_iff.2 ⟨same, by rwa [same]⟩
      rw [computed] at found
      cases found

theorem Sound.checkedLength {b : PixelBuffer} (sound : b.Sound) :
    ∃ n, PixelBuffer.checkedLength b.width b.height b.bytesPerPixel = some n ∧
      n.toNat = b.pixels.size := by
  have length := sound.byteLength_eq
  rw [byteLength_eq_checkedLength] at length
  cases computed : PixelBuffer.checkedLength b.width b.height b.bytesPerPixel with
  | some n =>
      rw [computed] at length
      exact ⟨n, rfl, Except.ok.inj length⟩
  | none =>
      rw [computed] at length
      cases length

theorem sameShape_writeRect (b : PixelBuffer) (x y : Nat) (rect : PixelRect) :
    (b.writeRect x y rect).SameShape b := by
  simp only [writeRect]
  split
  · exact .refl b
  · exact ⟨rfl, rfl, rfl⟩

end PixelBuffer

namespace Surface

/-- A surface that may have been drawn to since. -/
structure Kept (s t : Surface) : Prop where
  front : t.front.SameShape s.front
  back : ∀ b, s.back = some b → ∃ c, t.back = some c ∧ c.SameShape b
  isPrimary : t.isPrimary = s.isPrimary

theorem Kept.refl (s : Surface) : s.Kept s :=
  ⟨.refl _, fun b back => ⟨b, back, .refl b⟩, rfl⟩

theorem Kept.trans {s t u : Surface} (first : s.Kept t) (second : t.Kept u) : s.Kept u where
  front := second.front.trans first.front
  back b back := by
    obtain ⟨c, between, shape⟩ := first.back b back
    obtain ⟨e, after, shape'⟩ := second.back c between
    exact ⟨e, after, shape'.trans shape⟩
  isPrimary := second.isPrimary.trans first.isPrimary

end Surface

namespace Window

/-- A window that may have been bound since, unless it was bound before. -/
structure Kept (w v : Window) : Prop where
  handle : v.handle = w.handle
  options : v.options = w.options
  surface : ∀ h, w.surface = some h → v.surface = some h

theorem Kept.refl (w : Window) : w.Kept w := ⟨rfl, rfl, fun _ bound => bound⟩

theorem Kept.trans {w v u : Window} (first : w.Kept v) (second : v.Kept u) : w.Kept u :=
  ⟨second.handle.trans first.handle, second.options.trans first.options,
    fun h bound => second.surface h (first.surface h bound)⟩

end Window

namespace Display

variable {d e : Display}

/-! ### What an operation changes -/

/-- Everything that an operation can do to a display. -/
inductive Changed (d : Display) : Display → Prop
  | nothing : Changed d d
  | opened (options : WindowOptions) : Changed d (d.createWindow options).2
  | created {width height : UInt32} {primary : Bool} {s : Surface}
      (made : Surface.create width height d.bytesPerPixel primary = .ok s) :
      Changed d { d with surfaces := d.surfaces.push s }
  | bound {i : Nat} {w : Window} {handle : SurfaceHandle} {b : PixelBuffer}
      (found : d.windows[i]? = some w) (free : w.surface = none) (there : d.buffer handle = .ok b) :
      Changed d { d with windows := d.windows.modify i ({ · with surface := some handle }) }
  | drawn {handle : SurfaceHandle} {old b : PixelBuffer} (there : d.buffer handle = .ok old)
      (same : b.SameShape old) : Changed d (d.setBuffer handle b)

theorem owner_eq_ok_iff {handle : SurfaceHandle} {s : Surface} :
    d.owner handle = .ok s ↔ d.surfaces[handle.index.toNat]? = some s := by
  simp only [owner]
  cases d.surfaces[handle.index.toNat]? <;> simp

theorem window_eq_ok_iff {window : WindowHandle} {w : Window} :
    d.window window = .ok w ↔ window.id ≠ 0 ∧ d.windows[window.id.toNat - 1]? = some w := by
  simp only [Display.window, windowIndex?]
  by_cases zero : window.id = 0
  · simp [zero]
  · simp only [zero, if_false, Option.bind_some, ne_eq, not_false_eq_true, true_and]
    cases d.windows[window.id.toNat - 1]? <;> simp

theorem changed_apply (d : Display) (o : Operation) : Changed d (d.apply o) := by
  cases o with
  | createWindow options => exact .opened options
  | createSurface width height primary =>
      simp only [apply, createSurface]
      split
      · exact .nothing
      · rename_i made
        exact .created made
  | bindSurface window surface =>
      simp only [apply, bindSurface]
      split
      · exact .nothing
      · exact .nothing
      · rename_i there opened
        split
        · exact .nothing
        · rename_i free
          exact .bound (window_eq_ok_iff.1 opened).2 (by simpa using free) there
  | writePixels handle pixels =>
      simp only [apply, writePixels]
      cases there : d.buffer handle with
      | error => exact .nothing
      | ok old =>
          cases written : old.write pixels with
          | error => simpa [Except.bind, written] using Changed.nothing
          | ok b =>
              obtain ⟨-, shape⟩ := PixelBuffer.write_eq_ok_iff.1 written
              have same : b.SameShape old := shape ▸ ⟨rfl, rfl, rfl⟩
              simpa [Except.bind, written] using Changed.drawn there same
  | flip handle =>
      simp only [apply, flip]
      split
      · exact .nothing
      · rename_i own
        cases found : d.owner handle with
        | error => exact .nothing
        | ok s =>
            have there : d.buffer handle = .ok s.front :=
              buffer_eq_ok_iff.2 ⟨s, owner_eq_ok_iff.1 found, by simp [part, own]⟩
            cases back : s.back with
            | none => simpa [Except.bind, Surface.flip, back] using Changed.nothing
            | some b =>
                have same : ({ s.front with pixels := b.pixels } : PixelBuffer).SameShape s.front :=
                  ⟨rfl, rfl, rfl⟩
                simpa [Except.bind, Surface.flip, back] using Changed.drawn there same
  | copyRect t =>
      simp only [apply, copyRect]
      split
      · exact .nothing
      · exact .nothing
      · rename_i there
        exact .drawn there (PixelBuffer.sameShape_writeRect ..)

/-! ### What is there stays there -/

/-- A display in which everything is found that was there before. -/
structure Kept (d e : Display) : Prop where
  windows : ∀ (i : Nat) (w : Window), d.windows[i]? = some w →
    ∃ v, e.windows[i]? = some v ∧ w.Kept v
  surfaces : ∀ (i : Nat) (s : Surface), d.surfaces[i]? = some s →
    ∃ t, e.surfaces[i]? = some t ∧ s.Kept t

theorem Kept.refl (d : Display) : d.Kept d :=
  ⟨fun _ w found => ⟨w, found, .refl w⟩, fun _ s found => ⟨s, found, .refl s⟩⟩

theorem Kept.trans {f : Display} (first : d.Kept e) (second : e.Kept f) : d.Kept f where
  windows i w found := by
    obtain ⟨v, between, kept⟩ := first.windows i w found
    obtain ⟨u, after, kept'⟩ := second.windows i v between
    exact ⟨u, after, kept.trans kept'⟩
  surfaces i s found := by
    obtain ⟨t, between, kept⟩ := first.surfaces i s found
    obtain ⟨u, after, kept'⟩ := second.surfaces i t between
    exact ⟨u, after, kept.trans kept'⟩

/-- What was in an array is in it after something was added at its end. -/
theorem getElem?_push_of_some {α : Type} {xs : Array α} {i : Nat} {x : α} (y : α)
    (found : xs[i]? = some x) : (xs.push y)[i]? = some x := by
  obtain ⟨inside, -⟩ := Array.getElem?_eq_some_iff.1 found
  rw [Array.getElem?_push, if_neg (by omega), found]

/-- A surface is kept if one of its buffers is replaced by one of the same shape. -/
theorem kept_of_part {handle : SurfaceHandle} {s : Surface} {old b : PixelBuffer}
    (there : part handle s = some old) (same : b.SameShape old) :
    s.Kept (if handle.attached then { s with back := some b } else { s with front := b }) := by
  simp only [part] at there
  split at there <;> rename_i attached
  · simp only [attached, if_true]
    refine ⟨.refl s.front, fun c back => ?_, by simp [Surface.isPrimary, there]⟩
    rw [there] at back
    cases back
    exact ⟨b, rfl, same⟩
  · cases there
    simp only [attached]
    exact ⟨same, fun c back => ⟨c, back, .refl c⟩, rfl⟩

theorem Changed.kept (changed : Changed d e) : d.Kept e := by
  have same := Kept.refl d
  cases changed with
  | nothing => exact same
  | opened options =>
      exact ⟨fun i w found => ⟨w, getElem?_push_of_some _ found, .refl w⟩, same.surfaces⟩
  | created made =>
      exact ⟨same.windows, fun i s found => ⟨s, getElem?_push_of_some _ found, .refl s⟩⟩
  | @bound i w handle b found free there =>
      refine ⟨fun j v there => ?_, same.surfaces⟩
      simp only [Array.getElem?_modify]
      by_cases here : i = j
      · subst here
        rw [found] at there
        cases there
        refine ⟨{ w with surface := some handle }, by rw [if_pos rfl, found, Option.map_some],
          rfl, rfl, fun h shown => ?_⟩
        rw [free] at shown
        cases shown
      · exact ⟨v, by rw [if_neg here, there], .refl v⟩
  | @drawn handle old b there shape =>
      refine ⟨same.windows, fun j s found => ?_⟩
      simp only [setBuffer, Array.getElem?_modify]
      by_cases here : handle.index.toNat = j
      · subst here
        obtain ⟨t, placed, part⟩ := buffer_eq_ok_iff.1 there
        rw [found] at placed
        cases placed
        exact ⟨_, by rw [if_pos rfl, found, Option.map_some], kept_of_part part shape⟩
      · exact ⟨s, by rw [if_neg here, found], .refl s⟩

theorem kept_foldl (d : Display) (operations : List Operation) :
    d.Kept (operations.foldl apply d) := by
  induction operations generalizing d with
  | nil => exact .refl d
  | cons o rest ih => exact (changed_apply d o).kept.trans (ih (d.apply o))

/-! ### Handles go on to mean what they mean -/

theorem Kept.buffer {handle : SurfaceHandle} {b : PixelBuffer} (kept : d.Kept e)
    (there : d.buffer handle = .ok b) : ∃ c, e.buffer handle = .ok c ∧ c.SameShape b := by
  obtain ⟨s, found, part⟩ := buffer_eq_ok_iff.1 there
  obtain ⟨t, after, kept⟩ := kept.surfaces _ s found
  simp only [Display.part] at part
  split at part <;> rename_i attached
  · obtain ⟨c, back, shape⟩ := kept.back b part
    exact ⟨c, buffer_eq_ok_iff.2 ⟨t, after, by simp [Display.part, attached, back]⟩, shape⟩
  · cases part
    exact ⟨t.front, buffer_eq_ok_iff.2 ⟨t, after, by simp [Display.part, attached]⟩, kept.front⟩

theorem attached_eq_ok_iff {handle a : SurfaceHandle} :
    d.attached handle = .ok a ↔
      handle.attached = false ∧ a = { handle with attached := true } ∧
        ∃ s, d.owner handle = .ok s ∧ s.isPrimary = true := by
  simp only [attached]
  cases own : handle.attached with
  | true => simp
  | false =>
      cases d.owner handle with
      | error e => simp [bind, Except.bind]
      | ok s =>
          cases primary : s.isPrimary with
          | false => simp [bind, Except.bind, throw, throwThe, MonadExceptOf.throw, primary]
          | true => simpa [bind, Except.bind, pure, Except.pure, primary] using eq_comm

/-- Each handle of one display means in another one what it meant, and windows that are bound stay
bound as they are. -/
structure Lasts (d e : Display) : Prop where
  window : ∀ (h : WindowHandle) (w : Window), d.window h = .ok w → ∃ v, e.window h = .ok v ∧
    v.handle = w.handle ∧ v.options = w.options ∧ ∀ s, w.surface = some s → v.surface = some s
  surface : ∀ (h : SurfaceHandle) (s : Surface), d.owner h = .ok s → ∃ t, e.owner h = .ok t ∧
    t.front.SameShape s.front ∧ t.isPrimary = s.isPrimary
  buffer : ∀ (h : SurfaceHandle) (b : PixelBuffer), d.buffer h = .ok b →
    ∃ c, e.buffer h = .ok c ∧ c.SameShape b
  attached : ∀ h a : SurfaceHandle, d.attached h = .ok a → e.attached h = .ok a

theorem Kept.lasts (kept : d.Kept e) : d.Lasts e where
  window h w found := by
    obtain ⟨nonzero, found⟩ := window_eq_ok_iff.1 found
    obtain ⟨v, after, same⟩ := kept.windows _ w found
    exact ⟨v, window_eq_ok_iff.2 ⟨nonzero, after⟩, same.handle, same.options, same.surface⟩
  surface h s found := by
    obtain ⟨t, after, same⟩ := kept.surfaces _ s (owner_eq_ok_iff.1 found)
    exact ⟨t, owner_eq_ok_iff.2 after, same.front, same.isPrimary⟩
  buffer h b there := kept.buffer there
  attached h a found := by
    obtain ⟨own, rfl, s, owner, primary⟩ := attached_eq_ok_iff.1 found
    obtain ⟨t, after, same⟩ := kept.surfaces _ s (owner_eq_ok_iff.1 owner)
    exact attached_eq_ok_iff.2
      ⟨own, rfl, t, owner_eq_ok_iff.2 after, same.isPrimary.trans primary⟩

/-! ### Numbers and bindings of windows -/

/-- Windows are numbered from one, up to the width of a number. -/
def Numbered (d : Display) : Prop :=
  ∀ (i : Nat) (w : Window), d.windows[i]? = some w → w.handle.id = UInt32.ofNat i + 1

/-- What a window shows is there. -/
def Bound (d : Display) : Prop :=
  ∀ (i : Nat) (w : Window) (h : SurfaceHandle), d.windows[i]? = some w → w.surface = some h →
    ∃ b, d.buffer h = .ok b

theorem Changed.numbered (changed : Changed d e) (numbered : d.Numbered) : e.Numbered := by
  cases changed with
  | opened options =>
      intro i w found
      simp only [createWindow, Array.getElem?_push] at found
      split at found
      · rename_i last
        cases found
        rw [last]
      · exact numbered i w found
  | @bound i w handle b found free there =>
      intro j v after
      simp only [Array.getElem?_modify] at after
      split at after
      · rename_i here
        subst here
        rw [found] at after
        cases after
        exact numbered i w found
      · exact numbered j v after
  | _ => exact numbered

theorem Changed.bound_windows (changed : Changed d e) (bound : d.Bound) : e.Bound := by
  have lasts := changed.kept.lasts
  -- A window that is bound as before shows what is still there.
  have stays : ∀ (i : Nat) (w : Window) (h : SurfaceHandle), d.windows[i]? = some w →
      w.surface = some h → ∃ b, e.buffer h = .ok b := by
    intro i w h found shows
    obtain ⟨b, there⟩ := bound i w h found shows
    obtain ⟨c, after, -⟩ := lasts.buffer h b there
    exact ⟨c, after⟩
  cases changed with
  | opened options =>
      intro i w h found shows
      simp only [createWindow, Array.getElem?_push] at found
      split at found
      · cases found
        cases shows
      · exact stays i w h found shows
  | @bound i w handle b found free there =>
      intro j v h after shows
      simp only [Array.getElem?_modify] at after
      split at after
      · rename_i here
        subst here
        rw [found] at after
        cases after
        cases shows
        exact ⟨b, there⟩
      · exact stays j v h after shows
  | _ => exact stays

theorem Reachable.numbered (reached : d.Reachable) : d.Numbered := by
  induction reached with
  | create bytesPerPixel =>
      intro i w found
      simp [Display.create] at found
  | operation _ o ih => exact (changed_apply _ o).numbered ih

theorem Reachable.bound (reached : d.Reachable) : d.Bound := by
  induction reached with
  | create bytesPerPixel =>
      intro i w h found
      simp [Display.create] at found
  | operation _ o ih => exact (changed_apply _ o).bound_windows ih

/-! ### Every display -/

/-- What the lookups of a display rest on. -/
structure Regular (d : Display) : Prop where
  size_eq : ∀ (h : SurfaceHandle) (b : PixelBuffer), d.buffer h = .ok b →
    b.pixels.size = b.width.toNat * b.height.toNat * b.bytesPerPixel.toNat
  size_le : ∀ (h : SurfaceHandle) (b : PixelBuffer), d.buffer h = .ok b →
    b.pixels.size ≤ 64 * 1024 * 1024
  /-- In 64 bits, no step of the computation of a size overflows. -/
  size_checked : ∀ (h : SurfaceHandle) (b : PixelBuffer), d.buffer h = .ok b →
    ∃ n, PixelBuffer.checkedLength b.width b.height b.bytesPerPixel = some n ∧
      n.toNat = b.pixels.size
  /-- A primary surface has one back buffer, and only such a surface has one. -/
  attached_iff : ∀ h a : SurfaceHandle, d.attached h = .ok a ↔
    h.attached = false ∧ a = { h with attached := true } ∧
      ∃ s, d.owner h = .ok s ∧ s.isPrimary = true
  back_buffer : ∀ (h a : SurfaceHandle) (s : Surface), d.attached h = .ok a → d.owner h = .ok s →
    ∃ b, d.buffer a = .ok b ∧ s.back = some b ∧ b.SameShape s.front
  back_of_back : ∀ h : SurfaceHandle, h.attached = true →
    d.attached h = .error .noBackBuffer ∧ d.flip h = (.error .noBackBuffer, d)
  window_id : ∀ (i : Nat) (w : Window), d.windows[i]? = some w →
    w.handle.id.toNat = i + 1 ∧ d.window w.handle = .ok w
  surface_index : ∀ (h : SurfaceHandle) (s : Surface), (h, s) ∈ d.surfaceList →
    d.surfaces[h.index.toNat]? = some s ∧ d.buffer h = .ok s.front
  window_shows : ∀ (h : WindowHandle) (w : Window) (s : SurfaceHandle), d.window h = .ok w →
    w.surface = some s → ∃ b, d.buffer s = .ok b

theorem Reachable.regular (reached : d.Reachable) (fewWindows : d.windows.size < UInt32.size - 1)
    (fewSurfaces : d.surfaces.size < UInt32.size - 1) : d.Regular where
  size_eq h b there := (reached.sound.buffer there).1.size_eq_mul
  size_le h b there := (reached.sound.buffer there).1.size_le
  size_checked h b there := (reached.sound.buffer there).1.checkedLength
  attached_iff h a := attached_eq_ok_iff
  back_buffer h a s found owner := by
    obtain ⟨own, rfl, t, owner', primary⟩ := attached_eq_ok_iff.1 found
    rw [owner] at owner'
    cases owner'
    obtain ⟨b, back⟩ := Option.isSome_iff_exists.1 primary
    have found := owner_eq_ok_iff.1 owner
    obtain ⟨whole, -⟩ := reached.sound _ s found
    exact ⟨b, buffer_eq_ok_iff.2 ⟨s, found, by simp [part, back]⟩, back, (whole.back b back).2⟩
  back_of_back h own := by simp [attached, flip, own]
  window_id i w found := by
    obtain ⟨inside, -⟩ := Array.getElem?_eq_some_iff.1 found
    have id : w.handle.id.toNat = i + 1 := by
      have size : UInt32.size = 4294967296 := rfl
      rw [reached.numbered i w found, UInt32.toNat_add, UInt32.toNat_ofNat']
      simp only [UInt32.reduceToNat]
      omega
    refine ⟨id, window_eq_ok_iff.2 ⟨fun zero => ?_, ?_⟩⟩
    · rw [zero] at id
      cases id
    · rw [id, Nat.add_sub_cancel, found]
  surface_index h s listed := by
    simp only [surfaceList, List.mem_map, Prod.mk.injEq] at listed
    obtain ⟨⟨t, i⟩, mem, rfl, rfl⟩ := listed
    have found : d.surfaces[i]? = some t := by
      simpa using List.mk_mem_zipIdx_iff_getElem?.1 mem
    obtain ⟨inside, -⟩ := Array.getElem?_eq_some_iff.1 found
    have index : (UInt32.ofNat i).toNat = i := UInt32.toNat_ofNat_of_lt' (by omega)
    refine ⟨by rw [index, found], buffer_eq_ok_iff.2 ⟨t, by rw [index, found], rfl⟩⟩
  window_shows h w s found shows := reached.bound _ w s (window_eq_ok_iff.1 found).2 shows

theorem Reachable.foldl (reached : d.Reachable) (operations : List Operation) :
    (operations.foldl apply d).Reachable := by
  induction operations generalizing d with
  | nil => exact reached
  | cons o rest ih => exact ih (reached.operation o)

end Display

end GuestDebugger
