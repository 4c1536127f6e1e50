import GuestDebugger.Display.Basic
import GuestDebugger.Proofs.Display.Rectangles

/-! # Operations on a display

Whatever is done to a display, each of its buffers has exactly the bytes of its pixels, and the
back buffer of a surface has the shape of its front buffer. A buffer is changed only through its own
handle. -/

namespace GuestDebugger

namespace PixelBuffer

/-- Buffers with the same rows and pixels, whatever the pixels show. -/
structure SameShape (b c : PixelBuffer) : Prop where
  width : b.width = c.width
  height : b.height = c.height
  bytesPerPixel : b.bytesPerPixel = c.bytesPerPixel

theorem SameShape.refl (b : PixelBuffer) : b.SameShape b := ⟨rfl, rfl, rfl⟩

theorem SameShape.symm {b c : PixelBuffer} (same : b.SameShape c) : c.SameShape b :=
  ⟨same.width.symm, same.height.symm, same.bytesPerPixel.symm⟩

theorem SameShape.trans {b c e : PixelBuffer} (first : b.SameShape c) (second : c.SameShape e) :
    b.SameShape e :=
  ⟨first.width.trans second.width, first.height.trans second.height,
    first.bytesPerPixel.trans second.bytesPerPixel⟩

/-- A buffer of the same shape is sound if it has as many bytes. -/
theorem Sound.of_sameShape {b c : PixelBuffer} (sound : b.Sound) (same : c.SameShape b)
    (size : c.pixels.size = b.pixels.size) : c.Sound where
  size_eq := by
    rw [size, sound.size_eq, stride, stride, same.width, same.height, same.bytesPerPixel]
  size_le := size ▸ sound.size_le

theorem PlacedIn.sameShape {b c : PixelBuffer} {x y : Nat} {rect : PixelRect}
    (placed : b.PlacedIn x y rect c) : c.SameShape b :=
  ⟨placed.width, placed.height, placed.bytesPerPixel⟩

theorem sound_create {width height bytesPerPixel : UInt32} {b : PixelBuffer}
    (created : create width height bytesPerPixel = .ok b) :
    b.Sound ∧ b.width = width ∧ b.height = height ∧ b.bytesPerPixel = bytesPerPixel := by
  simp only [create, byteLength] at created
  split at created
  · rename_i small
    cases created
    refine ⟨⟨?_, ?_⟩, rfl, rfl, rfl⟩
    · rw [Bytes.size_replicate, stride, Nat.mul_left_comm, Nat.mul_assoc]
    · rw [Bytes.size_replicate]
      exact small
  · cases created

/-- Sound buffers of one shape have as many bytes. -/
theorem Sound.size_eq_of_sameShape {b c : PixelBuffer} (sound : b.Sound) (sound' : c.Sound)
    (same : b.SameShape c) : b.pixels.size = c.pixels.size := by
  rw [sound.size_eq, sound'.size_eq, stride, stride, same.width, same.height, same.bytesPerPixel]

/-- Pixels are replaced by as many others. -/
theorem write_eq_ok_iff {b c : PixelBuffer} {pixels : ByteArray} :
    b.write pixels = .ok c ↔ pixels.size = b.pixels.size ∧ c = { b with pixels } := by
  rw [write]
  split
  · rename_i size
    rw [Except.ok.injEq, and_iff_right size, eq_comm]
  · rename_i size
    exact iff_of_false nofun fun both => size both.1

theorem sound_write {b c : PixelBuffer} {pixels : ByteArray} (sound : b.Sound)
    (written : b.write pixels = .ok c) : c.Sound ∧ c.SameShape b := by
  obtain ⟨size, rfl⟩ := write_eq_ok_iff.1 written
  have same : ({ b with pixels } : PixelBuffer).SameShape b := ⟨rfl, rfl, rfl⟩
  exact ⟨sound.of_sameShape same size, same⟩

end PixelBuffer

namespace Surface

/-- A surface whose buffers are sound and have one shape. -/
structure Sound (s : Surface) : Prop where
  front : s.front.Sound
  back : ∀ b, s.back = some b → b.Sound ∧ b.SameShape s.front

theorem sound_create {width height bytesPerPixel : UInt32} {primary : Bool} {s : Surface}
    (created : create width height bytesPerPixel primary = .ok s) :
    s.Sound ∧ s.front.bytesPerPixel = bytesPerPixel := by
  simp only [create] at created
  cases buffer : PixelBuffer.create width height bytesPerPixel with
  | error e =>
      rw [buffer] at created
      cases created
  | ok front =>
      rw [buffer] at created
      cases created
      obtain ⟨sound, -, -, bytes⟩ := PixelBuffer.sound_create buffer
      refine ⟨⟨sound, ?_⟩, bytes⟩
      intro b back
      cases primary with
      | true =>
          cases back
          exact ⟨sound, .refl front⟩
      | false => cases back

end Surface

namespace Display

/-! ### Buffers and their handles -/

section Buffers

variable {d : Display} {handle : SurfaceHandle} {b : PixelBuffer}

/-- The buffer of a surface that a handle means. -/
def part (handle : SurfaceHandle) (s : Surface) : Option PixelBuffer :=
  if handle.attached then s.back else some s.front

theorem buffer_eq_ok_iff :
    d.buffer handle = .ok b ↔
      ∃ s, d.surfaces[handle.index.toNat]? = some s ∧ part handle s = some b := by
  simp only [buffer, owner, part]
  cases d.surfaces[handle.index.toNat]? with
  | none => simp [bind, Except.bind]
  | some s =>
      cases handle.attached with
      | false => simp [bind, Except.bind, pure, Except.pure]
      | true =>
          cases back : s.back <;>
            simp [bind, Except.bind, pure, Except.pure, throw, throwThe, MonadExceptOf.throw, back]

/-- A buffer that was put in place is found there. -/
theorem buffer_setBuffer {old : PixelBuffer} (there : d.buffer handle = .ok old) :
    (d.setBuffer handle b).buffer handle = .ok b := by
  obtain ⟨s, found, -⟩ := buffer_eq_ok_iff.1 there
  apply buffer_eq_ok_iff.2
  simp only [setBuffer, Array.getElem?_modify, found, part]
  cases handle.attached <;> simp

/-- All other handles mean what they meant. -/
theorem buffer_setBuffer_of_ne {other : SurfaceHandle} (ne : other ≠ handle) :
    (d.setBuffer handle b).buffer other = d.buffer other := by
  simp only [buffer, owner, setBuffer, Array.getElem?_modify]
  by_cases index : handle.index.toNat = other.index.toNat
  · have attached : handle.attached ≠ other.attached := by
      intro attached
      apply ne
      cases handle
      cases other
      simp_all [UInt32.toNat_inj]
    rw [if_pos index]
    cases d.surfaces[other.index.toNat]? with
    | none => rfl
    | some s =>
        cases first : handle.attached <;> cases second : other.attached
        · exact absurd (first.trans second.symm) attached
        · rfl
        · rfl
        · exact absurd (first.trans second.symm) attached
  · rw [if_neg index]

end Buffers

/-! ### What every operation keeps -/

/-- A display of sound surfaces with pixels of one size. -/
def Sound (d : Display) : Prop :=
  ∀ (i : Nat) (s : Surface), d.surfaces[i]? = some s →
    s.Sound ∧ s.front.bytesPerPixel = d.bytesPerPixel

/-- What may be done to a display. -/
inductive Operation where
  | createWindow (options : WindowOptions)
  | createSurface (width height : UInt32) (primary : Bool)
  | bindSurface (window : WindowHandle) (surface : SurfaceHandle)
  | writePixels (handle : SurfaceHandle) (pixels : ByteArray)
  | flip (handle : SurfaceHandle)
  | copyRect (transfer : Transfer)

/-- The display after an operation, whether it succeeds or fails. -/
def apply (d : Display) : Operation → Display
  | .createWindow options => (d.createWindow options).2
  | .createSurface width height primary => (d.createSurface width height primary).2
  | .bindSurface window surface => (d.bindSurface window surface).2
  | .writePixels handle pixels => (d.writePixels handle pixels).2
  | .flip handle => (d.flip handle).2
  | .copyRect transfer => (d.copyRect transfer).2

/-- A display after any sequence of operations. -/
inductive Reachable : Display → Prop
  | create (bytesPerPixel : UInt32) : Reachable (create bytesPerPixel)
  | operation {d : Display} (reached : Reachable d) (o : Operation) : Reachable (d.apply o)

namespace Sound

variable {d : Display} {handle : SurfaceHandle} {b : PixelBuffer}

theorem buffer (sound : d.Sound) (there : d.buffer handle = .ok b) :
    b.Sound ∧ b.bytesPerPixel = d.bytesPerPixel := by
  obtain ⟨s, found, part⟩ := buffer_eq_ok_iff.1 there
  obtain ⟨whole, bytes⟩ := sound _ s found
  simp only [Display.part] at part
  split at part
  · obtain ⟨back, shape⟩ := whole.back b part
    exact ⟨back, shape.bytesPerPixel.trans bytes⟩
  · cases part
    exact ⟨whole.front, bytes⟩

/-- A buffer may be replaced by a sound one of the same shape. -/
theorem setBuffer {old : PixelBuffer} (sound : d.Sound) (there : d.buffer handle = .ok old)
    (fresh : b.Sound) (same : b.SameShape old) : (d.setBuffer handle b).Sound := by
  obtain ⟨s, found, part⟩ := buffer_eq_ok_iff.1 there
  intro i t after
  simp only [Display.setBuffer, Array.getElem?_modify] at after
  by_cases here : handle.index.toNat = i
  · subst here
    rw [if_pos rfl, found] at after
    obtain ⟨whole, bytes⟩ := sound _ s found
    simp only [Display.part] at part
    split at part <;> rename_i attached <;> simp only [attached] at after <;> cases after
    · obtain ⟨-, shape⟩ := whole.back old part
      refine ⟨⟨whole.front, ?_⟩, bytes⟩
      intro c back
      cases back
      exact ⟨fresh, same.trans shape⟩
    · cases part
      refine ⟨⟨fresh, ?_⟩, same.bytesPerPixel.trans bytes⟩
      intro c back
      obtain ⟨kept, shape⟩ := whole.back c back
      exact ⟨kept, shape.trans same.symm⟩
  · rw [if_neg here] at after
    exact sound i t after

theorem createSurface (sound : d.Sound) (width height : UInt32) (primary : Bool) :
    (d.createSurface width height primary).2.Sound := by
  simp only [Display.createSurface]
  split
  · exact sound
  · rename_i s created
    intro i t found
    rw [Array.getElem?_push] at found
    split at found
    · cases found
      exact Surface.sound_create created
    · exact sound i t found

theorem writePixels (sound : d.Sound) (handle : SurfaceHandle) (pixels : ByteArray) :
    (d.writePixels handle pixels).2.Sound := by
  simp only [Display.writePixels]
  cases there : d.buffer handle with
  | error e => exact sound
  | ok old =>
      cases written : old.write pixels with
      | error e => simpa [Except.bind, written] using sound
      | ok fresh =>
          obtain ⟨whole, same⟩ := PixelBuffer.sound_write (sound.buffer there).1 written
          simpa [Except.bind, written] using sound.setBuffer there whole same

theorem flip (sound : d.Sound) (handle : SurfaceHandle) : (d.flip handle).2.Sound := by
  simp only [Display.flip]
  split
  · exact sound
  · rename_i front
    simp only [owner]
    cases found : d.surfaces[handle.index.toNat]? with
    | none => exact sound
    | some s =>
        obtain ⟨whole, -⟩ := sound _ s found
        have there : d.buffer handle = .ok s.front :=
          buffer_eq_ok_iff.2 ⟨s, found, by simp [part, front]⟩
        cases back : s.back with
        | none => simpa [Except.bind, Surface.flip, back] using sound
        | some b =>
            obtain ⟨kept, shape⟩ := whole.back b back
            have size := kept.size_eq_of_sameShape whole.front shape
            have same : ({ s.front with pixels := b.pixels } : PixelBuffer).SameShape s.front :=
              ⟨rfl, rfl, rfl⟩
            have presented := whole.front.of_sameShape same size
            simpa [Except.bind, Surface.flip, back] using sound.setBuffer there presented same

theorem copyRect (sound : d.Sound) (t : Transfer) : (d.copyRect t).2.Sound := by
  simp only [Display.copyRect]
  split
  · exact sound
  · exact sound
  · rename_i source target readable writable
    obtain ⟨whole, bytes⟩ := sound.buffer readable
    obtain ⟨whole', bytes'⟩ := sound.buffer writable
    have placed := whole'.placedIn_readRect whole (bytes.trans bytes'.symm) t.targetX.toNat
      t.targetY.toNat t.sourceX.toNat t.sourceY.toNat t.width.toNat t.height.toNat
    have same := placed.sameShape
    exact sound.setBuffer writable (whole'.of_sameShape same placed.size) same

theorem apply (sound : d.Sound) (o : Operation) : (d.apply o).Sound := by
  cases o with
  | createWindow options => exact sound
  | createSurface width height primary => exact sound.createSurface width height primary
  | bindSurface window surface =>
      simp only [Display.apply, Display.bindSurface]
      split
      · exact sound
      · exact sound
      · split <;> exact sound
  | writePixels handle pixels => exact sound.writePixels handle pixels
  | flip handle => exact sound.flip handle
  | copyRect transfer => exact sound.copyRect transfer

end Sound

theorem Reachable.sound {d : Display} (reached : Reachable d) : d.Sound := by
  induction reached with
  | create bytesPerPixel =>
      intro i s found
      simp [Display.create] at found
  | operation _ o ih => exact ih.apply o

end Display

end GuestDebugger
