import GuestDebugger.Except.Lemmas
import GuestDebugger.Proofs.Display.Failures

/-! # Filling, presenting and creating

When the calls by which a guest draws fail, told by what is on the display, and what a buffer shows
after all its pixels were replaced by copies of one byte. -/

namespace GuestDebugger

/-- The bytes that a new surface takes are as many as can be computed, or too many. -/
theorem Surface.create_fails_iff (width height bytesPerPixel : UInt32) (primary : Bool) :
    (∃ e, Surface.create width height bytesPerPixel primary = .error e) ↔
      maxBufferBytes < width.toNat * height.toNat * bytesPerPixel.toNat := by
  simp only [create, PixelBuffer.create, PixelBuffer.byteLength]
  by_cases small : width.toNat * height.toNat * bytesPerPixel.toNat ≤ maxBufferBytes
  · rw [if_pos small]
    constructor
    · rintro ⟨e, failed⟩
      cases failed
    · intro large
      exact absurd small (Nat.not_le_of_lt large)
  · rw [if_neg small]
    exact ⟨fun _ => Nat.lt_of_not_le small, fun _ => ⟨_, rfl⟩⟩

theorem Surface.size_of_create {width height bytesPerPixel : UInt32} {primary : Bool} {s : Surface}
    (created : create width height bytesPerPixel primary = .ok s) :
    s.front.width = width ∧ s.front.height = height := by
  obtain ⟨front, buffer, created⟩ := Except.exists_ok_of_bind created
  cases created
  obtain ⟨-, width, height, -⟩ := PixelBuffer.sound_create buffer
  exact ⟨width, height⟩

namespace Display

variable {d : Display} {handle : SurfaceHandle} {s : Surface}

theorem createSurface_fails_iff (width height : UInt32) (primary : Bool) :
    (∃ e, (d.createSurface width height primary).1 = .error e) ↔
      maxBufferBytes < width.toNat * height.toNat * d.bytesPerPixel.toNat := by
  rw [← Surface.create_fails_iff width height d.bytesPerPixel primary, createSurface]
  cases Surface.create width height d.bytesPerPixel primary with
  | error e => exact ⟨fun _ => ⟨e, rfl⟩, fun _ => ⟨e, rfl⟩⟩
  | ok s =>
      constructor
      · rintro ⟨e, failed⟩
        cases failed
      · rintro ⟨e, failed⟩
        cases failed

/-- Only the back buffer of a surface that has one can be presented. -/
theorem flip_fails_iff (own : handle.attached = false) (found : d.owner handle = .ok s) :
    (∃ e, (d.flip handle).1 = .error e) ↔ s.isPrimary = false := by
  rw [flip, own, found]
  cases back : s.back with
  | none =>
      simp [Except.bind, Surface.flip, Surface.isPrimary, back]
  | some b =>
      simp [Except.bind, Surface.flip, Surface.isPrimary, back]

/-! ### Filling a buffer -/

/-- The buffer of a surface that is drawn to: the back buffer, if there is one. -/
def drawn (handle : SurfaceHandle) (s : Surface) : SurfaceHandle :=
  if s.isPrimary then { handle with attached := true } else handle

/-- What a display is after a buffer was filled with a byte. -/
structure Filled (d : Display) (target : SurfaceHandle) (byte : UInt8) (after : Display) :
    Prop where
  /-- The target keeps its shape and shows the byte everywhere. -/
  pixels : ∃ old b, d.buffer target = .ok old ∧ after.buffer target = .ok b ∧ b.SameShape old ∧
    b.pixels.size = old.pixels.size ∧ ∀ i < b.pixels.size, b.pixels[i]? = some byte
  /-- Every other handle means the buffer that it meant, or none. -/
  others : ∀ other, other ≠ target → after.buffer other = d.buffer other
  surfaces : after.surfaces.size = d.surfaces.size
  windows : after.windows = d.windows
  bytesPerPixel : after.bytesPerPixel = d.bytesPerPixel

theorem filled_writePixels {target : SurfaceHandle} {old : PixelBuffer}
    (there : d.buffer target = .ok old) (byte : UInt8) :
    ∃ after, d.writePixels target (Bytes.replicate old.pixels.size byte) = (.ok (), after) ∧
      d.Filled target byte after := by
  have written : old.write (Bytes.replicate old.pixels.size byte) =
      .ok { old with pixels := Bytes.replicate old.pixels.size byte } :=
    if_pos (Bytes.size_replicate _ _)
  have done : (d.buffer target).bind (·.write (Bytes.replicate old.pixels.size byte)) =
      .ok { old with pixels := Bytes.replicate old.pixels.size byte } := by
    rw [there]
    exact written
  refine ⟨_, by rw [writePixels, done], ?_⟩
  constructor
  · refine ⟨old, _, there, buffer_setBuffer there, ⟨rfl, rfl, rfl⟩, Bytes.size_replicate _ _, ?_⟩
    intro i inside
    rw [Bytes.size_replicate] at inside
    exact Bytes.getElem?_replicate inside byte
  · intro other ne
    exact buffer_setBuffer_of_ne ne
  · exact Array.size_modify
  · rfl
  · rfl

/-- The drawn buffer of a surface of a sound display has the shape of the surface. -/
theorem Sound.exists_drawn (sound : d.Sound) (own : handle.attached = false)
    (found : d.owner handle = .ok s) :
    ∃ b, d.buffer (drawn handle s) = .ok b ∧ b.Sound ∧ b.SameShape s.front := by
  have found := owner_eq_ok_iff.1 found
  obtain ⟨whole, -⟩ := sound _ s found
  cases back : s.back with
  | none =>
      have plain : drawn handle s = handle := by simp [drawn, Surface.isPrimary, back]
      rw [plain]
      exact ⟨s.front, buffer_eq_ok_iff.2 ⟨s, found, by simp [part, own]⟩, whole.front, .refl _⟩
  | some b =>
      have primary : drawn handle s = { handle with attached := true } := by
        simp [drawn, Surface.isPrimary, back]
      obtain ⟨kept, shape⟩ := whole.back b back
      rw [primary]
      exact ⟨b, buffer_eq_ok_iff.2 ⟨s, found, by simp [part, back]⟩, kept, shape⟩

end Display

end GuestDebugger
