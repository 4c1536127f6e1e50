import GuestDebugger.Proofs.Display.Operations

/-! # Copying rectangles

A copy between any two buffers of a display succeeds. It shows in the target the pixels of the
source as they were before, wherever the rectangle lies on both buffers, and changes nothing else.
Each row that is read or written lies inside its buffer.

## Implementation notes

`copyRect?` is a copy that fails at the first row that is not there. That it gives what `copyRect`
gives says that no row is cut short. -/

namespace GuestDebugger.Display

/-- Copies a rectangle like `copyRect`, but fails at a row that is not there. -/
def copyRect? (d : Display) (t : Transfer) : Option (Result Unit) :=
  match d.buffer t.source, d.buffer t.target with
  | .error e, _ => some (.error e, d)
  | .ok _, .error e => some (.error e, d)
  | .ok source, .ok target => do
    let rect ← source.readRect? t.sourceX.toNat t.sourceY.toNat t.width.toNat t.height.toNat
    let target ← target.writeRect? t.targetX.toNat t.targetY.toNat rect
    return (.ok (), d.setBuffer t.target target)

namespace Transfer

/-- The column of the source that is copied to a column of the target. -/
def sourceColumn (t : Transfer) (x : Nat) : Nat := t.sourceX.toNat + (x - t.targetX.toNat)

/-- The row of the source that is copied to a row of the target. -/
def sourceRow (t : Transfer) (y : Nat) : Nat := t.sourceY.toNat + (y - t.targetY.toNat)

/-- Whether a pixel of the target is copied from the source. Sums do not wrap around. -/
def Covers (t : Transfer) (source : PixelBuffer) (x y : Nat) : Prop :=
  (t.targetX.toNat ≤ x ∧ x < t.targetX.toNat + t.width.toNat) ∧
    (t.targetY.toNat ≤ y ∧ y < t.targetY.toNat + t.height.toNat) ∧
    t.sourceColumn x < source.width.toNat ∧ t.sourceRow y < source.height.toNat

instance (t : Transfer) (source : PixelBuffer) (x y : Nat) : Decidable (t.Covers source x y) :=
  inferInstanceAs (Decidable (_ ∧ _))

end Transfer

/-- What a display is after a rectangle was copied. -/
structure Copied (d : Display) (t : Transfer) (source target : PixelBuffer) (after : Display) :
    Prop where
  /-- The target shows the source where it is covered, and elsewhere what it showed. -/
  pixels : ∃ b, after.buffer t.target = .ok b ∧ b.SameShape target ∧
    b.pixels.size = target.pixels.size ∧
      ∀ x < target.width.toNat, ∀ y < target.height.toNat,
        b.pixel x y =
          if t.Covers source x y then source.pixel (t.sourceColumn x) (t.sourceRow y)
          else target.pixel x y
  /-- Every other handle means the buffer that it meant, or none. -/
  others : ∀ other, other ≠ t.target → after.buffer other = d.buffer other
  surfaces : after.surfaces.size = d.surfaces.size
  windows : after.windows = d.windows
  bytesPerPixel : after.bytesPerPixel = d.bytesPerPixel

section

variable {d : Display} {t : Transfer} {source target : PixelBuffer}

/-- A pixel of the target lies under the rectangle that is put in place exactly if it is covered. -/
theorem mem_rect_iff_covers (t : Transfer) (source : PixelBuffer) (x y : Nat) :
    let rect := source.readRect t.sourceX.toNat t.sourceY.toNat t.width.toNat t.height.toNat
    ((t.targetX.toNat ≤ x ∧ x < t.targetX.toNat + rect.width) ∧
        (t.targetY.toNat ≤ y ∧ y < t.targetY.toNat + rect.height)) ↔ t.Covers source x y := by
  intro rect
  have taken : (x - t.targetX.toNat < rect.width ∧ y - t.targetY.toNat < rect.height) ↔ _ :=
    source.mem_readRect_iff t.sourceX.toNat t.sourceY.toNat t.width.toNat t.height.toNat
      (x - t.targetX.toNat) (y - t.targetY.toNat)
  simp only [Transfer.Covers, Transfer.sourceColumn, Transfer.sourceRow]
  constructor
  · rintro ⟨⟨left, right⟩, top, bottom⟩
    have inside := taken.1 ⟨by omega, by omega⟩
    omega
  · rintro ⟨⟨left, right⟩, ⟨top, bottom⟩, column, row⟩
    have inside := taken.2 ⟨by omega, by omega, column, row⟩
    omega

/-- What a buffer shows after a rectangle of another one was put in place. -/
theorem pixel_writeRect_readRect (whole : source.Sound) (whole' : target.Sound)
    (bytes : source.bytesPerPixel = target.bytesPerPixel) (t : Transfer) {x y : Nat}
    (column : x < target.width.toNat) (row : y < target.height.toNat) :
    (target.writeRect t.targetX.toNat t.targetY.toNat
        (source.readRect t.sourceX.toNat t.sourceY.toNat t.width.toNat t.height.toNat)).pixel x y =
      if t.Covers source x y then source.pixel (t.sourceColumn x) (t.sourceRow y)
      else target.pixel x y := by
  have placed := whole'.placedIn_readRect whole bytes t.targetX.toNat t.targetY.toNat
    t.sourceX.toNat t.sourceY.toNat t.width.toNat t.height.toNat
  have taken := whole.takenFrom_readRect t.sourceX.toNat t.sourceY.toNat t.width.toNat
    t.height.toNat
  have under := mem_rect_iff_covers t source x y
  dsimp only at under
  rw [placed.pixel x column y row]
  by_cases covered : t.Covers source x y
  · have inside := under.2 covered
    rw [if_pos inside, if_pos covered, ← bytes]
    exact taken.pixel _ (by omega) _ (by omega)
  · rw [if_neg fun inside => covered (under.1 inside), if_neg covered]

theorem Sound.copyRect?_eq (sound : d.Sound) (t : Transfer) :
    d.copyRect? t = some (d.copyRect t) := by
  simp only [Display.copyRect?, Display.copyRect]
  cases readable : d.buffer t.source with
  | error e => rfl
  | ok source =>
      cases writable : d.buffer t.target with
      | error e => rfl
      | ok target =>
          obtain ⟨whole, bytes⟩ := sound.buffer readable
          obtain ⟨whole', bytes'⟩ := sound.buffer writable
          have taken := whole.takenFrom_readRect t.sourceX.toNat t.sourceY.toNat t.width.toNat
            t.height.toNat
          have size := bytes.trans bytes'.symm ▸ taken.size
          dsimp only
          rw [whole.readRect?_eq, Option.bind_eq_bind, Option.bind_some,
            whole'.writeRect?_eq _ _ size]
          rfl

/-- A copy between two buffers of a display succeeds without leaving either, is exact in every
pixel, and changes nothing but the target. -/
theorem copyRect_exact (reached : d.Reachable) (readable : d.buffer t.source = .ok source)
    (writable : d.buffer t.target = .ok target) :
    ∃ after, d.copyRect t = (.ok (), after) ∧ d.copyRect? t = some (.ok (), after) ∧
      d.Copied t source target after := by
  have sound := reached.sound
  obtain ⟨whole, bytes⟩ := sound.buffer readable
  obtain ⟨whole', bytes'⟩ := sound.buffer writable
  have same := bytes.trans bytes'.symm
  have placed := whole'.placedIn_readRect whole same t.targetX.toNat t.targetY.toNat
    t.sourceX.toNat t.sourceY.toNat t.width.toNat t.height.toNat
  have done : d.copyRect t = (.ok (), d.setBuffer t.target (target.writeRect t.targetX.toNat
      t.targetY.toNat (source.readRect t.sourceX.toNat t.sourceY.toNat t.width.toNat
        t.height.toNat))) := by
    simp only [copyRect, readable, writable]
  refine ⟨_, done, (sound.copyRect?_eq t).trans (congrArg some done), ?_⟩
  constructor
  · refine ⟨_, buffer_setBuffer writable, placed.sameShape, placed.size, ?_⟩
    intro x column y row
    exact pixel_writeRect_readRect whole whole' same t column row
  · intro other ne
    exact buffer_setBuffer_of_ne ne
  · exact Array.size_modify
  · rfl
  · rfl

/-- A row that is shifted within one back buffer, the rectangle reaching far beyond it. -/
theorem copyRect_exact_overlapping :
    let back : SurfaceHandle := { index := 0, attached := true }
    let d := ((create 1).apply (.createSurface 4 1 true)).apply (.writePixels back ⟨#[1, 2, 3, 4]⟩)
    let b : PixelBuffer := ⟨4, 1, 1, ⟨#[1, 2, 3, 4]⟩⟩
    let t : Transfer := ⟨back, 1, 0, back, 0, 0, 0xffffffff, 0xffffffff⟩
    Reachable d ∧ d.buffer back = .ok b ∧
      ∃ after, d.copyRect t = (.ok (), after) ∧ d.copyRect? t = some (.ok (), after) ∧
        d.Copied t b b after := by
  intro back d b t
  have reached : Reachable d := (Reachable.create 1).operation _ |>.operation _
  have there : d.buffer back = .ok b := rfl
  exact ⟨reached, there, copyRect_exact reached there there⟩

end

end GuestDebugger.Display
