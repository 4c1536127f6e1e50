import GuestDebugger.Bytes.Lemmas
import GuestDebugger.Display.Surface

/-! # Rectangles of pixels

A rectangle that is taken out of a buffer holds the pixels of the buffer from its corner on, as far
as there are any. Put in place, it changes the pixels under it and no others. In a buffer with a
byte for each byte of each pixel, no row that is taken or put in place reaches beyond its end.

## Implementation notes

Rows are counted from the first one. A byte of the buffer is found by its row and its column of
bytes, and a column lies before the end of its row, so rows do not meet. -/

namespace GuestDebugger

/-- A byte of one row belongs to a stretch of another row only if the rows are the same. -/
theorem mem_stretch_iff {stride p q c d length : Nat} (inRow : c < stride)
    (fits : d + length ≤ stride) :
    (q * stride + d ≤ p * stride + c ∧ p * stride + c < q * stride + d + length) ↔
      p = q ∧ d ≤ c ∧ c < d + length := by
  rcases Nat.lt_trichotomy p q with less | rfl | more
  · have above : (p + 1) * stride ≤ q * stride := Nat.mul_le_mul_right stride less
    rw [Nat.succ_mul] at above
    omega
  · omega
  · have below : (q + 1) * stride ≤ p * stride := Nat.mul_le_mul_right stride more
    rw [Nat.succ_mul] at below
    omega

/-- A row of a rectangle ends before the rectangle does. -/
theorem row_end_le {rows row length : Nat} (inside : row < rows) :
    row * length + length ≤ rows * length := by
  have next : (row + 1) * length ≤ rows * length := Nat.mul_le_mul_right length inside
  rwa [Nat.succ_mul] at next

/-- A byte of a pixel belongs to a stretch of pixels if its pixel does. -/
theorem mem_pixels_iff {bytesPerPixel u k x w : Nat} (inPixel : k < bytesPerPixel) :
    (x * bytesPerPixel ≤ u * bytesPerPixel + k ∧
      u * bytesPerPixel + k < x * bytesPerPixel + w * bytesPerPixel) ↔ x ≤ u ∧ u < x + w := by
  rw [← Nat.add_mul]
  constructor
  · rintro ⟨start, stop⟩
    constructor
    · apply Nat.le_of_not_lt
      intro less
      have before : u * bytesPerPixel + bytesPerPixel ≤ x * bytesPerPixel := row_end_le less
      omega
    · apply Nat.lt_of_not_le
      intro more
      have beyond : (x + w) * bytesPerPixel ≤ u * bytesPerPixel := Nat.mul_le_mul_right _ more
      omega
  · rintro ⟨left, right⟩
    have start : x * bytesPerPixel ≤ u * bytesPerPixel := Nat.mul_le_mul_right _ left
    have stop : u * bytesPerPixel + bytesPerPixel ≤ (x + w) * bytesPerPixel := row_end_le right
    omega

/-- The bytes of the pixel at a column and a row of a rectangle. -/
def PixelRect.pixel (rect : PixelRect) (bytesPerPixel i j : Nat) : ByteArray :=
  let start := j * (rect.width * bytesPerPixel) + i * bytesPerPixel
  rect.pixels.extract start (start + bytesPerPixel)

/-- The bytes of a pixel of a rectangle. -/
theorem PixelRect.getElem?_pixel {rect : PixelRect} {bytesPerPixel : Nat}
    (size : rect.pixels.size = rect.height * (rect.width * bytesPerPixel)) {i j : Nat}
    (column : i < rect.width) (row : j < rect.height) (k : Nat) :
    (rect.pixel bytesPerPixel i j)[k]? =
      if k < bytesPerPixel then
        rect.pixels[j * (rect.width * bytesPerPixel) + i * bytesPerPixel + k]?
      else none := by
  have inRow : i * bytesPerPixel + bytesPerPixel ≤ rect.width * bytesPerPixel := row_end_le column
  have last : j * (rect.width * bytesPerPixel) + rect.width * bytesPerPixel ≤
      rect.height * (rect.width * bytesPerPixel) := row_end_le row
  rw [PixelRect.pixel, Bytes.getElem?_extract_of_le (by omega)]

namespace PixelBuffer

variable {b : PixelBuffer}

/-- A buffer with exactly the bytes of its pixels, and not too many. -/
structure Sound (b : PixelBuffer) : Prop where
  size_eq : b.pixels.size = b.height.toNat * b.stride
  size_le : b.pixels.size ≤ maxBufferBytes

theorem Sound.size_eq_mul (sound : b.Sound) :
    b.pixels.size = b.width.toNat * b.height.toNat * b.bytesPerPixel.toNat := by
  rw [sound.size_eq, stride, Nat.mul_left_comm, Nat.mul_assoc]

theorem Sound.byteLength_eq (sound : b.Sound) :
    byteLength b.width b.height b.bytesPerPixel = .ok b.pixels.size := by
  rw [byteLength, ← sound.size_eq_mul, if_pos sound.size_le]

/-- A stretch of pixels in a row that is there lies inside the buffer. -/
theorem Sound.row_le (sound : b.Sound) {x y width : Nat} (column : x + width ≤ b.width.toNat)
    (row : y < b.height.toNat) :
    b.offset x y + width * b.bytesPerPixel.toNat ≤ b.pixels.size := by
  have inRow : (x + width) * b.bytesPerPixel.toNat ≤ b.stride :=
    Nat.mul_le_mul_right _ column
  have last : y * b.stride + b.stride ≤ b.height.toNat * b.stride := row_end_le row
  rw [Nat.add_mul] at inRow
  rw [sound.size_eq, offset]
  omega

/-- The rows that a rectangle has after clipping it to a buffer lie inside the buffer. -/
theorem Sound.rows_le (sound : b.Sound) {x y width height w h : Nat}
    (columns : min width (b.width.toNat - x) = w) (lines : min height (b.height.toNat - y) = h)
    (nonempty : ¬(w = 0 ∨ h = 0)) :
    ∀ row < h, b.offset x (y + row) + w * b.bytesPerPixel.toNat ≤ b.pixels.size := by
  intro row less
  apply sound.row_le
  · omega
  · omega

/-- The bytes of a pixel that is there. -/
theorem Sound.getElem?_pixel (sound : b.Sound) {x y : Nat} (column : x < b.width.toNat)
    (row : y < b.height.toNat) (k : Nat) :
    (b.pixel x y)[k]? =
      if k < b.bytesPerPixel.toNat then b.pixels[b.offset x y + k]? else none := by
  have inside : b.offset x y + 1 * b.bytesPerPixel.toNat ≤ b.pixels.size := sound.row_le column row
  rw [Nat.one_mul] at inside
  rw [pixel, Bytes.getElem?_extract_of_le inside]

/-! ### Taking a rectangle out -/

/-- The first rows of a rectangle that is taken out. -/
def rowsFrom (b : PixelBuffer) (x y length rows : Nat) : ByteArray :=
  rows.fold (fun row _ taken =>
    taken ++ b.pixels.extract (b.offset x (y + row)) (b.offset x (y + row) + length)) .empty

/-- The first rows of a rectangle, if all of them are there. -/
def rowsFrom? (b : PixelBuffer) (x y length : Nat) : (rows : Nat) → Option ByteArray
  | 0 => some .empty
  | rows + 1 => do
    let taken ← b.rowsFrom? x y length rows
    return taken ++ (← Bytes.slice? b.pixels (b.offset x (y + rows)) length)

/-- Takes a rectangle out like `readRect`, but fails at a row that is not there. -/
def readRect? (b : PixelBuffer) (x y width height : Nat) : Option PixelRect :=
  let width := min width (b.width.toNat - x)
  let height := min height (b.height.toNat - y)
  if width = 0 ∨ height = 0 then some ⟨0, 0, .empty⟩
  else (b.rowsFrom? x y (width * b.bytesPerPixel.toNat) height).map (⟨width, height, ·⟩)

theorem rowsFrom_succ (b : PixelBuffer) (x y length rows : Nat) :
    b.rowsFrom x y length (rows + 1) = b.rowsFrom x y length rows ++
      b.pixels.extract (b.offset x (y + rows)) (b.offset x (y + rows) + length) :=
  Nat.fold_succ _ _ _

section Rows

variable {x y length : Nat}

theorem rowsFrom?_eq {rows : Nat}
    (inside : ∀ row < rows, b.offset x (y + row) + length ≤ b.pixels.size) :
    b.rowsFrom? x y length rows = some (b.rowsFrom x y length rows) := by
  induction rows with
  | zero => rfl
  | succ rows ih =>
      have before := ih fun row less => inside row (by omega)
      have last := Bytes.slice?_of_le (inside rows (Nat.lt_succ_self rows))
      rw [rowsFrom?, before, rowsFrom_succ, last]
      rfl

theorem size_rowsFrom {rows : Nat}
    (inside : ∀ row < rows, b.offset x (y + row) + length ≤ b.pixels.size) :
    (b.rowsFrom x y length rows).size = rows * length := by
  induction rows with
  | zero => rw [Nat.zero_mul]; rfl
  | succ rows ih =>
      have before := ih fun row less => inside row (by omega)
      have last := inside rows (Nat.lt_succ_self rows)
      rw [rowsFrom_succ, ByteArray.size_append, before, ByteArray.size_extract, Nat.succ_mul]
      omega

/-- The rows stand one after the other; the induction adds the last one. -/
theorem getElem?_rowsFrom {rows : Nat}
    (inside : ∀ row < rows, b.offset x (y + row) + length ≤ b.pixels.size) {row k : Nat}
    (there : row < rows) (inRow : k < length) :
    (b.rowsFrom x y length rows)[row * length + k]? = b.pixels[b.offset x (y + row) + k]? := by
  induction rows with
  | zero => omega
  | succ rows ih =>
      have earlier : ∀ row < rows, b.offset x (y + row) + length ≤ b.pixels.size :=
        fun row less => inside row (by omega)
      rw [rowsFrom_succ, Bytes.getElem?_append, size_rowsFrom earlier]
      by_cases less : row < rows
      · have before : row * length + length ≤ rows * length := row_end_le less
        rw [if_pos (by omega), ih earlier less]
      · obtain rfl : row = rows := by omega
        have last := inside row there
        have place : row * length + k - row * length = k := by omega
        rw [if_neg (by omega), place, Bytes.getElem?_extract_of_le last, if_pos inRow]

end Rows

/-- What a rectangle has that was taken out of a buffer. -/
structure TakenFrom (b : PixelBuffer) (x y : Nat) (rect : PixelRect) : Prop where
  /-- It has exactly the bytes of its pixels. -/
  size : rect.pixels.size = rect.height * (rect.width * b.bytesPerPixel.toNat)
  /-- Its pixels are those of the buffer. -/
  pixel : ∀ i < rect.width, ∀ j < rect.height,
    rect.pixel b.bytesPerPixel.toNat i j = b.pixel (x + i) (y + j)

/-- Which pixels a rectangle has: those that were asked for and are there. -/
theorem mem_readRect_iff (b : PixelBuffer) (x y width height i j : Nat) :
    (i < (b.readRect x y width height).width ∧ j < (b.readRect x y width height).height) ↔
      i < width ∧ j < height ∧ x + i < b.width.toNat ∧ y + j < b.height.toNat := by
  simp only [readRect]
  split
  · simp only [Nat.not_lt_zero, false_and, false_iff]
    omega
  · dsimp only
    omega

theorem Sound.takenFrom_readRect (sound : b.Sound) (x y width height : Nat) :
    b.TakenFrom x y (b.readRect x y width height) := by
  simp only [readRect]
  split
  · refine ⟨?_, fun i less => absurd less (Nat.not_lt_zero i)⟩
    rw [Nat.zero_mul]
    rfl
  · rename_i nonempty
    generalize columns : min width (b.width.toNat - x) = w at nonempty ⊢
    generalize lines : min height (b.height.toNat - y) = h at nonempty ⊢
    have rows := sound.rows_le columns lines nonempty
    have size := size_rowsFrom rows
    refine ⟨size, ?_⟩
    intro i hi j hj
    apply Bytes.eq_of_getElem?_eq
    intro k
    have there : x + i < b.width.toNat ∧ y + j < b.height.toNat := by
      dsimp only at hi hj
      omega
    rw [sound.getElem?_pixel there.1 there.2, PixelRect.getElem?_pixel size hi hj]
    split
    · rename_i inPixel
      have inRow : i * b.bytesPerPixel.toNat + k < w * b.bytesPerPixel.toNat := by
        have next : i * b.bytesPerPixel.toNat + b.bytesPerPixel.toNat ≤
            w * b.bytesPerPixel.toNat := row_end_le hi
        omega
      have byte := getElem?_rowsFrom rows hj inRow
      have place : b.offset (x + i) (y + j) =
          b.offset x (y + j) + i * b.bytesPerPixel.toNat := by
        rw [offset, offset, Nat.add_mul x i, Nat.add_assoc]
      rw [place, Nat.add_assoc, Nat.add_assoc]
      exact byte
    · rfl

theorem Sound.readRect?_eq (sound : b.Sound) (x y width height : Nat) :
    b.readRect? x y width height = some (b.readRect x y width height) := by
  simp only [readRect?, readRect]
  split
  · rfl
  · rename_i nonempty
    rw [rowsFrom?_eq (sound.rows_le rfl rfl nonempty)]
    rfl

/-! ### Putting a rectangle in place -/

/-- The bytes of a buffer after the first rows of a rectangle were put in place. -/
def rowsPlaced (b : PixelBuffer) (x y : Nat) (rect : PixelRect) (length rows : Nat) : ByteArray :=
  rows.fold (fun row _ placed =>
    rect.pixels.copySlice (row * (rect.width * b.bytesPerPixel.toNat)) placed
      (b.offset x (y + row)) length) b.pixels

/-- The bytes of a buffer after the first rows of a rectangle were put in place, if the rows are
there in both. -/
def rowsPlaced? (b : PixelBuffer) (x y : Nat) (rect : PixelRect) (length : Nat) :
    (rows : Nat) → Option ByteArray
  | 0 => some b.pixels
  | rows + 1 => do
    Bytes.splice? rect.pixels (rows * (rect.width * b.bytesPerPixel.toNat))
      (← b.rowsPlaced? x y rect length rows) (b.offset x (y + rows)) length

/-- Puts a rectangle in place like `writeRect`, but fails at a row that is not there. -/
def writeRect? (b : PixelBuffer) (x y : Nat) (rect : PixelRect) : Option PixelBuffer :=
  let width := min rect.width (b.width.toNat - x)
  let height := min rect.height (b.height.toNat - y)
  if width = 0 ∨ height = 0 then some b
  else (b.rowsPlaced? x y rect (width * b.bytesPerPixel.toNat) height).map ({ b with pixels := · })

theorem rowsPlaced_succ (b : PixelBuffer) (x y : Nat) (rect : PixelRect) (length rows : Nat) :
    b.rowsPlaced x y rect length (rows + 1) =
      rect.pixels.copySlice (rows * (rect.width * b.bytesPerPixel.toNat))
        (b.rowsPlaced x y rect length rows) (b.offset x (y + rows)) length :=
  Nat.fold_succ _ _ _

section Rows

variable {x y length rows : Nat} {rect : PixelRect}

/-- The rows of a rectangle and the places for them are there. -/
structure Fits (b : PixelBuffer) (x y : Nat) (rect : PixelRect) (length rows : Nat) : Prop where
  there : ∀ row < rows, row * (rect.width * b.bytesPerPixel.toNat) + length ≤ rect.pixels.size
  inside : ∀ row < rows, b.offset x (y + row) + length ≤ b.pixels.size

theorem Fits.init (fits : b.Fits x y rect length (rows + 1)) : b.Fits x y rect length rows :=
  ⟨fun row less => fits.there row (by omega), fun row less => fits.inside row (by omega)⟩

theorem size_rowsPlaced (fits : b.Fits x y rect length rows) :
    (b.rowsPlaced x y rect length rows).size = b.pixels.size := by
  induction rows with
  | zero => rfl
  | succ rows ih =>
      have before := ih fits.init
      have last := Nat.lt_succ_self rows
      rw [rowsPlaced_succ, Bytes.size_copySlice (fits.there rows last), before]
      rw [before]
      exact fits.inside rows last

theorem rowsPlaced?_eq (fits : b.Fits x y rect length rows) :
    b.rowsPlaced? x y rect length rows = some (b.rowsPlaced x y rect length rows) := by
  induction rows with
  | zero => rfl
  | succ rows ih =>
      have last := Nat.lt_succ_self rows
      have inside : b.offset x (y + rows) + length ≤ (b.rowsPlaced x y rect length rows).size := by
        rw [size_rowsPlaced fits.init]
        exact fits.inside rows last
      rw [rowsPlaced?, ih fits.init, rowsPlaced_succ]
      exact Bytes.splice?_of_le (fits.there rows last) inside

/-- Each row changes its own stretch of the buffer; the induction adds the last one. -/
theorem getElem?_rowsPlaced (fits : b.Fits x y rect length rows)
    (stretch : x * b.bytesPerPixel.toNat + length ≤ b.stride) (q : Nat) {c : Nat}
    (inRow : c < b.stride) :
    (b.rowsPlaced x y rect length rows)[q * b.stride + c]? =
      if (y ≤ q ∧ q < y + rows) ∧ x * b.bytesPerPixel.toNat ≤ c ∧
          c < x * b.bytesPerPixel.toNat + length then
        rect.pixels[(q - y) * (rect.width * b.bytesPerPixel.toNat) +
          (c - x * b.bytesPerPixel.toNat)]?
      else b.pixels[q * b.stride + c]? := by
  induction rows with
  | zero =>
      have outside : ¬(y ≤ q ∧ q < y + 0) := by omega
      rw [if_neg fun h => outside h.1]
      rfl
  | succ rows ih =>
      have last := Nat.lt_succ_self rows
      have inside : b.offset x (y + rows) + length ≤ (b.rowsPlaced x y rect length rows).size := by
        rw [size_rowsPlaced fits.init]
        exact fits.inside rows last
      have here := mem_stretch_iff (p := q) (q := y + rows) inRow stretch
      rw [rowsPlaced_succ, Bytes.getElem?_copySlice (fits.there rows last) inside, ih fits.init]
      simp only [offset, here]
      by_cases row : q = y + rows
      · subst row
        by_cases column : x * b.bytesPerPixel.toNat ≤ c ∧ c < x * b.bytesPerPixel.toNat + length
        · have now : y ≤ y + rows ∧ y + rows < y + (rows + 1) := by omega
          have place : y + rows - y = rows := by omega
          have place' : (y + rows) * b.stride + c -
              ((y + rows) * b.stride + x * b.bytesPerPixel.toNat) =
                c - x * b.bytesPerPixel.toNat := by omega
          rw [if_pos ⟨rfl, column⟩, if_pos ⟨now, column⟩, place, place']
        · rw [if_neg fun h => column h.2, if_neg fun h => column h.2, if_neg fun h => column h.2]
      · have same : (y ≤ q ∧ q < y + rows) ↔ (y ≤ q ∧ q < y + (rows + 1)) := by omega
        rw [if_neg fun h => row h.1]
        simp only [same]

/-- The same for the bytes of a pixel. -/
theorem getElem?_rowsPlaced_pixel {w u k : Nat}
    (fits : b.Fits x y rect (w * b.bytesPerPixel.toNat) rows) (columns : x + w ≤ b.width.toNat)
    (column : u < b.width.toNat) (v : Nat) (inPixel : k < b.bytesPerPixel.toNat) :
    (b.rowsPlaced x y rect (w * b.bytesPerPixel.toNat) rows)[v * b.stride +
        (u * b.bytesPerPixel.toNat + k)]? =
      if (y ≤ v ∧ v < y + rows) ∧ x ≤ u ∧ u < x + w then
        rect.pixels[(v - y) * (rect.width * b.bytesPerPixel.toNat) +
          (u * b.bytesPerPixel.toNat + k - x * b.bytesPerPixel.toNat)]?
      else b.pixels[v * b.stride + (u * b.bytesPerPixel.toNat + k)]? := by
  have stretch : x * b.bytesPerPixel.toNat + w * b.bytesPerPixel.toNat ≤ b.stride := by
    rw [← Nat.add_mul]
    exact Nat.mul_le_mul_right _ columns
  have inRow : u * b.bytesPerPixel.toNat + b.bytesPerPixel.toNat ≤ b.stride := row_end_le column
  rw [getElem?_rowsPlaced fits stretch v (by omega)]
  simp only [mem_pixels_iff inPixel]

end Rows

/-- What a buffer is after a rectangle was put in place. -/
structure PlacedIn (b : PixelBuffer) (x y : Nat) (rect : PixelRect) (b' : PixelBuffer) : Prop where
  width : b'.width = b.width
  height : b'.height = b.height
  bytesPerPixel : b'.bytesPerPixel = b.bytesPerPixel
  size : b'.pixels.size = b.pixels.size
  /-- Under the rectangle there are its pixels, elsewhere the old ones. -/
  pixel : ∀ u < b.width.toNat, ∀ v < b.height.toNat,
    b'.pixel u v =
      if (x ≤ u ∧ u < x + rect.width) ∧ (y ≤ v ∧ v < y + rect.height) then
        rect.pixel b.bytesPerPixel.toNat (u - x) (v - y)
      else b.pixel u v

/-- A rectangle with the bytes of its pixels fits after clipping. -/
theorem Sound.fits (sound : b.Sound) {x y w h : Nat} {rect : PixelRect}
    (size : rect.pixels.size = rect.height * (rect.width * b.bytesPerPixel.toNat))
    (columns : min rect.width (b.width.toNat - x) = w)
    (lines : min rect.height (b.height.toNat - y) = h) (nonempty : ¬(w = 0 ∨ h = 0)) :
    b.Fits x y rect (w * b.bytesPerPixel.toNat) h where
  there row less := by
    have clipped : w * b.bytesPerPixel.toNat ≤ rect.width * b.bytesPerPixel.toNat :=
      Nat.mul_le_mul_right _ (by omega)
    have last : row * (rect.width * b.bytesPerPixel.toNat) +
        rect.width * b.bytesPerPixel.toNat ≤
          rect.height * (rect.width * b.bytesPerPixel.toNat) := row_end_le (by omega)
    omega
  inside := sound.rows_le columns lines nonempty

theorem Sound.writeRect?_eq (sound : b.Sound) (x y : Nat) {rect : PixelRect}
    (size : rect.pixels.size = rect.height * (rect.width * b.bytesPerPixel.toNat)) :
    b.writeRect? x y rect = some (b.writeRect x y rect) := by
  simp only [writeRect?, writeRect]
  split
  · rfl
  · rename_i nonempty
    rw [rowsPlaced?_eq (sound.fits size rfl rfl nonempty)]
    rfl

theorem Sound.placedIn_writeRect (sound : b.Sound) (x y : Nat) {rect : PixelRect}
    (size : rect.pixels.size = rect.height * (rect.width * b.bytesPerPixel.toNat)) :
    b.PlacedIn x y rect (b.writeRect x y rect) := by
  simp only [writeRect]
  split
  · refine ⟨rfl, rfl, rfl, rfl, ?_⟩
    intro u hu v hv
    have outside : ¬((x ≤ u ∧ u < x + rect.width) ∧ (y ≤ v ∧ v < y + rect.height)) := by omega
    rw [if_neg outside]
  · rename_i nonempty
    generalize columns : min rect.width (b.width.toNat - x) = w at nonempty ⊢
    generalize lines : min rect.height (b.height.toNat - y) = h at nonempty ⊢
    have fits := sound.fits size columns lines nonempty
    have same := size_rowsPlaced fits
    refine ⟨rfl, rfl, rfl, same, ?_⟩
    intro u hu v hv
    have clipped : ((y ≤ v ∧ v < y + h) ∧ (x ≤ u ∧ u < x + w)) ↔
        (x ≤ u ∧ u < x + rect.width) ∧ (y ≤ v ∧ v < y + rect.height) := by omega
    let placed : PixelBuffer :=
      { b with pixels := b.rowsPlaced x y rect (w * b.bytesPerPixel.toNat) h }
    have sound' : placed.Sound := ⟨same.trans sound.size_eq, same ▸ sound.size_le⟩
    change placed.pixel u v = _
    apply Bytes.eq_of_getElem?_eq
    intro k
    rw [sound'.getElem?_pixel hu hv]
    by_cases under : (x ≤ u ∧ u < x + rect.width) ∧ (y ≤ v ∧ v < y + rect.height)
    · rw [if_pos under, PixelRect.getElem?_pixel size (by omega) (by omega)]
      split
      · rename_i inPixel
        have found := getElem?_rowsPlaced_pixel fits (by omega) hu v inPixel
        have left : x * b.bytesPerPixel.toNat ≤ u * b.bytesPerPixel.toNat :=
          Nat.mul_le_mul_right _ under.1.1
        have column : u * b.bytesPerPixel.toNat + k - x * b.bytesPerPixel.toNat =
            (u - x) * b.bytesPerPixel.toNat + k := by
          rw [Nat.sub_mul]
          omega
        rw [if_pos (clipped.2 under), column, ← Nat.add_assoc, ← Nat.add_assoc] at found
        exact found
      · rfl
    · rw [if_neg under, sound.getElem?_pixel hu hv]
      split
      · rename_i inPixel
        have found := getElem?_rowsPlaced_pixel fits (by omega) hu v inPixel
        rw [if_neg fun h => under (clipped.1 h), ← Nat.add_assoc] at found
        exact found
      · rfl

/-- A rectangle that was taken out of one buffer is put in place in another one with pixels of the
same size. -/
theorem Sound.placedIn_readRect {source : PixelBuffer} (sound : b.Sound) (whole : source.Sound)
    (bytes : source.bytesPerPixel = b.bytesPerPixel) (x y u v width height : Nat) :
    b.PlacedIn x y (source.readRect u v width height)
      (b.writeRect x y (source.readRect u v width height)) := by
  have taken := whole.takenFrom_readRect u v width height
  exact sound.placedIn_writeRect x y (bytes ▸ taken.size)

end PixelBuffer

end GuestDebugger
