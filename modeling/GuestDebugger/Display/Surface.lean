import GuestDebugger.Bytes
import GuestDebugger.Display.Error

/-! # Pixel buffers and surfaces

A pixel buffer is a rectangle of pixels in rows. A surface shows a front buffer; a primary surface
has a back buffer of the same shape beside it, which is drawn to and then presented. -/

namespace GuestDebugger

/-- A rectangle of pixels, row by row. -/
@[ext] structure PixelBuffer where
  /-- The number of pixels in a row. -/
  width : UInt32
  /-- The number of rows. -/
  height : UInt32
  /-- The number of bytes in a pixel. -/
  bytesPerPixel : UInt32
  /-- The bytes of all pixels. -/
  pixels : ByteArray

/-- The number of bytes that one buffer may take. -/
def maxBufferBytes : Nat := 64 * 1024 * 1024

/-- A rectangle of pixels taken out of a buffer. -/
structure PixelRect where
  /-- The number of pixels in a row. -/
  width : Nat
  /-- The number of rows. -/
  height : Nat
  /-- The bytes of all pixels, row by row. -/
  pixels : ByteArray

namespace PixelBuffer

/-- The number of bytes of a buffer, if it is not too large. -/
def byteLength (width height bytesPerPixel : UInt32) : Except DisplayError Nat :=
  let length := width.toNat * height.toNat * bytesPerPixel.toNat
  if length ≤ maxBufferBytes then .ok length else .error (.tooLarge width height)

/-- A buffer of zeros. -/
def create (width height bytesPerPixel : UInt32) : Except DisplayError PixelBuffer :=
  (byteLength width height bytesPerPixel).map fun length =>
    { width, height, bytesPerPixel, pixels := Bytes.replicate length 0 }

/-- Replaces all pixels. -/
def write (b : PixelBuffer) (pixels : ByteArray) : Except DisplayError PixelBuffer :=
  if pixels.size = b.pixels.size then .ok { b with pixels }
  else .error (.sizeMismatch b.pixels.size pixels.size)

/-- The number of bytes in a row. -/
def stride (b : PixelBuffer) : Nat := b.width.toNat * b.bytesPerPixel.toNat

/-- Where a pixel begins. -/
def offset (b : PixelBuffer) (x y : Nat) : Nat := y * b.stride + x * b.bytesPerPixel.toNat

/-- The bytes of the pixel at a column and a row. -/
def pixel (b : PixelBuffer) (x y : Nat) : ByteArray :=
  b.pixels.extract (b.offset x y) (b.offset x y + b.bytesPerPixel.toNat)

/-- Takes out a rectangle, clipped to the buffer. -/
def readRect (b : PixelBuffer) (x y width height : Nat) : PixelRect :=
  let width := min width (b.width.toNat - x)
  let height := min height (b.height.toNat - y)
  let rowLength := width * b.bytesPerPixel.toNat
  if width = 0 ∨ height = 0 then ⟨0, 0, .empty⟩
  else
    { width, height
      pixels := height.fold (fun row _ rows =>
        rows ++ b.pixels.extract (b.offset x (y + row)) (b.offset x (y + row) + rowLength)) .empty }

/-- Puts a rectangle in place, clipped to the buffer. Rows keep the length they had when they were
taken out. -/
def writeRect (b : PixelBuffer) (x y : Nat) (rect : PixelRect) : PixelBuffer :=
  let width := min rect.width (b.width.toNat - x)
  let height := min rect.height (b.height.toNat - y)
  if width = 0 ∨ height = 0 then b
  else
    { b with
      pixels := height.fold (fun row _ pixels =>
        rect.pixels.copySlice (row * (rect.width * b.bytesPerPixel.toNat)) pixels
          (b.offset x (y + row)) (width * b.bytesPerPixel.toNat)) b.pixels }

end PixelBuffer

/-- What a window shows, or a drawing that no window shows. -/
@[ext] structure Surface where
  /-- The pixels that are shown. -/
  front : PixelBuffer
  /-- The pixels that are drawn to, in a primary surface. -/
  back : Option PixelBuffer

namespace Surface

/-- A black surface. A primary one has a back buffer of the same shape. -/
def create (width height bytesPerPixel : UInt32) (primary : Bool) :
    Except DisplayError Surface := do
  let front ← PixelBuffer.create width height bytesPerPixel
  return { front, back := if primary then some front else none }

/-- Whether the surface is a primary one. -/
def isPrimary (s : Surface) : Bool := s.back.isSome

/-- Presents the back buffer: its pixels are copied to the front buffer. -/
def flip (s : Surface) : Except DisplayError Surface :=
  match s.back with
  | some back => .ok { s with front := { s.front with pixels := back.pixels } }
  | none => .error .noBackBuffer

end Surface

end GuestDebugger
