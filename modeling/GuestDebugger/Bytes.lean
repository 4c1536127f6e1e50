import GuestDebugger.Text.Hex

/-! # Byte sequences

Filled byte sequences and the hexadecimal form of single bytes. -/

namespace GuestDebugger.Bytes

/-- Adds copies of a byte at the end. -/
def pushCopies (b : UInt8) : Nat → ByteArray → ByteArray
  | 0, bytes => bytes
  | n + 1, bytes => pushCopies b n (bytes.push b)

/-- Copies of one byte. -/
def replicate (n : Nat) (b : UInt8) : ByteArray := pushCopies b n (ByteArray.emptyWithCapacity n)

/-- The two hexadecimal digits of a byte. -/
def hex (b : UInt8) : String := Text.paddedHex 2 b.toNat

end GuestDebugger.Bytes
