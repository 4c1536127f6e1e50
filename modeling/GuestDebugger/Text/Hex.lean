/-! # Hexadecimal texts

Numbers in base sixteen with lower-case digits, as they are or filled with zeros to a width. -/

namespace GuestDebugger.Text

/-- The hexadecimal digits of a number, without leading zeros. -/
def hexDigits (n : Nat) : List Char := Nat.toDigits 16 n

/-- The hexadecimal digits of a number, with zeros in front up to the given width. -/
def paddedHexDigits (width n : Nat) : List Char :=
  List.replicate (width - (hexDigits n).length) '0' ++ hexDigits n

/-- The hexadecimal text of a number. -/
def hex (n : Nat) : String := String.ofList (hexDigits n)

/-- The hexadecimal text of a number, with zeros in front up to the given width. -/
def paddedHex (width n : Nat) : String := String.ofList (paddedHexDigits width n)

end GuestDebugger.Text
