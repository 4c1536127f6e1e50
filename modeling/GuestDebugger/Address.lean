import GuestDebugger.Text.Hex
import GuestDebugger.Text.Numeral

/-! # Guest addresses

An address is a word of 32 bits. It is written with `0x` and eight hexadecimal digits, and read
from hexadecimal digits with or without `0x` or `0X` in front. -/

namespace GuestDebugger

/-- A guest address. -/
abbrev Address := UInt32

namespace Address

/-- The characters after one `0x` or `0X`, if the text starts with either. -/
def afterMark? : List Char → Option (List Char)
  | '0' :: 'x' :: digits => some digits
  | '0' :: 'X' :: digits => some digits
  | _ => none

/-- Reads an address from hexadecimal digits. -/
def read? (text : List Char) : Option Address :=
  (Text.readUInt32 16 ((afterMark? text).getD text)).toOption

/-- Reads an address from a text. -/
def parse? (text : String) : Option Address := read? text.toList

/-- The eight hexadecimal digits of an address. -/
def digits (a : Address) : String := Text.paddedHex 8 a.toNat

/-- The full written form of an address. -/
def text (a : Address) : String := "0x" ++ digits a

end Address

end GuestDebugger
