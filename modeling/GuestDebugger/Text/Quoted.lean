import GuestDebugger.Text.Hex
import GuestDebugger.Text.Unprintable

/-! # Quoted texts

A quoted text stands between double quotes. Quotes, backslashes and five control characters have
short escapes; combining marks and characters without a printed form are written by their code
point. All other characters stand for themselves. -/

namespace GuestDebugger.Text

/-- The written form of a character given by its code point. -/
def codePointEscape (c : Char) : List Char :=
  '\\' :: 'u' :: '{' :: hexDigits c.toNat ++ ['}']

/-- The written form of a character inside quotes. -/
def quotedChar (c : Char) : List Char :=
  match c with
  | '\x00' => ['\\', '0']
  | '\t' => ['\\', 't']
  | '\r' => ['\\', 'r']
  | '\n' => ['\\', 'n']
  | '"' => ['\\', '"']
  | '\\' => ['\\', '\\']
  | c =>
    if ' ' ≤ c ∧ c ≤ '~' then [c]
    else if isGraphemeExtend c || isUnprintable c then codePointEscape c
    else [c]

/-- The quoted form of a sequence of characters. -/
def quotedChars (cs : List Char) : List Char := '"' :: cs.flatMap quotedChar ++ ['"']

/-- The quoted form of a text. -/
def quoted (text : String) : String := String.ofList (quotedChars text.toList)

end GuestDebugger.Text
