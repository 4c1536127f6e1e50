/-! # Numerals

Unsigned and signed whole numbers in a base up to sixteen. A plus sign may stand in front of the
digits, and blanks nowhere. A numeral is refused at the first character that is no digit or that
takes the value out of range; of two such faults at one character the former counts. -/

namespace GuestDebugger.Text

/-- Why a numeral is refused. -/
inductive NumeralError where
  /-- There is no character at all. -/
  | empty
  /-- A character is no digit, or there is none after the sign. -/
  | badDigit
  /-- The value is out of range. -/
  | tooLarge
deriving DecidableEq, Repr

/-- What is told to the user about a refused numeral. -/
def NumeralError.message : NumeralError → String
  | empty => "cannot parse integer from empty string"
  | badDigit => "invalid digit found in string"
  | tooLarge => "number too large to fit in target type"

/-- The value of a digit, if it is one in the given base. -/
def digit? (base : Nat) (c : Char) : Option Nat :=
  let n := c.toNat
  let value :=
    if 48 ≤ n ∧ n ≤ 57 then n - 48
    else if 97 ≤ n ∧ n ≤ 102 then n - 87
    else if 65 ≤ n ∧ n ≤ 70 then n - 55
    else base
  if value < base then some value else none

/-- Continues a number below `bound` with further digits. -/
def readDigits (base bound : Nat) (value : Nat) : List Char → Except NumeralError Nat
  | [] => .ok value
  | c :: rest =>
    match digit? base c with
    | none => .error .badDigit
    | some d =>
      if value * base + d < bound then readDigits base bound (value * base + d) rest
      else .error .tooLarge

/-- Reads digits, of which there is at least one, after a sign. -/
def readMagnitude (base bound : Nat) : List Char → Except NumeralError Nat
  | [] => .error .badDigit
  | digits => readDigits base bound 0 digits

/-- Reads an unsigned number below `bound`. -/
def readUnsigned (base bound : Nat) : List Char → Except NumeralError Nat
  | [] => .error .empty
  | '+' :: digits => readMagnitude base bound digits
  | digits => readMagnitude base bound digits

/-- The number of values of 32 bits with a sign that are not negative. -/
def int32Bound : Nat := UInt32.size / 2

/-- Reads a decimal number of 32 bits with a sign. -/
def readInt32 : List Char → Except NumeralError Int32
  | '-' :: digits => (readMagnitude 10 (int32Bound + 1) digits).map fun n => Int32.ofInt (-n)
  | digits => (readUnsigned 10 int32Bound digits).map fun n => Int32.ofNat n

/-- Reads an unsigned number of 32 bits. -/
def readUInt32 (base : Nat) (digits : List Char) : Except NumeralError UInt32 :=
  (readUnsigned base UInt32.size digits).map UInt32.ofNat

end GuestDebugger.Text
