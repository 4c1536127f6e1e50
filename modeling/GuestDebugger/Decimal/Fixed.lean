import GuestDebugger.Decimal.Binary

/-! # Decimal texts with a fixed number of places

The exact value of a double is rounded to the given number of decimal places, a half to the even
neighbour. The sign of a negative zero is kept. -/

namespace GuestDebugger.Decimal

/-- The whole number nearest to `num / den`; of two nearest ones the even one. -/
def roundHalfEven (num den : Nat) : Nat :=
  let q := num / den
  let twice := 2 * (num % den)
  if twice < den then q
  else if den < twice then q + 1
  else q + q % 2

/-- The digits of `n` units of the last of `places` decimal places. -/
def fixedDigits (places n : Nat) : String :=
  let whole := toString (n / Nat.pow 10 places)
  let rest := toString (n % Nat.pow 10 places)
  if places = 0 then whole
  else whole ++ "." ++ "".pushn '0' (places - rest.length) ++ rest

/-- The text of a double with the given number of decimal places. -/
def fixed (places : Nat) (x : Float) : String :=
  let sign := if signBit x then "-" else ""
  match magnitude x with
  | .nan => "NaN"
  | .infinite => sign ++ "inf"
  | .finite b =>
    let (num, den) := b.quotient
    sign ++ fixedDigits places (roundHalfEven (num * Nat.pow 10 places) den)

end GuestDebugger.Decimal
