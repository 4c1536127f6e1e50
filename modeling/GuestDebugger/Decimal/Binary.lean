/-! # Doubles as integers

A finite double is a sign, a whole number of at most 53 bits and a power of two. All decimal texts
of doubles are computed from these by exact arithmetic on natural numbers. -/

namespace GuestDebugger.Decimal

/-- The absolute value of a finite double as `mantissa * 2 ^ exponent`. -/
structure Binary where
  /-- The whole number. -/
  mantissa : Nat
  /-- The power of two. -/
  exponent : Int
deriving DecidableEq, Repr

/-- What a double stands for, its sign left aside. -/
inductive Magnitude where
  /-- A finite value. -/
  | finite (value : Binary)
  /-- An infinite value. -/
  | infinite
  /-- No number. -/
  | nan
deriving DecidableEq, Repr

/-- Whether the sign bit of a double is set. -/
def signBit (x : Float) : Bool := x.toBits >>> 63 == 1

/-- The bit in front of the 52 bits of a fraction, which is set in every normal double. -/
def leadingBit : Nat := 0x10000000000000

/-- The absolute value of a double. -/
def magnitude (x : Float) : Magnitude :=
  let bits := x.toBits.toNat
  let fraction : Nat := bits % leadingBit
  let biased : Nat := bits / leadingBit % 2048
  if biased == 2047 then (if fraction == 0 then .infinite else .nan)
  else if biased == 0 then .finite ⟨fraction, -1074⟩
  else .finite ⟨leadingBit + fraction, (biased : Int) - 1075⟩

/-- The value as a quotient of natural numbers. -/
def Binary.quotient (b : Binary) : Nat × Nat :=
  match b.exponent with
  | .ofNat e => (b.mantissa * Nat.pow 2 e, 1)
  | .negSucc e => (b.mantissa, Nat.pow 2 (e + 1))

end GuestDebugger.Decimal
