import GuestDebugger.Decimal.Binary

/-! # Shortest decimal digits

Of all decimal numbers that round to a given double, those with the fewest digits are taken, and
of these the one nearest to the double. The search goes through the decimal grids from coarse to
fine and tests the two neighbours of the value on each. -/

namespace GuestDebugger.Decimal

/-- The decimal number `digits * 10 ^ exponent`. -/
structure Scientific where
  /-- The digits. -/
  digits : Nat
  /-- The power of ten. -/
  exponent : Int
deriving DecidableEq, Repr

/-- A quotient scaled by a power of ten. -/
def scale (q : Nat × Nat) (exponent : Int) : Nat × Nat :=
  match exponent with
  | .ofNat e => (q.1 * Nat.pow 10 e, q.2)
  | .negSucc e => (q.1, q.2 * Nat.pow 10 (e + 1))

/-- The reals that round to one double. -/
structure RoundingInterval where
  /-- The lower end. -/
  low : Nat × Nat
  /-- The upper end. -/
  high : Nat × Nat
  /-- Whether the ends belong to the interval. -/
  closed : Bool

/-- The reals that round to a double. Below a power of two the neighbour is only half as far. -/
def Binary.interval (b : Binary) : RoundingInterval :=
  let narrow := b.mantissa = leadingBit ∧ -1074 < b.exponent
  { low := Binary.quotient ⟨4 * b.mantissa - (if narrow then 1 else 2), b.exponent - 2⟩
    high := Binary.quotient ⟨4 * b.mantissa + 2, b.exponent - 2⟩
    closed := b.mantissa % 2 = 0 }

/-- Whether the decimal number `digits * 10 ^ exponent` lies in the interval. -/
def RoundingInterval.holds (i : RoundingInterval) (d : Scientific) : Bool :=
  let (num, den) := scale (d.digits, 1) d.exponent
  let (lowNum, lowDen) := i.low
  let (highNum, highDen) := i.high
  if i.closed then lowNum * den ≤ num * lowDen && num * highDen ≤ highNum * den
  else lowNum * den < num * lowDen && num * highDen < highNum * den

/-- The power of ten of the first digit of a positive quotient below `10 ^ 400` and above
`10 ^ -400`. -/
def leadingExponent (q : Nat × Nat) : Int :=
  if q.2 ≤ q.1 then ((toString (q.1 / q.2)).length : Int) - 1
  else search 400 1
where
  /-- The least number of places after which the quotient reaches one, negated. -/
  search : Nat → Nat → Int
    | 0, k => -k
    | fuel + 1, k => if q.2 ≤ q.1 * Nat.pow 10 k then -k else search fuel (k + 1)

/-- The neighbours of a value on the grid `10 ^ exponent` that lie in the interval, the nearer
one first. -/
def gridHit? (i : RoundingInterval) (value : Nat × Nat) (exponent : Int) : Option Scientific :=
  let (num, den) := scale value (-exponent)
  let below : Scientific := ⟨num / den, exponent⟩
  let above : Scientific := ⟨num / den + 1, exponent⟩
  let twice := 2 * (num % den)
  let belowFirst := twice < den || (twice == den && below.digits % 2 == 0)
  let hits := (if belowFirst then [below, above] else [above, below]).filter i.holds
  hits.head?

/-- The shortest decimal number that rounds to a positive finite double. -/
def shortest (b : Binary) : Scientific :=
  let value := b.quotient
  let interval := b.interval
  let top := leadingExponent value
  ((List.range 17).findSome? fun (n : Nat) => gridHit? interval value (top - n)).getD ⟨0, 0⟩

/-- The number without zeros at the end of its digits. -/
def Scientific.normalize (d : Scientific) : Scientific :=
  go 20 d
where
  /-- Takes off at most the given number of zeros. -/
  go : Nat → Scientific → Scientific
    | 0, d => d
    | fuel + 1, d =>
      if d.digits ≠ 0 ∧ d.digits % 10 = 0 then go fuel ⟨d.digits / 10, d.exponent + 1⟩ else d

end GuestDebugger.Decimal
