/-! # Sets of characters given by ranges

A property of characters is stored as a list of closed ranges of code points. -/

namespace GuestDebugger.Text

/-- A set of code points as a list of closed ranges. -/
abbrev CodeRanges := List (Nat × Nat)

/-- Whether the code point of a character lies in one of the ranges. -/
def CodeRanges.contains (ranges : CodeRanges) (c : Char) : Bool :=
  ranges.any fun r => r.1 ≤ c.toNat && c.toNat ≤ r.2

end GuestDebugger.Text
