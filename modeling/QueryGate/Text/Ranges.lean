/-!
# Sets of characters given by ranges

Unicode properties are published as ascending lists of code-point ranges. This module holds the
type of such lists and the membership test; the tables themselves stand in modules of their own.
-/

namespace QueryGate.Text

/-- A set of code points, as inclusive ranges in ascending order. -/
abbrev Ranges := List (Nat × Nat)

/-- Whether a code point lies in one of the ranges. -/
def Ranges.covers : Ranges → Nat → Bool
  | [], _ => false
  | (low, high) :: rest, n => (low ≤ n && n ≤ high) || Ranges.covers rest n

end QueryGate.Text
