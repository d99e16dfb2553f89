/-!
# Sets of code points

A set of code points is a list of closed ranges in ascending order.  Membership walks the
ranges and stops at the first one that lies beyond the code point.
-/

namespace AliasBinding.Text

/-- Closed ranges of code points, meant in ascending order. -/
abbrev CodePoints := List (Nat × Nat)

namespace CodePoints

/-- Whether the code point `n` lies in one of the ranges. -/
def has : CodePoints → Nat → Bool
  | [], _ => false
  | (first, last) :: rest, n => decide (first ≤ n) && (decide (n ≤ last) || has rest n)

end CodePoints

end AliasBinding.Text
