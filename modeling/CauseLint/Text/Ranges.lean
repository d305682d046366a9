/-!
# Ranges of code points

A property of characters as the sorted list of code point ranges that have it.
-/

namespace CauseLint

/-- First and last code point of each range, in ascending order. -/
abbrev Ranges := List (Nat × Nat)

namespace Ranges

/-- Whether a code point lies in one of the ranges. -/
def mem (n : Nat) : Ranges → Bool
  | [] => false
  | (lo, hi) :: rest => if n < lo then false else n ≤ hi || mem n rest

/-- Whether a character lies in one of the ranges. -/
def contains (rs : Ranges) (c : Char) : Bool := mem c.toNat rs

end Ranges

end CauseLint
