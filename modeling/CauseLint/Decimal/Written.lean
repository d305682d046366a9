import CauseLint.Decimal.Binary

/-!
# Written integers

An integer is written with at most `maxDigits` decimal digits, its sign apart. One that needs more can
be kept and added to, but it has no text.
-/

namespace CauseLint.Decimal

/-- How many digits a written integer may have. -/
def maxDigits : Nat := 4300

/-- Whether an integer can be written. -/
def isWritable (n : Int) : Bool := n.natAbs < tenTo maxDigits

theorem isDigit_of_mem_toString {n : Nat} {c : Char} (h : c ∈ (toString n).toList) :
    c.isDigit = true := by
  rw [Nat.toString_eq_repr, Nat.toList_repr] at h
  exact Nat.isDigit_of_mem_toDigits (by decide) (by decide) h

/-- An integer is written with digits and, when it is negative, a sign. -/
theorem isDigit_of_mem_toString_int {n : Int} {c : Char} (h : c ∈ (toString n).toList) :
    c = '-' ∨ c.isDigit = true := by
  cases n with
  | ofNat m => exact .inr (isDigit_of_mem_toString h)
  | negSucc m =>
    have written : (toString (Int.negSucc m)).toList = '-' :: (toString (m + 1)).toList :=
      String.toList_append
    rw [written] at h
    rcases List.mem_cons.1 h with h | h
    · exact .inl h
    · exact .inr (isDigit_of_mem_toString h)

/-- The text of an integer, if it can be written. -/
def text? (n : Int) : Option String := if isWritable n then some (toString n) else none

end CauseLint.Decimal
