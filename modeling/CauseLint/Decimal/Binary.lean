/-!
# Binary floating point numbers as exact fractions

A double is a sign and a natural number times a power of two. The functions here read that form off
its bits and compare it with decimal numbers exactly, in natural arithmetic.
-/

namespace CauseLint.Decimal

/-- A finite double: `(-1)^negative * significand * 2^exponent`. -/
structure Binary where
  negative : Bool
  significand : Nat
  exponent : Int
deriving Repr, DecidableEq

/-- A power of two. -/
def twoTo (n : Nat) : Nat := Nat.pow 2 n

/-- A power of ten. -/
def tenTo (n : Nat) : Nat := Nat.pow 10 n

/-- The parts of a double given by its 64 bits; nothing for infinities and for not-a-number. -/
def Binary.ofBits? (bits : UInt64) : Option Binary :=
  let n := bits.toNat
  let negative := n / twoTo 63 == 1
  let biased : Nat := n / twoTo 52 % twoTo 11
  let fraction : Nat := n % twoTo 52
  if biased = 2047 then none
  else if biased = 0 then some ⟨negative, fraction, -1074⟩
  else some ⟨negative, fraction + twoTo 52, (biased : Int) - 1075⟩

/-- The order of `a * 10^e` and `b * 2^s`. -/
def compareScaled (a : Nat) (e : Int) (b : Nat) (s : Int) : Ordering :=
  compare (a * tenTo e.toNat * twoTo (-s).toNat) (b * twoTo s.toNat * tenTo (-e).toNat)

/-- The largest `d` with `d * 10^e ≤ b * 2^s`. -/
def floorScaled (e : Int) (b : Nat) (s : Int) : Nat :=
  (b * twoTo s.toNat * tenTo (-e).toNat) / (tenTo e.toNat * twoTo (-s).toNat)

/-- The quotient of two numbers, rounded to the nearest integer, a tie to the even one. -/
def roundHalfEven (num den : Nat) : Nat :=
  let q := num / den
  let r := num % den
  if 2 * r < den then q
  else if 2 * r > den then q + 1
  else if q % 2 = 0 then q else q + 1

end CauseLint.Decimal
