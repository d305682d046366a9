import CauseLint.Decimal.Binary

/-!
# The shortest decimal of a double

The fewest decimal digits that read back as the same double, and among those the digits nearest to
it. `shortest` tries one digit, two digits, and so on: on each decimal grid only the two neighbours
of the value can lie in the interval of numbers that read back as it.
-/

namespace CauseLint.Decimal

/-- Decimal digits, read as `0.d₁d₂… * 10^point`. -/
structure Digits where
  digits : Nat
  count : Nat
  point : Int
deriving Repr, DecidableEq

/-- The numbers that read back as `m * 2^q`, as bounds in units of `2^(q-2)`. Below a power of two
the neighbour is only half as far away. -/
def roundingBounds (m : Nat) (q : Int) : Nat × Nat :=
  (if m = twoTo 52 && q > -1074 then 4 * m - 1 else 4 * m - 2, 4 * m + 2)

/-- Whether `d * 10^e` reads back as `m * 2^q`; the ends of the interval do when `m` is even. -/
def readsBack (m : Nat) (q : Int) (d : Nat) (e : Int) : Bool :=
  let (lo, hi) := roundingBounds m q
  let low := compareScaled d e lo (q - 2)
  let high := compareScaled d e hi (q - 2)
  if m % 2 = 0 then low != .lt && high != .gt else low == .gt && high == .lt

/-- The decimal exponent `k` with `10^(k-1) ≤ m * 2^q < 10^k`. -/
def decimalPoint (m : Nat) (q : Int) : Int :=
  match (List.range 700).find? fun (i : Nat) => compareScaled 1 ((i : Int) - 340) m q == .gt with
  | some i => (i : Int) - 340
  | none => 0

/-- The neighbour of the value on the grid of `n` digits that reads back, the nearer one if both
do. -/
def onGrid? (m : Nat) (q point : Int) (n : Nat) : Option Nat :=
  let e := point - n
  let lo := floorScaled e m q
  let below := readsBack m q lo e
  let above := readsBack m q (lo + 1) e
  if below && above then
    match compareScaled (2 * lo + 1) e (2 * m) q with
    | .lt => some (lo + 1)
    | .gt => some lo
    | .eq => some (if lo % 2 = 0 then lo else lo + 1)
  else if below then some lo
  else if above then some (lo + 1)
  else none

/-- Drop zeros at the end of at most `fuel` digits. -/
def dropZeros : Nat → Nat → Nat
  | 0, d => d
  | fuel + 1, d => if d % 10 = 0 && d != 0 then dropZeros fuel (d / 10) else d

/-- The digits of a positive number `d`, whose point stands `point` digits from the left when `d` is
written with `n` digits. -/
def Digits.of (d n : Nat) (point : Int) : Digits :=
  let trimmed := dropZeros 20 d
  let count := (toString trimmed).length
  ⟨trimmed, count, point + ((toString d).length : Int) - n⟩

/-- The shortest decimal that reads back as the positive double `m * 2^q`. Seventeen digits always
suffice. -/
def shortest (m : Nat) (q : Int) : Digits :=
  let point := decimalPoint m q
  match (List.range 17).findSome? fun i => (onGrid? m q point (i + 1)).map (·, i + 1) with
  | some (d, n) => .of d n point
  | none => .of (floorScaled (point - 17) m q) 17 point

end CauseLint.Decimal
