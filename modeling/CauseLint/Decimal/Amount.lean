import CauseLint.Decimal.Shortest
import CauseLint.Decimal.Written

/-!
# Amounts

The numbers kept in run statistics: whole ones and floating point ones. A sum is whole when both
parts are. A whole number of any size can be kept, but one that no double is near can be neither added
to a floating point number nor shown with a fraction, and one with too many digits cannot be shown.

Results:

* An amount is shown with the fewest digits that read back (`Amount.text?`), positionally from
  `1e-4` up to below `1e16`, and with one place after the point in a summary (`Amount.oneDecimal?`).
-/

namespace CauseLint

/-- A number of a run's statistics. -/
inductive Amount where
  | whole (n : Int)
  | real (x : Float)

namespace Amount

/-- The double nearest to an integer. -/
def ofInt (n : Int) : Float :=
  let x := Float.ofScientific n.natAbs false 0
  if n < 0 then -x else x

/-- Whether an integer lies beyond all doubles: halfway from the largest one to the next power of two,
or further. -/
def isTooLarge (n : Int) : Bool := Decimal.twoTo 1024 - Decimal.twoTo 970 ≤ n.natAbs

/-- An amount as a double, unless it is too large. -/
def toFloat? : Amount → Option Float
  | .whole n => if isTooLarge n then none else some (ofInt n)
  | .real x => some x

/-- The sum of two amounts, whole when both are; nothing when a part is too large. -/
def add? : Amount → Amount → Option Amount
  | .whole a, .whole b => some (.whole (a + b))
  | a, b => do return .real ((← a.toFloat?) + (← b.toFloat?))

/-- The text of the numbers that are not finite. -/
def nonFinite (x : Float) : String :=
  if x.isNaN then "nan" else if x > 0 then "inf" else "-inf"

/-- Zeros in a row. -/
def zeros (n : Nat) : String := String.ofList (List.replicate n '0')

/-- Digits in positional form, with at least one digit on each side of the point. -/
def positional (d : Decimal.Digits) : String :=
  let text := toString d.digits
  if d.point ≤ 0 then "0." ++ zeros (-d.point).toNat ++ text
  else
    let split := d.point.toNat
    if d.count ≤ split then text ++ zeros (split - d.count) ++ ".0"
    else
      let cs := text.toList
      String.ofList (cs.take split) ++ "." ++ String.ofList (cs.drop split)

/-- Digits with an exponent of at least two digits. -/
def scientific (d : Decimal.Digits) : String :=
  let cs := (toString d.digits).toList
  let mantissa :=
    match cs with
    | c :: (_ :: _) => String.ofList [c] ++ "." ++ String.ofList cs.tail
    | _ => String.ofList cs
  let e := d.point - 1
  let size := toString e.natAbs
  mantissa ++ (if e < 0 then "e-" else "e+") ++ (if size.length < 2 then "0" ++ size else size)

/-- The fewest digits that read back as a double. -/
def realText (x : Float) : String :=
  match Decimal.Binary.ofBits? x.toBits with
  | none => nonFinite x
  | some b =>
    let sign := if b.negative then "-" else ""
    if b.significand = 0 then sign ++ "0.0"
    else
      let d := Decimal.shortest b.significand b.exponent
      sign ++ if -4 < d.point && d.point ≤ 16 then positional d else scientific d

/-- The text of an amount, unless it has too many digits. -/
def text? : Amount → Option String
  | .whole n => Decimal.text? n
  | .real x => some (realText x)

/-- A double rounded to one place after the point, a tie to the even digit. -/
def realOneDecimal (x : Float) : String :=
  match Decimal.Binary.ofBits? x.toBits with
  | none => nonFinite x
  | some b =>
    let tenths := Decimal.roundHalfEven (10 * b.significand * Decimal.twoTo b.exponent.toNat)
      (Decimal.twoTo (-b.exponent).toNat)
    (if b.negative then "-" else "") ++ toString (tenths / 10) ++ "." ++ toString (tenths % 10)

/-- An amount rounded to one place after the point, unless it is too large. -/
def oneDecimal? (a : Amount) : Option String := a.toFloat?.map realOneDecimal

end Amount

end CauseLint
