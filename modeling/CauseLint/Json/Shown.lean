import CauseLint.Decimal.Amount
import CauseLint.Json.Basic
import CauseLint.Text.Quoted

/-!
# JSON values as people see them

A value as a label or a statistic shows it: strings are quoted inside lists only, and numbers with a
fraction or an exponent are doubles.
-/

namespace CauseLint.Json

/-- The double that a number with a fraction or an exponent is read as. -/
def decimalValue (negative : Bool) (mantissa : Nat) (exponent : Int) : Float :=
  let x := Float.ofScientific mantissa (exponent < 0) exponent.natAbs
  if negative then -x else x

/-- The amount of a number. -/
def amount? : Json → Option Amount
  | .int n => some (.whole n)
  | .decimal s m e => some (.real (decimalValue s m e))
  | .infinity s => some (.real (if s then -1.0 / 0.0 else 1.0 / 0.0))
  | .nan => some (.real (0.0 / 0.0))
  | _ => none

/-- What kind of value it is, as messages name it. -/
def kindName : Json → String
  | .null => "NoneType"
  | .bool _ => "bool"
  | .int _ => "int"
  | .decimal _ _ _ | .infinity _ | .nan => "float"
  | .str _ => "str"
  | .arr _ => "list"
  | .obj _ => "dict"

mutual
/-- A value as it is shown inside a list. -/
def inner : Json → String
  | .null => "None"
  | .bool b => if b then "True" else "False"
  | .int n => toString n
  | .decimal s m e => Amount.realText (decimalValue s m e)
  | .infinity s => if s then "-inf" else "inf"
  | .nan => "nan"
  | .str s => quoted s
  | .arr items => "[" ++ innerItems items ++ "]"
  | .obj fields => "\x7b" ++ innerFields fields ++ "\x7d"

/-- Values with commas between them. -/
def innerItems : List Json → String
  | [] => ""
  | [v] => v.inner
  | v :: vs => v.inner ++ ", " ++ innerItems vs

/-- Named values with commas between them. -/
def innerFields : List (String × Json) → String
  | [] => ""
  | [(k, v)] => quoted k ++ ": " ++ v.inner
  | (k, v) :: fs => quoted k ++ ": " ++ v.inner ++ ", " ++ innerFields fs
end

/-- A value as it is shown. -/
def label : Json → String
  | .str s => s
  | v => v.inner

/-- Whether a value says nothing: null, false, zero, or without content. -/
def isVoid : Json → Bool
  | .null => true
  | .bool b => !b
  | .int n => n = 0
  | .decimal s m e => decimalValue s m e == 0
  | .infinity _ | .nan => false
  | .str s => s = ""
  | .arr items => items.isEmpty
  | .obj fields => fields.isEmpty

end CauseLint.Json
