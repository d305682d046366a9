/-!
# JSON values

The values of the machine-readable outputs. Fields keep the order in which they are written. Beyond
the standard there are the numbers that are not finite.
-/

namespace CauseLint

/-- A JSON value. Numbers with a fraction or an exponent keep their decimal form
`(-1)^negative * mantissa * 10^exponent`. -/
inductive Json where
  | null
  | bool (value : Bool)
  | int (value : Int)
  | decimal (negative : Bool) (mantissa : Nat) (exponent : Int)
  | infinity (negative : Bool)
  /-- What is not a number. -/
  | nan
  | str (value : String)
  | arr (items : List Json)
  | obj (fields : List (String × Json))
deriving Repr, Inhabited

namespace Json

/-- The field of an object. -/
def field? (key : String) : Json → Option Json
  | .obj fields => fields.lookup key
  | _ => none

/-- The text of a string value. -/
def str? : Json → Option String
  | .str s => some s
  | _ => none

/-- The number of an integer value. -/
def int? : Json → Option Int
  | .int n => some n
  | _ => none

/-- The truth of a Boolean value. -/
def bool? : Json → Option Bool
  | .bool b => some b
  | _ => none

/-- The items of an array value. -/
def arr? : Json → Option (List Json)
  | .arr items => some items
  | _ => none

/-- The fields of an object value. -/
def obj? : Json → Option (List (String × Json))
  | .obj fields => some fields
  | _ => none

/-- Whether a value is null. -/
def isNull : Json → Bool
  | .null => true
  | _ => false

end Json

end CauseLint
