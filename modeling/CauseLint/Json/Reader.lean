import CauseLint.Json.Basic

/-!
# Reading JSON

A reader for JSON text. Blanks may stand between the parts of a value; a number with a fraction or
an exponent keeps its decimal form; of two escapes that form a pair only the character they spell
together remains.
-/

namespace CauseLint.Json.Reader

/-- What is left after blanks. -/
def skipBlanks (cs : List Char) : List Char :=
  cs.dropWhile fun c => c = ' ' || c = '\n' || c = '\r' || c = '\t'

/-- The value of a hexadecimal digit. -/
def hexValue? (c : Char) : Option Nat :=
  if '0' ≤ c && c ≤ '9' then some (c.toNat - '0'.toNat)
  else if 'a' ≤ c && c ≤ 'f' then some (c.toNat - 'a'.toNat + 10)
  else if 'A' ≤ c && c ≤ 'F' then some (c.toNat - 'A'.toNat + 10)
  else none

/-- The value of four hexadecimal digits. -/
def hexValue4? (a b c d : Char) : Option Nat := do
  let w ← hexValue? a
  let x ← hexValue? b
  let y ← hexValue? c
  let z ← hexValue? d
  return ((w * 16 + x) * 16 + y) * 16 + z

/-- Add a unit of sixteen bits to the characters read so far, newest first. A second half joins the
first half `pending` before it; a half that stays alone shows as the replacement character. -/
def pushUnit (pending : Option Nat) (unit : Nat) (read : List Char) : Option Nat × List Char :=
  if 0xD800 ≤ unit && unit < 0xDC00 then
    (some unit, if pending.isSome then '\uFFFD' :: read else read)
  else if 0xDC00 ≤ unit && unit < 0xE000 then
    match pending with
    | some high =>
      (none, Char.ofNat (0x10000 + (high - 0xD800) * 0x400 + (unit - 0xDC00)) :: read)
    | none => (none, '\uFFFD' :: read)
  else (none, Char.ofNat unit :: (if pending.isSome then '\uFFFD' :: read else read))

/-- The rest of a string behind its opening quote. -/
def stringBody (pending : Option Nat) (read : List Char) : List Char → Option (String × List Char)
  | [] => none
  | '"' :: cs =>
    some (String.ofList (if pending.isSome then '\uFFFD' :: read else read).reverse, cs)
  | '\\' :: 'u' :: a :: b :: c :: d :: cs =>
    match hexValue4? a b c d with
    | some unit =>
      let (pending, read) := pushUnit pending unit read
      stringBody pending read cs
    | none => none
  | '\\' :: e :: cs =>
    let plain : Option Char :=
      match e with
      | 'n' => some '\n'
      | 't' => some '\t'
      | 'r' => some '\r'
      | 'b' => some '\x08'
      | 'f' => some '\x0c'
      | '"' => some '"'
      | '\\' => some '\\'
      | '/' => some '/'
      | _ => none
    match plain with
    | some p =>
      let (pending, read) := pushUnit pending p.toNat read
      stringBody pending read cs
    | none => none
  | c :: cs => stringBody none (c :: (if pending.isSome then '\uFFFD' :: read else read)) cs

/-- The value of decimal digits. -/
def digitsValue (ds : List Char) : Nat := ds.foldl (fun n d => n * 10 + (d.toNat - '0'.toNat)) 0

/-- A number. -/
def number (cs : List Char) : Option (Json × List Char) :=
  let negative := cs.head? = some '-'
  let cs := if negative then cs.tail else cs
  let whole := cs.takeWhile Char.isDigit
  let cs := cs.dropWhile Char.isDigit
  let (fraction, cs) :=
    match cs with
    | '.' :: rest => (some (rest.takeWhile Char.isDigit), rest.dropWhile Char.isDigit)
    | _ => (none, cs)
  let (exponent, cs) : Option Int × List Char :=
    if cs.head? = some 'e' || cs.head? = some 'E' then
      let rest := cs.tail
      let down := rest.head? = some '-'
      let rest := if down || rest.head? = some '+' then rest.tail else rest
      let size : Int := digitsValue (rest.takeWhile Char.isDigit)
      (some (if down then -size else size), rest.dropWhile Char.isDigit)
    else (none, cs)
  if whole.isEmpty then none
  else
    match fraction, exponent with
    | none, none =>
      let n : Int := digitsValue whole
      some (.int (if negative then -n else n), cs)
    | _, _ =>
      let places := fraction.getD []
      some (.decimal negative (digitsValue (whole ++ places))
        (exponent.getD 0 - places.length), cs)

/-- A number that is not finite, by its name. -/
def nonFinite (cs : List Char) : Option (Json × List Char) :=
  [("NaN", Json.nan), ("Infinity", .infinity false), ("-Infinity", .infinity true)].findSome?
    fun (name, v) =>
      let name := name.toList
      if name.isPrefixOf cs then some (v, cs.drop name.length) else none

mutual
/-- A value; the fuel bounds how often the reader calls itself. -/
def value : Nat → List Char → Option (Json × List Char)
  | 0, _ => none
  | fuel + 1, cs =>
    match skipBlanks cs with
    | 'n' :: 'u' :: 'l' :: 'l' :: rest => some (.null, rest)
    | 't' :: 'r' :: 'u' :: 'e' :: rest => some (.bool true, rest)
    | 'f' :: 'a' :: 'l' :: 's' :: 'e' :: rest => some (.bool false, rest)
    | '"' :: rest => (stringBody none [] rest).map fun (s, rest) => (.str s, rest)
    | '[' :: rest =>
      match skipBlanks rest with
      | ']' :: rest => some (.arr [], rest)
      | rest => (items fuel rest []).map fun (vs, rest) => (.arr vs, rest)
    | '\x7b' :: rest =>
      match skipBlanks rest with
      | '\x7d' :: rest => some (.obj [], rest)
      | rest => (fields fuel rest []).map fun (fs, rest) => (.obj fs, rest)
    | rest => (nonFinite rest).or (number rest)

/-- The items of an array up to its end, those read so far newest first. -/
def items : Nat → List Char → List Json → Option (List Json × List Char)
  | 0, _, _ => none
  | fuel + 1, cs, read =>
    match value fuel cs with
    | none => none
    | some (v, rest) =>
      match skipBlanks rest with
      | ',' :: rest => items fuel rest (v :: read)
      | ']' :: rest => some ((v :: read).reverse, rest)
      | _ => none

/-- The fields of an object up to its end, those read so far newest first. -/
def fields : Nat → List Char → List (String × Json) → Option (List (String × Json) × List Char)
  | 0, _, _ => none
  | fuel + 1, cs, read =>
    match skipBlanks cs with
    | '"' :: rest =>
      match stringBody none [] rest with
      | none => none
      | some (key, rest) =>
        match skipBlanks rest with
        | ':' :: rest =>
          match value fuel rest with
          | none => none
          | some (v, rest) =>
            match skipBlanks rest with
            | ',' :: rest => fields fuel rest ((key, v) :: read)
            | '\x7d' :: rest => some (((key, v) :: read).reverse, rest)
            | _ => none
        | _ => none
    | _ => none
end

end CauseLint.Json.Reader

namespace CauseLint.Json

/-- The value of a JSON text. -/
def parse? (text : String) : Option Json :=
  let cs := text.toList
  match Reader.value (cs.length + 1) cs with
  | some (v, rest) => if (Reader.skipBlanks rest).isEmpty then some v else none
  | none => none

end CauseLint.Json
