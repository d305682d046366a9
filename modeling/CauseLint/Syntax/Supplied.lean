import CauseLint.Json.Basic
import CauseLint.Syntax.Unit
import CauseLint.Text.Base64

/-!
# Supplied trees

Trees come from outside, as JSON objects with a `source` and its `nodes`. The nodes are in pre-order,
each with its kind, its flags (1 named, 2 missing, 4 damaged), its first byte, the byte behind it, its
field or null, and the number of its children. Bytes are a string, or letters under `b64` when they
are not text.
-/

namespace CauseLint

namespace Json

/-- The bytes that a value stands for. -/
def toBytes : Json → Bytes
  | .str s => Utf8.ofText s
  | v => Base64.decode (((v.field? "b64").bind (·.str?)).getD "").toList

/-- Bytes as a value. -/
def ofBytes (bs : Bytes) : Json :=
  if Utf8.isValid bs then .str (Utf8.toText bs)
  else .obj [("b64", .str (String.ofList (Base64.encode bs)))]

end Json

namespace Supplied

/-- One node with the number of its children. -/
def row? : Json → Option (Label × Nat)
  | .arr [.str kind, .int flags, .int start, .int stop, field, .int count] =>
    let bits := flags.toNat
    some ({ kind, isNamed := bits % 2 = 1, isMissing := bits / 2 % 2 = 1, isError := bits / 4 % 2 = 1
            start := start.toNat, stop := stop.toNat, field := field.str? }, count.toNat)
  | _ => none

/-- A source with its tree. -/
def tree? (j : Json) : Option (Bytes × Tree) := do
  let source ← j.field? "source"
  let nodes ← (j.field? "nodes").bind (·.arr?)
  let tree ← Tree.ofRows? (nodes.filterMap row?)
  return (source.toBytes, tree)

/-- The tree of a source of which nothing is known. -/
def bare (source : Bytes) : Tree := .node { kind := "program", start := 0, stop := source.length } []

/-- The parser that looks sources up among supplied trees. -/
def parser (trees : List Json) : Parser :=
  let known := trees.filterMap tree?
  fun source => (known.lookup source).getD (bare source)

end Supplied

end CauseLint
