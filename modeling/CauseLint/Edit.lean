import CauseLint.Error
import CauseLint.Json.Basic
import CauseLint.Log
import CauseLint.Text.Quoted
import CauseLint.Text.Utf8

/-!
# Suggested edits

A replacement puts a text in place of a stretch of bytes; a fix is a list of replacements with a
description. Fixes are applied to raw bytes all at once: equal replacements count once, replacements
that overlap are refused, and offsets always mean the source before any edit.

Results:

* `Replacement.ofRange?` admits exactly the ranges that start at or behind zero and do not run
  backwards.
* `applyFixes` refuses with a `Conflict` that names the first clash in source order.
-/

namespace CauseLint

/-- Put `text` in place of the bytes from `start` up to but excluding `stop`; with equal ends this
inserts. -/
structure Replacement where
  start : Nat
  stop : Nat
  text : String
  ordered : start ≤ stop := by omega
deriving Repr, DecidableEq

namespace Replacement

/-- The replacement of a range given by integers, if the range is one
(`Replacement.__post_init__`). -/
def ofRange? (start stop : Int) (text : String) : Option Replacement :=
  if h : 0 ≤ start ∧ start ≤ stop then
    some ⟨start.toNat, stop.toNat, text, by omega⟩
  else none

/-- The text of the refusal of a range. -/
def rangeMessage (start stop : Int) : String := s!"invalid replacement range [{start}, {stop})"

/-- The insertion of a text at an offset. -/
def insertion (offset : Nat) (text : String) : Replacement := ⟨offset, offset, text, Nat.le_refl _⟩

/-- Whether nothing is taken out (`is_insertion`). -/
def isInsertion (r : Replacement) : Bool := r.start == r.stop

/-- Whether two replacements cannot both be made. Insertions clash at the same offset; an insertion
clashes with a replaced stretch only strictly inside it. -/
def overlaps (a b : Replacement) : Bool :=
  if a.isInsertion && b.isInsertion then a.start == b.start
  else if a.isInsertion then b.start < a.start && a.start < b.stop
  else if b.isInsertion then a.start < b.start && b.start < a.stop
  else a.start < b.stop && b.start < a.stop

/-- The order by start, then by end, then by text. -/
def before (a b : Replacement) : Bool :=
  a.start < b.start ||
    (a.start == b.start && (a.stop < b.stop || (a.stop == b.stop && a.text < b.text)))

/-- Insert into a sorted list, unless the replacement is there already. -/
def insertSorted (r : Replacement) : List Replacement → List Replacement
  | [] => [r]
  | s :: rest =>
    if r = s then s :: rest
    else if r.before s then r :: s :: rest
    else s :: insertSorted r rest

/-- The different replacements of a list in source order. -/
def sortUnique (rs : List Replacement) : List Replacement := rs.foldr insertSorted []

/-- A replacement as messages show it. -/
def shown (r : Replacement) : String := s!"[{r.start}, {r.stop}) {quoted r.text}"

/-- A replacement as a JSON value. -/
def toJson (r : Replacement) : Json :=
  .obj [("start", .int r.start), ("end", .int r.stop), ("text", .str r.text)]

end Replacement

/-- Replacements that belong together (`SuggestedFix`). -/
structure Fix where
  replacements : List Replacement := []
  description : String := ""
deriving Repr, DecidableEq

namespace Fix

/-- Insert a text behind a stretch that ends at `stop` (`postfix_with`). -/
def insertAfter (stop : Nat) (text : String) (description : String) : Fix :=
  ⟨[.insertion stop text], description⟩

/-- Insert a text before a stretch that begins at `start` (`prefix_with`). -/
def insertBefore (start : Nat) (text : String) (description : String) : Fix :=
  ⟨[.insertion start text], description⟩

/-- Both fixes in one, their descriptions joined. -/
def merge (a b : Fix) : Fix :=
  ⟨a.replacements ++ b.replacements,
    "; ".intercalate ([a.description, b.description].filter (· ≠ ""))⟩

/-- Whether there is nothing to replace (`is_empty`). -/
def isEmpty (f : Fix) : Bool := f.replacements.isEmpty

/-- The start of the first replacement, or `-1` (`insertion_offset`). -/
def offset (f : Fix) : Int :=
  match f.replacements with
  | [] => -1
  | r :: _ => r.start

/-- The texts of all replacements in a row (`replacement_text`). -/
def text (f : Fix) : String := String.join (f.replacements.map (·.text))

/-- A fix as a JSON value. -/
def toJson (f : Fix) : Json :=
  .obj [("description", .str f.description), ("replacements", .arr (f.replacements.map (·.toJson)))]

end Fix

/-- Why fixes cannot be applied to a source. -/
inductive Conflict where
  /-- Two neighbouring replacements overlap. -/
  | overlap (first second : Replacement)
  /-- A replacement ends behind a source of `size` bytes. -/
  | outside (r : Replacement) (size : Nat)
deriving Repr, DecidableEq

/-- The error of a conflict. -/
def Conflict.toError : Conflict → LintError
  | .overlap a b =>
    { kind := .fixConflict
      message := s!"replacements overlap: {a.shown} and {b.shown}"
      hint := "apply the fixes in separate passes" }
  | .outside r size =>
    { kind := .fixConflict
      message := s!"replacement [{r.start}, {r.stop}) is outside a {size}-byte source" }

/-- The first two neighbours of a list that overlap. -/
def firstOverlap? : List Replacement → Option (Replacement × Replacement)
  | a :: b :: rest => if a.overlaps b then some (a, b) else firstOverlap? (b :: rest)
  | _ => none

/-- All replacements of some fixes, each once and in source order, if no neighbours overlap
(`_normalise`). -/
def normalise (fixes : List Fix) : Except Conflict (List Replacement) :=
  let rs := Replacement.sortUnique (fixes.flatMap (·.replacements))
  match firstOverlap? rs with
  | some (a, b) => .error (.overlap a b)
  | none => .ok rs

/-- Make replacements in bytes one after another; `size` is the length of the source they are
meant for. -/
def replaceEach (size : Nat) : List Replacement → Bytes → Except Conflict Bytes
  | [], out => .ok out
  | r :: rest, out =>
    if r.stop > size then .error (.outside r size)
    else replaceEach size rest (out.take r.start ++ Utf8.ofText r.text ++ out.drop r.stop)

/-- The source with all fixes applied (`apply_fixes`). Replacements are made from the last to the
first, so that earlier offsets stay valid. -/
def applyFixes (source : Bytes) (fixes : List Fix) : Except Conflict Bytes := do
  let rs ← normalise fixes
  replaceEach source.length rs.reverse source

/-- Apply fixes and note how many replacements were made. -/
def applyFixesLogged (source : Bytes) (fixes : List Fix) : LogM (Except Conflict Bytes) := do
  match normalise fixes with
  | .error c => return .error c
  | .ok rs =>
    match replaceEach source.length rs.reverse source with
    | .error c => return .error c
    | .ok out =>
      note .debug .fixing s!"applied {rs.length} replacement(s)"
      return .ok out

end CauseLint
