import CauseLint.Position

/-!
# Errors

What can stop the work on one input, each kind with its code. The text of an error names its place,
its code and, where there is one, a hint.
-/

namespace CauseLint

/-- The kinds of error. -/
inductive ErrorKind where
  | general
  /-- An input could not be read or is not text. -/
  | sourceRead
  /-- Strict parsing met damage in the tree. -/
  | javaSyntax
  /-- Symbol information is incomplete. -/
  | typeResolution
  /-- Suggested edits clash. -/
  | fixConflict
  /-- The caller asked for something impossible. -/
  | configuration
deriving Repr, DecidableEq

/-- The code shown with an error. -/
def ErrorKind.code : ErrorKind → String
  | .general => "FLG-0000"
  | .sourceRead => "FLG-0001"
  | .javaSyntax => "FLG-1001"
  | .typeResolution => "FLG-1101"
  | .fixConflict => "FLG-2001"
  | .configuration => "FLG-3001"

/-- An error with what there is to say about it (`FloggerLintError`). -/
structure LintError where
  kind : ErrorKind
  message : String
  location : Option Location := none
  hint : String := ""
  /-- How many places are damaged; only a syntax error counts them. -/
  count : Int := 1
deriving Repr, DecidableEq

/-- The text of an error. -/
def LintError.text (e : LintError) : String :=
  (match e.location with
    | some l => l.text ++ ": "
    | none => "") ++
  s!"[{e.kind.code}] {e.message}" ++
  (if e.hint = "" then "" else s!" (hint: {e.hint})")

end CauseLint
