import CauseLint.Diagnostic
import CauseLint.Syntax.Unit
import CauseLint.Text.Glob
import CauseLint.Text.Blank
import CauseLint.Text.Word

/-!
# Suppressions

What the user does not want to hear about: identifiers suppressed everywhere, in files that match a
pattern, on a line and the one behind it by a comment, or over a declaration by an annotation. The
identifier `*` stands for all of them.

Results:

* `Marker.ids?` reads the identifiers that a comment lists behind its first marker.
* `Suppressions.suppresses` decides about one finding.
-/

namespace CauseLint

/-- The identifier that stands for all others. -/
def anyId : String := "*"

/-- Add members to a set kept as a list. -/
def addAll (old new : List String) : List String :=
  new.foldl (fun acc id => if acc.contains id then acc else acc ++ [id]) old

/-! ## Suppression comments -/

namespace Marker

/-- The word that begins a suppression in a comment. -/
def word : List Char := "flogger-lint-suppress".toList

/-- The rest of a text behind a leading word, where no letter or digit follows it. -/
def behind? (cs : List Char) : Option (List Char) :=
  if word.isPrefixOf cs then
    let rest := cs.drop word.length
    match rest with
    | c :: _ => if isWord c then none else some rest
    | [] => some []
  else none

/-- The text behind the first marker. -/
def find? : List Char → Option (List Char)
  | [] => none
  | c :: cs =>
    match behind? (c :: cs) with
    | some rest => some rest
    | none => find? cs

/-- Whether a character may stand between a marker and its list. -/
def isLead (c : Char) : Bool := isBlank c || c = ':'

/-- Whether a character may stand in the list of identifiers. -/
def isListed (c : Char) : Bool := isWord c || c = '*' || c = ',' || c = '-' || isBlank c

/-- Whether a character divides two identifiers. -/
def isDivider (c : Char) : Bool := isBlank c || c = ','

/-- The stretches between dividers that are not empty. -/
def pieces (cs : List Char) : List (List Char) := (cs.splitOnP isDivider).filter (!·.isEmpty)

/-- The list behind a marker. -/
def listing (behind : List Char) : List Char := (behind.dropWhile isLead).takeWhile isListed

/-- A comment without the mark that closes a block. -/
def body (comment : List Char) : List Char :=
  match comment.reverse with
  | '/' :: '*' :: rest => rest.reverse
  | _ => comment

/-- The identifiers that a comment suppresses, if it has a marker (`_load_comment`); all when it
lists none. -/
def ids? (comment : String) : Option (List String) :=
  (find? (body comment.toList)).map fun behind =>
    match (pieces (listing behind)).map String.ofList with
    | [] => [anyId]
    | ids => ids

end Marker

/-! ## Suppressing annotations -/

/-- The names of the annotation that suppresses. -/
def suppressingNames : List String := ["SuppressWarnings", "java.lang.SuppressWarnings"]

/-- A text without the double quotes at its ends. -/
def stripQuotes (s : String) : String := String.ofList (trimWhere (· = '"') s.toList)

/-- The identifiers that an annotation lists. -/
def annotationIds (u : SourceUnit) (mark : Cursor) : List String :=
  let listed := ((mark.childByField? "arguments").map fun args =>
    (args.preorder.filter (·.kind = "string_literal")).map fun c => stripQuotes (u.textOf c)).getD []
  addAll [] (if listed.contains "all" then listed ++ [anyId] else listed)

/-- The declaration that an annotation belongs to. -/
def annotated? (mark : Cursor) : Option Cursor :=
  match mark.parent? with
  | some p => if p.kind = "modifiers" then p.parent? else some p
  | none => none

/-- The lines of a declaration, over which some identifiers are suppressed. -/
structure Scope where
  file : String
  first : Nat
  last : Nat
  ids : List String
deriving Repr, DecidableEq

/-- The scope that an annotation opens, if it suppresses anything (`_load_annotation`). -/
def scope? (u : SourceUnit) (mark : Cursor) : Option Scope :=
  if suppressingNames.contains (u.textOf? (mark.childByField? "name")) then
    match annotated? mark, annotationIds u mark with
    | some target, id :: ids =>
      some ⟨u.path, rowOf u.source target.start + 1, rowOf u.source target.stop + 1, id :: ids⟩
    | _, _ => none
  else none

/-! ## The collection -/

/-- Everything that is suppressed (`SuppressionManager`). -/
structure Suppressions where
  /-- By file and line of the comment. -/
  inline : Table (String × Nat) (List String) := {}
  /-- By declaration, in order of arrival. -/
  scopes : List Scope := []
  /-- By pattern of file names. -/
  files : Table String (List String) := {}
  everywhere : List String := []

/-- Whether a set of identifiers covers one. -/
def covers (ids : List String) (id : String) : Bool := ids.contains id || ids.contains anyId

namespace Suppressions

/-- Suppress an identifier everywhere (`add_global_suppression`). -/
def addGlobal (s : Suppressions) (id : String) : Suppressions :=
  { s with everywhere := addAll s.everywhere [id] }

/-- Suppress an identifier in files of a pattern (`add_file_suppression`). -/
def addFile (s : Suppressions) (id pattern : String) : Suppressions :=
  { s with files := s.files.update pattern [] (addAll · [id]) }

/-- Read one node of a unit. -/
def readNode (u : SourceUnit) (s : Suppressions) (c : Cursor) : Suppressions :=
  if c.isComment then
    match Marker.ids? (u.textOf c) with
    | some ids =>
      let place := (u.path, rowOf u.source c.start + 1)
      { s with inline := s.inline.update place [] (addAll · ids) }
    | none => s
  else if c.kind = "annotation" then
    match scope? u c with
    | some scope => { s with scopes := s.scopes ++ [scope] }
    | none => s
  else s

/-- Read the comments and annotations of a unit (`load_inline_suppressions`). -/
def load (s : Suppressions) (u : SourceUnit) : Suppressions := u.root.preorder.foldl (readNode u) s

/-- Whether a comment on a line suppresses an identifier. -/
def onLine (s : Suppressions) (file : String) (line : Int) (id : String) : Bool :=
  0 ≤ line && covers ((s.inline.get? (file, line.toNat)).getD []) id

/-- Whether a scope holds a line and suppresses an identifier there. -/
def inScope (scope : Scope) (file : String) (line : Int) (id : String) : Bool :=
  scope.file = file && scope.first ≤ line && line ≤ scope.last && covers scope.ids id

/-- Whether a pattern speaks of a file: literally, as the end of its name, or as a glob. -/
def patternNames (pattern file : String) : Bool :=
  pattern.toList.isSuffixOf file.toList || Glob.isMatch pattern file

/-- Whether a finding is suppressed (`is_suppressed`). -/
def suppresses (s : Suppressions) (d : Diagnostic) : Bool :=
  covers s.everywhere d.errorId ||
  s.onLine d.location.file d.location.line d.errorId ||
  s.onLine d.location.file (d.location.line - 1) d.errorId ||
  s.scopes.any (inScope · d.location.file d.location.line d.errorId) ||
  s.files.entries.any fun (pattern, ids) =>
    covers ids d.errorId && patternNames pattern d.location.file

/-- The findings that are not suppressed (`filter_diagnostics`). -/
def keep (s : Suppressions) (ds : List Diagnostic) : List Diagnostic := ds.filter (!s.suppresses ·)

end Suppressions

end CauseLint
