import CauseLint.Text.Quoted

/-!
# Paths

A path is a list of components behind an optional root. Reading a path drops empty components and
the component `.`, so different spellings of the same components are equal; `..` stays, because only
a file system can tell where it leads.
-/

namespace CauseLint

/-- The components of a path; the root is empty for a relative one. -/
structure Path where
  root : String := ""
  parts : List String := []
deriving Repr, DecidableEq

namespace Path

/-- The root that some leading slashes mean: two of them are a root of its own. -/
def rootOf (cs : List Char) : String :=
  match (cs.takeWhile (· = '/')).length with
  | 0 => ""
  | 2 => "//"
  | _ => "/"

/-- Read a path. -/
def ofText (s : String) : Path where
  root := rootOf s.toList
  parts := ((s.toList.splitOnP (· = '/')).map String.ofList).filter fun c => c ≠ "" && c ≠ "."

/-- Write a path. -/
def text (p : Path) : String :=
  if p.root = "" && p.parts.isEmpty then "." else p.root ++ "/".intercalate p.parts

/-- The last component. -/
def name (p : Path) : String := p.parts.getLast?.getD ""

/-- The order of component lists: by the first component that differs, a beginning before the whole. -/
def partsLe : List String → List String → Bool
  | [], _ => true
  | _ :: _, [] => false
  | a :: as, b :: bs => if a = b then partsLe as bs else a < b

/-- Whether a path comes before or with another in the order by components. -/
def le (p q : Path) : Bool := partsLe p.parts q.parts

end Path

/-- Why the operating system refuses a path. -/
inductive FileTrouble where
  | missing
  | notFolder
  | isFolder
  | nameTooLong
deriving Repr, DecidableEq

namespace FileTrouble

/-- The system's number for a trouble. -/
def number : FileTrouble → Nat
  | .missing => 2
  | .notFolder => 20
  | .isFolder => 21
  | .nameTooLong => 36

/-- The system's words for a trouble. -/
def reason : FileTrouble → String
  | .missing => "No such file or directory"
  | .notFolder => "Not a directory"
  | .isFolder => "Is a directory"
  | .nameTooLong => "File name too long"

end FileTrouble

/-- A refused path with the reason. -/
structure FileError where
  trouble : FileTrouble
  path : Path
deriving Repr, DecidableEq

/-- The text of a refusal. -/
def FileError.text (e : FileError) : String :=
  s!"[Errno {e.trouble.number}] {e.trouble.reason}: {quoted e.path.text}"

end CauseLint
