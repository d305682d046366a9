import CauseLint.Text.Quoted

/-!
# Options of the command line

What can be asked for on the command line, and how each option is spelled and how many values it
takes.
-/

namespace CauseLint

/-- The forms of output on the standard stream. -/
inductive OutputForm where
  /-- A report for people. -/
  | text
  /-- One line of JSON for each finding. -/
  | json
  /-- Lines as compilers print them. -/
  | compiler
  | summary
deriving Repr, DecidableEq

namespace OutputForm

/-- All forms, in the order in which they are offered. -/
def all : List OutputForm := [text, json, compiler, summary]

/-- The word for a form. -/
def name : OutputForm → String
  | .text => "text"
  | .json => "json"
  | .compiler => "gcc"
  | .summary => "summary"

/-- The form of a word. -/
def ofName? (s : String) : Option OutputForm := all.find? (·.name = s)

theorem ofName?_name (f : OutputForm) : ofName? f.name = some f := by cases f <;> decide

end OutputForm

/-- What the command line asks for. -/
structure Options where
  /-- How much of the log to show. -/
  verbosity : Nat := 0
  paths : List String := []
  /-- The form of output on the standard stream; none to show nothing there. -/
  output : Option OutputForm := some .text
  /-- Whether to write fixes into the files. -/
  fix : Bool := false
  /-- Whether to show fixes as differences. -/
  diff : Bool := false
  suppress : List String := []
  exclude : List String := []
  /-- Where to write an interchange report; empty when not asked for. -/
  sarif : String := ""
  /-- Where to write a page; empty when not asked for. -/
  html : String := ""
  strictParse : Bool := false
  listCheckers : Bool := false
deriving Repr, DecidableEq

/-- The options that can be given. -/
inductive Switch where
  | help
  | version
  | verbose
  | output
  | fix
  | diff
  | suppress
  | exclude
  | sarif
  | html
  | strictParse
  | listCheckers
deriving Repr, DecidableEq

/-- How many values an option takes. -/
inductive Arity where
  | none
  | one
  | several
deriving Repr, DecidableEq

namespace Switch

/-- All options. -/
def all : List Switch :=
  [help, version, verbose, output, fix, diff, suppress, exclude, sarif, html, strictParse,
   listCheckers]

/-- The spellings of an option. -/
def spellings : Switch → List String
  | .help => ["-h", "--help"]
  | .version => ["--version"]
  | .verbose => ["-v", "--verbose"]
  | .output => ["--output"]
  | .fix => ["--fix"]
  | .diff => ["--diff"]
  | .suppress => ["--suppress"]
  | .exclude => ["--exclude"]
  | .sarif => ["--sarif"]
  | .html => ["--html"]
  | .strictParse => ["--strict-parse"]
  | .listCheckers => ["--list-checkers"]

/-- How many values an option takes. -/
def arity : Switch → Arity
  | .output | .sarif | .html => .one
  | .suppress | .exclude => .several
  | _ => .none

/-- An option as messages show it. -/
def shown (s : Switch) : String := "/".intercalate s.spellings

/-- All spellings with their options. -/
def table : List (String × Switch) := all.flatMap fun s => s.spellings.map fun w => (w, s)

/-- The option of a spelling. -/
def ofSpelling? (w : String) : Option Switch := table.lookup w

end Switch

end CauseLint
