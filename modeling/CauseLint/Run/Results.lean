import CauseLint.Abort
import CauseLint.Diagnostic
import CauseLint.Json.Shown
import CauseLint.Table

/-!
# Results of a run

What checkers found in some files, with counts and times, and what could not be checked. Results of
different files are combined by `merge`: lists are joined, numbers under the same name are added.
-/

namespace CauseLint

/-- A value of the statistics. -/
inductive Stat where
  | amount (value : Amount)
  /-- A truth value, which counts as one or zero where a number is needed. -/
  | truth (value : Bool)
  | label (text : String)
  /-- Null, a list or an object. -/
  | other (value : Json)

namespace Stat

/-- The value that a JSON value stands for. -/
def ofJson (v : Json) : Stat :=
  match v.amount?, v with
  | some a, _ => .amount a
  | none, .bool b => .truth b
  | none, .str s => .label s
  | none, v => .other v

/-- The text of a value, unless it is a number with too many digits. -/
def text : Stat → Except StatError String
  | .amount a =>
    match a.text? with
    | some text => .ok text
    | none => .error .tooLong
  | .truth b => .ok (Json.bool b).label
  | .label s => .ok s
  | .other v => .ok v.label

/-- A value as a number. -/
def amount? : Stat → Option Amount
  | .amount a => some a
  | .truth b => some (.whole b.toInt)
  | _ => none

/-- What kind of value it is, as messages name it. -/
def kindName : Stat → String
  | .amount (.whole _) => "int"
  | .amount (.real _) => "float"
  | .truth _ => "bool"
  | .label _ => "str"
  | .other v => v.kindName

/-- Add a number of the kind `kind` to a value. -/
def plus (old : Stat) (new : Amount) (kind : String) : Except StatError Stat :=
  match old.amount?, old with
  | some a, _ =>
    match a.add? new with
    | some sum => .ok (.amount sum)
    | none => .error .tooLarge
  | none, .label _ => .error (.ontoLabel kind)
  | none, .other (.arr _) => .error (.ontoList kind)
  | none, old => .error (.notAddable old.kindName kind)

/-- A value as a time in a summary. -/
def asTime (s : Stat) : Except StatError String :=
  match s.amount?, s with
  | some a, _ =>
    match a.oneDecimal? with
    | some text => .ok text
    | none => .error .tooLarge
  | none, .label _ => .error .labelAsTime
  | none, s => .error (.otherAsTime s.kindName)

end Stat

/-- Values by name. -/
abbrev Stats := Table String Stat

namespace Stats

/-- Take in a value: a number is added to what is there, and anything else replaces it. -/
def take (stats : Stats) (key : String) (value : Stat) : Except StatError Stats :=
  match stats.get? key, value.amount? with
  | some old, some new => do return stats.insert key (← old.plus new value.kindName)
  | _, _ => .ok (stats.insert key value)

/-- Take in values up to the first that cannot be. -/
def takeAll (stats : Stats) : List (String × Stat) → Stats × Option StatError
  | [] => (stats, none)
  | (key, value) :: rest =>
    match stats.take key value with
    | .ok stats => takeAll stats rest
    | .error e => (stats, some e)

/-- The time that a checker took, as a summary shows it. -/
def elapsed (stats : Stats) (checker : String) : Except StatError String :=
  ((stats.get? (checker ++ "_elapsed_ms")).getD (.amount (.whole 0))).asTime

end Stats

/-- The results of a run (`CheckerRunResults`). -/
structure Results where
  diagnostics : List Diagnostic := []
  byChecker : Table String (List Diagnostic) := {}
  stats : Stats := {}
  checkers : List String := []
  /-- The files that were checked, in order. -/
  files : List String := []
  /-- The files that could not be. -/
  failures : List (String × LintError) := []

namespace Results

/-- How many findings have a severity (`error_count` and `warning_count`). -/
def countOf (r : Results) (s : Severity) : Nat := r.diagnostics.countP (·.severity = s)

/-- How many findings there are (`total_count`). -/
def total (r : Results) : Nat := r.diagnostics.length

/-- How many findings are more than information (`finding_count`). -/
def findingCount (r : Results) : Nat := r.diagnostics.countP (·.severity ≠ .information)

/-- The findings of a severity (`by_severity`). -/
def ofSeverity (r : Results) (s : Severity) : List Diagnostic :=
  r.diagnostics.filter (·.severity = s)

/-- The findings in a file (`by_file`). -/
def inFile (r : Results) (file : String) : List Diagnostic :=
  r.diagnostics.filter (·.location.file = file)

/-- The fixes of each file, in order of the findings (`fixes_by_file`). -/
def fixesByFile (r : Results) : Table String (List Fix) :=
  r.diagnostics.foldl (fun t d =>
    match d.realFix? with
    | some f => t.update d.location.file [] (· ++ [f])
    | none => t) {}

/-- Add names that are not in a list yet. -/
def addNames (old new : List String) : List String :=
  new.foldl (fun acc n => if acc.contains n then acc else acc ++ [n]) old

/-- Combine two results. Where a value of the statistics cannot be taken in, the findings and the
values before it are. -/
def merge (a b : Results) : Results × Option StatError :=
  let found := { a with
    diagnostics := a.diagnostics ++ b.diagnostics
    byChecker := b.byChecker.entries.foldl (fun t (n, ds) => t.update n [] (· ++ ds)) a.byChecker }
  match a.stats.takeAll b.stats.entries with
  | (stats, some e) => ({ found with stats }, some e)
  | (stats, none) =>
    ({ found with
        stats
        checkers := addNames a.checkers b.checkers
        files := a.files ++ b.files
        failures := a.failures ++ b.failures }, none)

/-- The findings, one line of JSON each (`to_json_lines`). -/
def jsonLines (r : Results) : String := "\n".intercalate (r.diagnostics.map (·.jsonLine))

/-- The findings in the form compilers use (`to_gcc_format`). -/
def compilerLines (r : Results) : String := "\n".intercalate (r.diagnostics.map (·.compilerLine))

/-- What a summary says about a checker. -/
def checkerLine (r : Results) (name : String) : Except StatError String := do
  let time ← r.stats.elapsed name
  let count := ((r.byChecker.get? name).getD []).length
  return s!"  {name}: {count} findings ({time}ms)"

/-- A summary for people. -/
def summary (r : Results) : Except StatError String := do
  let errors := r.countOf .error
  let warnings := r.countOf .warning
  let head := s!"Checker run complete: {r.files.length} file(s), {r.total} diagnostics " ++
    s!"({errors} errors, {warnings} warnings)"
  let body ← r.checkers.mapM r.checkerLine
  let failed := r.failures.map fun (path, e) => s!"  failed: {path}: {e.text}"
  return "\n".intercalate (head :: body ++ failed)

end Results

end CauseLint
