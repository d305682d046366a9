import CauseLint.Diagnostic
import CauseLint.Report.Sources
import CauseLint.Json.Shown
import CauseLint.Text.LowerCase

/-!
# Report entries

A finding prepared to be shown: with the stretches of source to underline, and with notes and help.
-/

namespace CauseLint

namespace Severity

/-- The severity of a word in any case and with white space around it (`from_string`); unknown words
warn. -/
def ofLabel (s : String) : Severity := (ofName? (lowerCase (trimBlank s))).getD .warning

/-- The name of a severity in capitals. -/
def capitals : Severity → String
  | .error => "ERROR"
  | .warning => "WARNING"
  | .style => "STYLE"
  | .information => "INFORMATION"

/-- The level that stands for a severity in interchange reports. -/
def level : Severity → String
  | .error => "error"
  | .warning => "warning"
  | .style | .information => "note"

end Severity

/-- A stretch of source to underline, with 1-based lines and columns (`SpanAnnotation`); the last
column is not part of it. -/
structure Underline where
  startLine : Int
  startColumn : Int
  stopLine : Int
  stopColumn : Int
  label : String := ""
  style : String := "^"
deriving Repr, DecidableEq

/-- A finding prepared to be shown (`ReportEntry`). -/
structure Entry where
  severity : Severity
  errorId : String
  message : String
  location : Option Location := none
  underlines : List Underline := []
  notes : List String := []
  helps : List String := []
  fix : Option Fix := none

namespace Entry

/-- The fix of an entry, if it changes anything. -/
def realFix? (e : Entry) : Option Fix := e.fix.filter (!·.isEmpty)

/-- An entry in the form `file:line:column: severity: message [id]` (`one_line`). -/
def compilerLine (e : Entry) : String :=
  let place := (e.location.getD {}).text
  s!"{place}: {e.severity.name}: {e.message} [{e.errorId}]"

end Entry

/-! ## Preparing a finding -/

namespace Diagnostic

/-- The label of the flagged stretch (`_span_label`): it names the throwable, if that is known. -/
def label (d : Diagnostic) : String :=
  match d.evidence.lookup "exception" with
  | none => ""
  | some v =>
    let shown := v.label
    if v.isVoid then "" else s!"`{shown}` passed as a format argument"

/-- The flagged stretch of a finding that has a line. -/
def underlines (d : Diagnostic) : List Underline :=
  if d.location.line = 0 then []
  else
    [{ startLine := d.location.line
       startColumn := d.location.column
       stopLine := (d.stop.map (·.line)).getD d.location.line
       stopColumn := (d.stop.map (·.column)).getD (d.location.column + 1)
       label := d.label }]

/-- What a fix would do: the mended line, or where to insert which text. -/
def helpFor (fixed : String) (fix : Fix) : String :=
  if fixed = "" then s!"insert `{fix.text}` before `.log(`"
  else s!"attach the exception as the cause: `{fixed}`"

/-- Prepare a finding to be shown (`entry_for`). -/
def toEntry (d : Diagnostic) (sources : Sources) : LogM (Except Abort Entry) := do
  let bare : Entry :=
    { severity := d.severity
      errorId := d.errorId
      message := d.message
      location := if d.location.line = 0 then none else some d.location
      underlines := d.underlines
      fix := d.fix }
  match d.realFix? with
  | none => return .ok bare
  | some fix =>
    match ← sources.fixedLine d.location.file fix with
    | .error e => return .error e
    | .ok fixed => return .ok { bare with helps := [helpFor fixed fix] }

end Diagnostic

end CauseLint
