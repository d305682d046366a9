import CauseLint.Edit
import CauseLint.Json.Printer

/-!
# Diagnostics

A diagnostic is one finding: what is wrong, how grave it is, where, and how it can be mended. It is
written as a line of JSON or as a line in the form compilers use.
-/

namespace CauseLint

/-- How grave a finding is. -/
inductive Severity where
  | error
  | warning
  | style
  | information
deriving Repr, DecidableEq

namespace Severity

/-- The word for a severity. -/
def name : Severity → String
  | .error => "error"
  | .warning => "warning"
  | .style => "style"
  | .information => "information"

/-- The severity of a word. -/
def ofName? (s : String) : Option Severity :=
  [error, warning, style, information].find? (·.name = s)

theorem ofName?_name (s : Severity) : ofName? s.name = some s := by cases s <;> decide

end Severity

/-- How certain a finding is. -/
inductive Confidence where
  | high
  | medium
  | low
deriving Repr, DecidableEq

namespace Confidence

/-- The word for a confidence. -/
def name : Confidence → String
  | .high => "HIGH"
  | .medium => "MEDIUM"
  | .low => "LOW"

/-- The confidence of a word. -/
def ofName? (s : String) : Option Confidence := [high, medium, low].find? (·.name = s)

theorem ofName?_name (c : Confidence) : ofName? c.name = some c := by cases c <;> decide

end Confidence

/-- The name under which findings are published. -/
def toolName : String := "flogger-lint"

/-- One finding. -/
structure Diagnostic where
  errorId : String
  message : String
  severity : Severity
  location : Location
  /-- The end of the flagged stretch; its column is the one behind the last character. -/
  stop : Option Location := none
  confidence : Confidence := .medium
  checker : String := ""
  addon : String := toolName
  extra : String := ""
  fix : Option Fix := none
  /-- Facts for other tools, by name. -/
  evidence : List (String × Json) := []

namespace Diagnostic

/-- The fix of a finding, if it changes anything. -/
def realFix? (d : Diagnostic) : Option Fix := d.fix.filter (!·.isEmpty)

/-- A finding as a JSON value (`to_json_dict`). -/
def toJson (d : Diagnostic) : Json :=
  .obj ([("file", .str d.location.file), ("linenr", .int d.location.line),
      ("column", .int d.location.column), ("severity", .str d.severity.name),
      ("message", .str d.message), ("addon", .str d.addon), ("errorId", .str d.errorId),
      ("extra", .str d.extra)] ++
    (match d.stop with
      | some e => [("endLinenr", .int e.line), ("endColumn", .int e.column)]
      | none => []) ++
    (match d.realFix? with
      | some f => [("fix", f.toJson)]
      | none => []))

/-- A finding as one line of JSON (`to_json_str`). -/
def jsonLine (d : Diagnostic) : String := d.toJson.line

/-- A finding in the form `file:line:column: severity: message [id]` (`to_gcc_format`). -/
def compilerLine (d : Diagnostic) : String :=
  s!"{d.location.text}: {d.severity.name}: {d.message} [{d.errorId}]"

end Diagnostic

end CauseLint
