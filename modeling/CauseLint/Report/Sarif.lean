import CauseLint.Json.Printer
import CauseLint.Report.Entry
import CauseLint.Table

/-!
# Interchange reports

A report in the static analysis results interchange format, version 2.1.0: every rule once, as its
first entry describes it, and every entry with its place and its fix.
-/

namespace CauseLint.Sarif

/-- The version of the format. -/
def version : String := "2.1.0"

/-- Where the format is defined. -/
def schema : String :=
  "https://raw.githubusercontent.com/oasis-tcs/sarif-spec/master/Schemata/sarif-schema-2.1.0.json"

/-- A text as an object. -/
def textJson (s : String) : Json := .obj [("text", .str s)]

/-- The description of a rule. -/
def rule (e : Entry) : Json :=
  .obj [("id", .str e.errorId), ("shortDescription", textJson e.message),
    ("defaultConfiguration", .obj [("level", .str e.severity.level)])]

/-- Every rule once, in order of first use. -/
def rules (es : List Entry) : List Json :=
  (es.foldl (fun (t : Table String Json) e =>
    if t.contains e.errorId then t else t.insert e.errorId (rule e)) {}).values

/-- The stretch of a file that an entry is about. -/
def region (e : Entry) (place : Location) : Json :=
  .obj ([("startLine", .int place.line)] ++
    (if place.column = 0 then [] else [("startColumn", .int place.column)]) ++
    (match e.underlines with
      | [] => []
      | u :: _ => [("endLine", .int u.stopLine), ("endColumn", .int u.stopColumn)]))

/-- A file. -/
def artifact (file : String) : Json := .obj [("uri", .str file)]

/-- A replacement. -/
def replacement (r : Replacement) : Json :=
  let length : Nat := r.stop - r.start
  .obj [("deletedRegion", .obj [("byteOffset", .int r.start), ("byteLength", .int length)]),
    ("insertedContent", textJson r.text)]

/-- A fix of an entry. -/
def fixJson (e : Entry) (place : Location) (f : Fix) : Json :=
  .obj [("description", textJson (if f.description = "" then e.message else f.description)),
    ("artifactChanges", .arr [.obj [("artifactLocation", artifact place.file),
      ("replacements", .arr (f.replacements.map replacement))]])]

/-- The fields that an entry with a place has. -/
def placed (e : Entry) (place : Location) : List (String × Json) :=
  [("locations", .arr [.obj [("physicalLocation", .obj [("artifactLocation", artifact place.file),
    ("region", region e place)])]])] ++
  (match e.realFix? with
    | some f => [("fixes", .arr [fixJson e place f])]
    | none => [])

/-- An entry (`_SarifBuilder.add`). -/
def result (e : Entry) : Json :=
  .obj ([("ruleId", .str e.errorId), ("level", .str e.severity.level),
      ("message", textJson e.message)] ++
    (match e.location with
      | some place => placed e place
      | none => []))

/-- The report of some entries by a tool (`_SarifBuilder.to_json`). -/
def report (tool toolVersion : String) (es : List Entry) : Json :=
  .obj [("$schema", .str schema), ("version", .str version),
    ("runs", .arr [.obj [
      ("tool", .obj [("driver", .obj [("name", .str tool), ("version", .str toolVersion),
        ("rules", .arr (rules es))])]),
      ("results", .arr (es.map result))]])]

/-- The text of the report, if it can be written. -/
def text? (tool toolVersion : String) (es : List Entry) : Option String :=
  (report tool toolVersion es).pretty?

end CauseLint.Sarif
