import CauseLint.Proofs.Json.Lines
import CauseLint.Run.Results
import Mathlib.Data.List.Basic
import Mathlib.Data.List.Forall2

/-!
# Findings as lines of JSON

The machine-readable output has one line for each finding, and nothing of what a line reports is
lost in it: lines hold no line break, so they can be told apart again, and a line tells the place,
the words and the fix of its finding.

Results:

* `Diagnostic.jsonLine_eq_iff`: findings have the same line exactly when they report the same.
* `Results.jsonLines_lossless`: the output is divided into its lines again.
-/

namespace CauseLint

theorem Severity.name_injective : Function.Injective name := by
  intro a b h
  have hname := ofName?_name a
  rw [h, ofName?_name b] at hname
  exact (Option.some.inj hname).symm

theorem Replacement.toJson_injective : Function.Injective toJson := by
  rintro ⟨start, stop, text, _⟩ ⟨start', stop', text', _⟩ h
  simp only [toJson, Json.obj.injEq, List.cons.injEq, Prod.mk.injEq, Json.int.injEq,
    Json.str.injEq, true_and, and_true, Int.natCast_inj] at h
  obtain ⟨rfl, rfl, rfl⟩ := h
  rfl

theorem Fix.toJson_injective : Function.Injective toJson := by
  rintro ⟨replacements, description⟩ ⟨replacements', description'⟩ h
  simp only [toJson, Json.obj.injEq, List.cons.injEq, Prod.mk.injEq, Json.str.injEq,
    Json.arr.injEq, true_and, and_true] at h
  obtain ⟨rfl, hreplacements⟩ := h
  rw [List.map_injective_iff.2 Replacement.toJson_injective hreplacements]

namespace Diagnostic

/-- Two findings are alike in all that the machine-readable output reports. -/
structure ReportedAlike (d e : Diagnostic) : Prop where
  location : d.location = e.location
  severity : d.severity = e.severity
  message : d.message = e.message
  addon : d.addon = e.addon
  errorId : d.errorId = e.errorId
  extra : d.extra = e.extra
  stop : d.stop.map (fun l => (l.line, l.column)) = e.stop.map fun l => (l.line, l.column)
  fix : d.realFix? = e.realFix?

/-- The fields that every finding has. -/
def commonFields (d : Diagnostic) : List (String × Json) :=
  [("file", .str d.location.file), ("linenr", .int d.location.line),
    ("column", .int d.location.column), ("severity", .str d.severity.name),
    ("message", .str d.message), ("addon", .str d.addon), ("errorId", .str d.errorId),
    ("extra", .str d.extra)]

/-- The fields for the end of a finding. -/
def stopFields (stop : Option (Int × Int)) : List (String × Json) :=
  match stop with
  | some (line, column) => [("endLinenr", .int line), ("endColumn", .int column)]
  | none => []

/-- The field for the fix of a finding. -/
def fixFields (fix : Option Fix) : List (String × Json) :=
  match fix with
  | some f => [("fix", f.toJson)]
  | none => []

theorem toJson_eq (d : Diagnostic) :
    d.toJson = .obj (d.commonFields ++
      (stopFields (d.stop.map fun l => (l.line, l.column)) ++ fixFields d.realFix?)) := by
  unfold toJson
  rw [List.append_assoc]
  cases d.stop <;> rfl

theorem stopFields_injective : Function.Injective stopFields := by
  rintro (_ | ⟨line, column⟩) (_ | ⟨line', column'⟩) h
  · rfl
  · cases h
  · cases h
  · simp only [stopFields, List.cons.injEq, Prod.mk.injEq, Json.int.injEq, true_and, and_true] at h
    rw [h.1, h.2]

theorem fixFields_injective : Function.Injective fixFields := by
  rintro (_ | fix) (_ | fix') h
  · rfl
  · cases h
  · cases h
  · simp only [fixFields, List.cons.injEq, Prod.mk.injEq, true_and, and_true] at h
    rw [Fix.toJson_injective h]

/-- The end and the fix of a finding are told apart by the names of their fields. -/
theorem eq_of_moreFields {stop stop' : Option (Int × Int)} {fix fix' : Option Fix}
    (h : stopFields stop ++ fixFields fix = stopFields stop' ++ fixFields fix') :
    stop = stop' ∧ fix = fix' := by
  have hstop : ∀ stop fix, (stopFields stop ++ fixFields fix).filter (·.1 ≠ "fix") =
      stopFields stop := by
    rintro (_ | ⟨line, column⟩) (_ | fix) <;> rfl
  have hfix : ∀ stop fix, (stopFields stop ++ fixFields fix).filter (·.1 = "fix") =
      fixFields fix := by
    rintro (_ | ⟨line, column⟩) (_ | fix) <;> rfl
  refine ⟨stopFields_injective ?_, fixFields_injective ?_⟩
  · rw [← hstop stop fix, h, hstop]
  · rw [← hfix stop fix, h, hfix]

theorem toJson_eq_iff {d e : Diagnostic} : d.toJson = e.toJson ↔ d.ReportedAlike e := by
  rw [toJson_eq, toJson_eq]
  constructor
  · intro h
    obtain ⟨hcommon, hmore⟩ := List.append_inj (Json.obj.inj h) rfl
    obtain ⟨hstop, hfix⟩ := eq_of_moreFields hmore
    simp only [commonFields, List.cons.injEq, Prod.mk.injEq, Json.str.injEq, Json.int.injEq,
      true_and, and_true] at hcommon
    obtain ⟨hfile, hline, hcolumn, hseverity, hmessage, haddon, herrorId, hextra⟩ := hcommon
    have hlocation : (⟨d.location.file, d.location.line, d.location.column⟩ : Location) =
        ⟨e.location.file, e.location.line, e.location.column⟩ := by
      rw [hfile, hline, hcolumn]
    exact ⟨hlocation, Severity.name_injective hseverity, hmessage, haddon, herrorId, hextra, hstop,
      hfix⟩
  · rintro ⟨hlocation, hseverity, hmessage, haddon, herrorId, hextra, hstop, hfix⟩
    rw [commonFields, commonFields, hlocation, hseverity, hmessage, haddon, herrorId, hextra, hstop,
      hfix]

/-- Findings have the same line exactly when they report the same. -/
theorem jsonLine_eq_iff {d e : Diagnostic} : d.jsonLine = e.jsonLine ↔ d.ReportedAlike e :=
  Json.line_injective.eq_iff.trans toJson_eq_iff

theorem isPlain_of_mem_jsonLine (d : Diagnostic) : ∀ c ∈ d.jsonLine.toList, ' ' ≤ c ∧ c ≤ '~' := by
  intro c hc
  have hplain := Json.isPlain_of_mem_line d.toJson c hc
  rw [Json.isPlain, Bool.and_eq_true, decide_eq_true_eq, decide_eq_true_eq] at hplain
  exact hplain

end Diagnostic

namespace Results

variable {r s : Results}

/-- The lines of an output. -/
def linesOf (output : String) : List String := (output.toList.splitOn '\n').map String.ofList

theorem linesOf_jsonLines (hr : r.diagnostics ≠ []) :
    linesOf r.jsonLines = r.diagnostics.map (·.jsonLine) := by
  have hbreak : ∀ l ∈ (r.diagnostics.map (·.jsonLine)).map String.toList, '\n' ∉ l := by
    intro l hl hmem
    obtain ⟨_, hline, rfl⟩ := List.mem_map.1 hl
    obtain ⟨d, -, rfl⟩ := List.mem_map.1 hline
    exact absurd (d.isPlain_of_mem_jsonLine '\n' hmem).1 (by decide)
  have hne : (r.diagnostics.map (·.jsonLine)).map String.toList ≠ [] := by
    rw [Ne, List.map_eq_nil_iff, List.map_eq_nil_iff]
    exact hr
  unfold linesOf jsonLines
  rw [String.toList_intercalate]
  refine (congrArg _ (List.splitOn_intercalate '\n' hbreak hne)).trans ?_
  rw [List.map_map]
  refine (List.map_congr_left fun s _ => ?_).trans (List.map_id _)
  exact String.ofList_toList

/-- Every line of the output holds characters from space to tilde only, so the output of results
with findings is divided at its line breaks into the lines of the findings again; and findings have
the same line exactly when they report the same. -/
theorem jsonLines_lossless (r : Results) (hr : r.diagnostics ≠ []) :
    (∀ d ∈ r.diagnostics, ∀ c ∈ d.jsonLine.toList, ' ' ≤ c ∧ c ≤ '~') ∧
    linesOf r.jsonLines = r.diagnostics.map (·.jsonLine) ∧
    (∀ d e : Diagnostic, d.jsonLine = e.jsonLine ↔ d.ReportedAlike e) :=
  ⟨fun d _ => d.isPlain_of_mem_jsonLine, linesOf_jsonLines hr,
    fun _ _ => Diagnostic.jsonLine_eq_iff⟩

/-- A finding whose words hold quotes, a line break and a character beyond the basic plane. -/
def awkward : Diagnostic where
  errorId := "a\\b"
  message := "say \"no\"\n"
  severity := .warning
  location := ⟨"A.java", 3, 5⟩
  extra := String.ofList [Char.ofNat 0x1F600]

/-- What two such findings say is divided into two lines again. -/
theorem jsonLines_lossless_awkward :
    ({ diagnostics := [awkward, awkward] } : Results).diagnostics ≠ [] ∧
    linesOf ({ diagnostics := [awkward, awkward] } : Results).jsonLines =
      List.replicate 2 ("\x7b\"file\": \"A.java\", \"linenr\": 3, \"column\": 5, " ++
        "\"severity\": \"warning\", \"message\": \"say \\\"no\\\"\\n\", " ++
        "\"addon\": \"flogger-lint\", \"errorId\": \"a\\\\b\", " ++
        "\"extra\": \"\\ud83d\\ude00\"\x7d") := by
  have hne : ({ diagnostics := [awkward, awkward] } : Results).diagnostics ≠ [] :=
    List.cons_ne_nil _ _
  refine ⟨hne, (jsonLines_lossless _ hne).2.1.trans ?_⟩
  decide +kernel

end Results

end CauseLint
