import CauseLint.Proofs.Effects
import CauseLint.Proofs.Report.Pages
import CauseLint.Report.Delivery
import Mathlib.Data.List.Forall2

/-!
# Findings on a page

A report with a page has one row for each finding, in the order of reporting. On the page the rows
are grouped by a key that is coarser than the file name, so a row can come to stand under the
heading of another file. Results:

* `Report.addAll_ends`: reporting makes one row for each finding and completes over readable files;
* `Report.page_places_iff`: a page shows every finding once and under the heading of its own file,
  as long as no two of the files differ in case only.
-/

namespace CauseLint

/-! ## Rows of findings -/

/-- The file a finding is shown under; empty for one without a place. -/
def Diagnostic.shownFile (d : Diagnostic) : String :=
  if d.location.line = 0 then "" else d.location.file

/-- An entry prepared from a finding. -/
structure Entry.Tells (e : Entry) (d : Diagnostic) : Prop where
  severity : e.severity = d.severity
  errorId : e.errorId = d.errorId
  message : e.message = d.message
  location : e.location = if d.location.line = 0 then none else some d.location

/-- A row that shows a finding. -/
structure Row.Shows (row : Row) (d : Diagnostic) : Prop where
  severity : row.severity = d.severity
  errorId : row.errorId = d.errorId
  message : row.message = d.message
  file : row.file = d.shownFile
  line : row.line = d.location.line
  column : row.column = if d.location.line = 0 then 0 else d.location.column

section

variable {sources : Sources} {d : Diagnostic} {e : Entry} {file : String}

/-- The file can be asked for its source, whether it has one or not. -/
def Sources.Answers (sources : Sources) (file : String) : Prop :=
  ∃ data, sources.get file = .ok data

theorem Sources.fixedLine_ends (fix : Fix) :
    Gives (sources.fixedLine file fix) (Ends (sources.Answers file) fun _ => True) := by
  unfold fixedLine
  cases source : sources.get file with
  | error x =>
    refine fun log => ⟨fun _ _ => trivial, ?_⟩
    rintro ⟨data, answered⟩
    rw [source] at answered
    cases answered
  | ok data =>
    cases data with
    | none => exact .ok trivial
    | some data =>
      simp only
      split
      · exact .ok trivial
      · refine Gives.bind (Gives.trivial _) ?_
        rintro (_ | _) - <;> exact .ok trivial

theorem Sources.line_of_answers (answers : sources.Answers file) (n : Int) :
    ∃ text, sources.line file n = .ok text := by
  obtain ⟨data, answered⟩ := answers
  unfold line
  rw [answered]
  cases data with
  | none => exact ⟨_, rfl⟩
  | some data => exact ⟨_, rfl⟩

/-- A finding is prepared as an entry that tells it. -/
theorem Diagnostic.toEntry_ends :
    Gives (d.toEntry sources) (Ends (sources.Answers d.location.file) fun e => e.Tells d) := by
  unfold toEntry
  dsimp only
  split
  · exact .ok ⟨rfl, rfl, rfl, rfl⟩
  · refine (sources.fixedLine_ends _).andThen (fun _ => rfl) ?_
    exact fun _ _ => .ok ⟨rfl, rfl, rfl, rfl⟩

/-- The row of an entry shows the finding that the entry tells. -/
theorem Entry.toRow_ends (tells : e.Tells d) :
    Gives (e.toRow sources) (Ends (sources.Answers d.location.file) fun row => row.Shows d) := by
  obtain ⟨severity, errorId, message, location⟩ := tells
  unfold toRow
  by_cases placed : d.location.line = 0
  · rw [if_pos placed] at location
    rw [location]
    refine .ok ⟨severity, errorId, message, ?_, placed.symm, ?_⟩
    · simp [Diagnostic.shownFile, placed]
    · simp [placed]
  · rw [if_neg placed] at location
    rw [location]
    have shown : d.location.file = d.shownFile := by simp [Diagnostic.shownFile, placed]
    have column : d.location.column = if d.location.line = 0 then 0 else d.location.column := by
      simp [placed]
    have quoted : ∀ fixed : String,
        Ends (sources.Answers d.location.file) (fun row : Row => row.Shows d)
          (do let source ← sources.line d.location.file d.location.line
              return { severity := e.severity, errorId := e.errorId, message := e.message
                       notes := e.notes, helps := e.helps, file := d.location.file
                       line := d.location.line, column := d.location.column
                       source := trimBlank source, fixed }) := by
      intro fixed
      cases line : sources.line d.location.file d.location.line with
      | error x =>
        refine ⟨fun row given => (nomatch given), fun answers => ?_⟩
        obtain ⟨text, impossible⟩ := sources.line_of_answers answers d.location.line
        rw [line] at impossible
        cases impossible
      | ok source =>
        refine ⟨?_, fun _ => ⟨_, rfl⟩⟩
        rintro row ⟨⟩
        exact ⟨severity, errorId, message, shown, rfl, column⟩
    dsimp only
    cases e.fix with
    | none => exact fun _ => quoted ""
    | some fix =>
      refine (sources.fixedLine_ends fix).andThen (fun _ => rfl) ?_
      exact fun fixed _ _ => quoted fixed

end

/-! ## Rows of a report -/

namespace Report

variable {o : ReportOptions} {sources : Sources}

/-- Taking an entry into a report with a page adds its row. -/
theorem accept_ends (paged : o.html ≠ "") (r : Report) {e : Entry} {d : Diagnostic}
    (tells : e.Tells d) :
    Gives (accept o sources r e)
      (Ends (o.coloured = false ∧ sources.Answers d.location.file) fun r' =>
        ∃ row : Row, row.Shows d ∧ r'.rows = r.rows ++ [row]) := by
  unfold accept
  cases shown : showEntry o sources e with
  | error x =>
    refine fun _ => ⟨fun r' given => (nomatch given), ?_⟩
    rintro ⟨plain, -⟩
    rw [showEntry, plain] at shown
    cases shown
  | ok text =>
    simp only [if_neg paged]
    refine ((Entry.toRow_ends tells).when And.right).andThen (fun _ => rfl) ?_
    exact fun row shows => .ok ⟨row, shows, rfl⟩

/-- Reporting makes one row for each finding, in order, and completes over readable files unless
colours are wanted. -/
theorem addAll_ends (sources : Sources) (paged : o.html ≠ "") (ds : List Diagnostic) (r : Report) :
    Gives (addAll o sources ds r)
      (Ends (o.coloured = false ∧ ∀ d ∈ ds, sources.Answers d.location.file) fun r' =>
        ∃ rows, List.Forall₂ Row.Shows rows ds ∧ r'.rows = r.rows ++ rows) := by
  induction ds generalizing r with
  | nil => exact .ok ⟨[], .nil, by simp⟩
  | cons d ds ih =>
    have first : (o.coloured = false ∧ ∀ d' ∈ d :: ds, sources.Answers d'.location.file) →
        o.coloured = false ∧ sources.Answers d.location.file :=
      fun fine => ⟨fine.1, fine.2 d (List.mem_cons_self ..)⟩
    rw [addAll]
    refine (Diagnostic.toEntry_ends.when fun fine => (first fine).2).andThen (fun _ => rfl) ?_
    intro e tells
    refine ((accept_ends paged r tells).when first).andThen (fun _ => rfl) ?_
    rintro r' ⟨row, shows, added⟩ log
    obtain ⟨given, done⟩ := ih r' log
    refine ⟨fun r'' out => ?_, fun fine => done ⟨fine.1, fun d' mem => ?_⟩⟩
    · obtain ⟨rest, all, more⟩ := given r'' out
      exact ⟨row :: rest, .cons shows all, by rw [more, added, List.append_assoc]; rfl⟩
    · exact fine.2 d' (List.mem_cons_of_mem _ mem)

/-! ## The page of a report -/

/-- **A page places every finding.** Reporting completes over readable files unless colours are
wanted, and makes one row for each finding. The tables of the page together have every row once,
rows of one file in the order of reporting, no two tables are for one file, and the footer counts
the findings. Every row is under the heading of its own file iff no two of the files differ in case
only. -/
theorem page_places_iff (sources : Sources) (paged : o.html ≠ "") (ds : List Diagnostic)
    (log : Log) :
    (o.coloured = false → (∀ d ∈ ds, sources.Answers d.location.file) →
      ∃ r, ((addAll o sources ds {}).run log).1 = .ok r) ∧
    ∀ r, ((addAll o sources ds {}).run log).1 = .ok r →
      List.Forall₂ Row.Shows r.rows ds ∧
      ∃ groups : List Html.Group,
        Html.read (Html.Template.standard.render r.rows) = some (groups.map (fun g =>
          (Html.escape (Html.heading g.file), g.rows.map Html.rowText)),
          Html.footerText ds.length) ∧
        (groups.map (·.file)).Nodup ∧
        (groups.flatMap (·.rows)).Perm r.rows ∧
        (∀ file, (groups.flatMap (·.rows)).filter (·.file = file) =
          r.rows.filter (·.file = file)) ∧
        ((∀ g ∈ groups, ∀ row ∈ g.rows,
            Html.escape (Html.heading g.file) = Html.escape (Html.heading row.file)) ↔
          Html.CaseApart (ds.map (·.shownFile))) := by
  obtain ⟨given, done⟩ := addAll_ends sources paged ds {} log
  refine ⟨fun plain answers => done ⟨plain, answers⟩, fun r out => ?_⟩
  obtain ⟨rows, shows, eq⟩ := given r out
  rw [List.nil_append] at eq
  subst eq
  have files : r.rows.map (·.file) = ds.map (·.shownFile) := by
    rw [← List.forall₂_eq_eq_eq, List.forall₂_map_left_iff, List.forall₂_map_right_iff]
    exact shows.imp fun _ _ shown => shown.file
  refine ⟨shows, Html.groups r.rows, ?_, Html.nodup_files_groups r.rows,
    Html.perm_rows_groups r.rows, Html.filter_rows_groups r.rows, ?_⟩
  · rw [← shows.length_eq]
    exact Html.read_page r.rows
  · simp only [Html.escape_injective.eq_iff]
    rw [Html.forall_headed_iff, files]

/-- Two findings in files whose names differ in case only. -/
def twins : List Diagnostic :=
  [{ errorId := "missingCause", message := "here", severity := .warning
     location := { file := "A.java", line := 3, column := 1 } },
   { errorId := "missingCause", message := "there", severity := .warning
     location := { file := "a.java", line := 5, column := 1 } }]

/-- One of two findings in files whose names differ in case only is under the heading of the
other's. -/
theorem page_places_iff_twins :
    ({ html := "report.html" } : ReportOptions).html ≠ "" ∧
      ∃ (r : Report) (groups : List Html.Group),
        ((addAll { html := "report.html" } {} twins {}).run []).1 = .ok r ∧
        Html.read (Html.Template.standard.render r.rows) = some (groups.map (fun g =>
          (Html.escape (Html.heading g.file), g.rows.map Html.rowText)), "2 diagnostics.") ∧
        ¬ ∀ g ∈ groups, ∀ row ∈ g.rows,
            Html.escape (Html.heading g.file) = Html.escape (Html.heading row.file) := by
  have paged : ({ html := "report.html" } : ReportOptions).html ≠ "" := by decide
  obtain ⟨done, places⟩ := page_places_iff {} paged twins []
  have answers : ∀ d ∈ twins, Sources.Answers {} d.location.file := by
    simp only [twins, List.forall_mem_cons, List.not_mem_nil, false_implies, implies_true, and_true]
    exact ⟨⟨none, rfl⟩, ⟨none, rfl⟩⟩
  have together : ¬ Html.CaseApart (twins.map (·.shownFile)) := by
    intro apart
    have same : "A.java" = "a.java" :=
      apart _ (by decide +kernel) _ (by decide +kernel) (by decide +kernel)
    exact absurd same (by decide)
  obtain ⟨r, out⟩ := done rfl answers
  obtain ⟨-, groups, text, -, -, -, placed⟩ := places r out
  exact ⟨paged, r, groups, out, text, mt placed.mp together⟩

end Report

end CauseLint
