import CauseLint.Proofs.Report.Markup

/-!
# Texts on a page

The texts of a page come from outside: names of files, lines of source, messages. They stand in a
page as texts only, whatever is in them. Results:

* `Report.addAll_remarks`: a row of a finding has no notes and at most one help;
* `Report.page_markup_fixed`: pages of one layout have the same tags, and every page gives its texts
  back.
-/

namespace CauseLint

namespace Html

/-- Which slots of a row are filled. -/
structure Slots where
  severity : Severity
  source : Bool
  fixed : Bool
  notes : Bool
  helps : Bool
deriving DecidableEq

/-- The slots of a row. -/
def slots (r : Row) : Slots :=
  ⟨r.severity, r.source ≠ "", r.fixed ≠ "", !r.notes.isEmpty, !r.helps.isEmpty⟩

/-- The slots of a page, group by group. -/
def slotLayout (rows : List Row) : List (List Slots) := (groups rows).map fun g => g.rows.map slots

/-- The tags of a page, as its layout settles them. -/
theorem tags_render (rows : List Row) :
    tags (Template.standard.render rows).toList = pageTags (layout rows) :=
  (shows_page rows).alone.1

theorem groups_singleton (r : Row) : groups [r] = [⟨r.file, [r]⟩] := by
  rw [groups, List.mergeSort_singleton]
  rfl

end Html

/-! ## Rows of findings -/

/-- A row with no notes and at most one help. -/
def Row.Terse (row : Row) : Prop := row.notes = [] ∧ row.helps.length ≤ 1

/-- The shape of a terse row with some slots. -/
def Html.Slots.shape (s : Html.Slots) : Html.Shape :=
  ⟨s.severity, s.source, s.fixed, 0, if s.helps then 1 else 0⟩

theorem Row.Terse.shape_eq {r : Row} (terse : r.Terse) : Html.shape r = (Html.slots r).shape := by
  obtain ⟨notes, helps⟩ := terse
  have count : r.helps.length = if !r.helps.isEmpty then 1 else 0 := by
    cases help : r.helps with
    | nil => rfl
    | cons text rest =>
      rw [help, List.length_cons] at helps
      simpa using helps
  rw [Html.shape, Html.slots, Html.Slots.shape, notes, count]
  rfl

/-- The slots of terse rows settle the layout of their page. -/
theorem Html.layout_of_terse {rows : List Row} (terse : ∀ r ∈ rows, r.Terse) :
    layout rows = (slotLayout rows).map fun g => g.map Slots.shape := by
  rw [layout, slotLayout, List.map_map]
  refine List.map_congr_left fun g memG => ?_
  rw [Function.comp_apply, List.map_map]
  refine List.map_congr_left fun r memR => ?_
  have mem : r ∈ rows :=
    (perm_rows_groups rows).mem_iff.mp (List.mem_flatMap.mpr ⟨g, memG, memR⟩)
  exact (terse r mem).shape_eq

section

variable {sources : Sources} {fine : Prop}

/-- An entry of a finding has no notes and at most one help. -/
theorem Diagnostic.toEntry_remarks (d : Diagnostic) :
    Gives (d.toEntry sources) (Ends False fun e => e.notes = [] ∧ e.helps.length ≤ 1) := by
  unfold toEntry
  dsimp only
  split
  · exact .ok ⟨rfl, Nat.zero_le 1⟩
  · refine ((sources.fixedLine_ends _).when False.elim).andThen (fun _ => rfl) ?_
    exact fun _ _ => .ok ⟨rfl, le_rfl⟩

/-- The row of an entry has its notes and helps. -/
theorem Entry.toRow_remarks (e : Entry) :
    Gives (e.toRow sources)
      (Ends False fun row => row.notes = e.notes ∧ row.helps = e.helps) := by
  have quoted : ∀ (place : Location) (fixed : String),
      Ends False (fun row : Row => row.notes = e.notes ∧ row.helps = e.helps)
        (do let source ← sources.line place.file place.line
            return { severity := e.severity, errorId := e.errorId, message := e.message
                     notes := e.notes, helps := e.helps, file := place.file
                     line := place.line, column := place.column
                     source := trimBlank source, fixed }) := by
    refine fun place fixed => ⟨fun row given => ?_, False.elim⟩
    obtain ⟨source, -, made⟩ := exists_of_bind_eq_ok given
    obtain rfl := Except.ok.inj made
    exact ⟨rfl, rfl⟩
  unfold toRow
  cases e.location with
  | none => exact .ok ⟨rfl, rfl⟩
  | some place =>
    dsimp only
    cases e.fix with
    | none => exact fun _ => quoted place ""
    | some fix =>
      refine ((sources.fixedLine_ends fix).when False.elim).andThen (fun _ => rfl) ?_
      exact fun fixed _ _ => quoted place fixed

end

namespace Report

variable {o : ReportOptions} {sources : Sources}

theorem accept_remarks (r : Report) {e : Entry} (terse : e.notes = [] ∧ e.helps.length ≤ 1) :
    Gives (accept o sources r e) (Ends False fun r' =>
      (∀ row ∈ r.rows, row.Terse) → ∀ row ∈ r'.rows, row.Terse) := by
  unfold accept
  cases showEntry o sources e with
  | error x => exact fun _ => ⟨fun r' given => (nomatch given), False.elim⟩
  | ok text =>
    simp only
    split
    · exact .ok fun before => before
    · refine (Entry.toRow_remarks e).andThen (fun _ => rfl) ?_
      rintro row ⟨notes, helps⟩
      refine .ok fun before row' mem => ?_
      rcases List.mem_append.mp mem with mem | mem
      · exact before row' mem
      · rw [List.mem_singleton.mp mem, Row.Terse, notes, helps]
        exact terse

/-- A row of a finding has no notes and at most one help. -/
theorem addAll_remarks (o : ReportOptions) (sources : Sources) (ds : List Diagnostic) (r : Report) :
    Gives (addAll o sources ds r) (Ends False fun r' =>
      (∀ row ∈ r.rows, row.Terse) → ∀ row ∈ r'.rows, row.Terse) := by
  induction ds generalizing r with
  | nil => exact .ok fun before => before
  | cons d ds ih =>
    rw [addAll]
    refine (Diagnostic.toEntry_remarks d).andThen (fun _ => rfl) ?_
    intro e terse
    refine (accept_remarks r terse).andThen (fun _ => rfl) ?_
    intro r' step log
    obtain ⟨given, -⟩ := ih r' log
    exact ⟨fun r'' out before => given r'' out (step before), False.elim⟩

/-! ## The markup of a page -/

/-- **Texts from outside stay texts.** Pages whose rows have the same shapes, group by group, have
the same tags, whatever their texts are. The texts that a page holds are the headings of its groups
and the texts of its rows, once their escapes are undone. For findings it is enough that the same
slots of their rows are filled. -/
theorem page_markup_fixed :
    (∀ rows rows' : List Row, Html.layout rows = Html.layout rows' →
      Html.tags (Html.Template.standard.render rows).toList =
        Html.tags (Html.Template.standard.render rows').toList) ∧
    (∀ rows : List Row,
      (Html.texts Html.margins (Html.Template.standard.render rows).toList).map
        (fun cs => String.ofList (Html.unescape cs)) = Html.pageTexts rows) ∧
    ∀ (o o' : ReportOptions) (sources sources' : Sources) (ds ds' : List Diagnostic)
      (log log' : Log) (r r' : Report), o.html ≠ "" → o'.html ≠ "" →
      ((addAll o sources ds {}).run log).1 = .ok r →
      ((addAll o' sources' ds' {}).run log').1 = .ok r' →
      List.Forall₂ Row.Shows r.rows ds ∧ List.Forall₂ Row.Shows r'.rows ds' ∧
      (Html.slotLayout r.rows = Html.slotLayout r'.rows →
        Html.tags (Html.Template.standard.render r.rows).toList =
          Html.tags (Html.Template.standard.render r'.rows).toList) := by
  have terse : ∀ (o : ReportOptions) (sources : Sources) (ds : List Diagnostic) (log : Log)
      (r : Report), ((addAll o sources ds {}).run log).1 = .ok r → ∀ row ∈ r.rows, row.Terse :=
    fun o sources ds log r out =>
      (addAll_remarks o sources ds {} log).1 r out (List.forall_mem_nil _)
  have shown : ∀ (o : ReportOptions) (sources : Sources) (ds : List Diagnostic) (log : Log)
      (r : Report), o.html ≠ "" → ((addAll o sources ds {}).run log).1 = .ok r →
      List.Forall₂ Row.Shows r.rows ds := by
    intro o sources ds log r paged out
    obtain ⟨rows, shows, eq⟩ := (addAll_ends sources paged ds {} log).1 r out
    rw [eq]
    exact shows
  refine ⟨fun rows rows' same => ?_, fun rows => ?_, ?_⟩
  · rw [Html.tags_render, Html.tags_render, same]
  · have read : Html.texts Html.margins (Html.Template.standard.render rows).toList =
        Html.written (Html.pageTexts rows) := (Html.shows_page rows).alone.2
    rw [read, Html.written, List.map_map]
    exact List.map_id'' Html.unescape_escape _
  · intro o o' sources sources' ds ds' log log' r r' paged paged' out out'
    refine ⟨shown o sources ds log r paged out, shown o' sources' ds' log' r' paged' out', ?_⟩
    intro same
    rw [Html.tags_render, Html.tags_render, Html.layout_of_terse (terse o sources ds log r out),
      same, ← Html.layout_of_terse (terse o' sources' ds' log' r' out')]

/-- A finding in a file, with a message. -/
def told (file message : String) : List Diagnostic :=
  [{ errorId := "missingCause", message, severity := .warning
     location := { file, line := 3, column := 1 } }]

/-- The row of such a finding. -/
def toldRow (file message : String) : Row :=
  { severity := .warning, errorId := "missingCause", message, file, line := 3, column := 1
    source := trimBlank "" }

/-- An entry without a place, with some notes. -/
def noted (notes : List String) : List Entry :=
  [{ severity := .warning, errorId := "missingCause", message := "here", notes }]

/-- A page of such an entry has one row. -/
theorem acceptAll_noted (notes : List String) : ∃ r : Report,
    ((acceptAll { html := "report.html" } {} (noted notes) {}).run []).1 = .ok r ∧
    r.rows = [{ severity := .warning, errorId := "missingCause", message := "here", notes }] :=
  ⟨⟨_, [_], _⟩, rfl, rfl⟩

/-- Markup in a note, in a message and in the name of a file adds no tags to a page. -/
theorem page_markup_fixed_script :
    (∃ r r' : Report,
      ((acceptAll { html := "report.html" } {} (noted ["</div><b>"]) {}).run []).1 = .ok r ∧
      ((acceptAll { html := "report.html" } {} (noted ["see there"]) {}).run []).1 = .ok r' ∧
      Html.layout r.rows = Html.layout r'.rows ∧
      Html.tags (Html.Template.standard.render r.rows).toList =
        Html.tags (Html.Template.standard.render r'.rows).toList) ∧
    ({ html := "report.html" } : ReportOptions).html ≠ "" ∧
    ∃ r r' : Report,
      ((addAll { html := "report.html" } {} (told "<i>.java" "</td><script>") {}).run []).1 =
        .ok r ∧
      ((addAll { html := "report.html" } {} (told "A.java" "here") {}).run []).1 = .ok r' ∧
      Html.slotLayout r.rows = Html.slotLayout r'.rows ∧
      Html.tags (Html.Template.standard.render r.rows).toList =
        Html.tags (Html.Template.standard.render r'.rows).toList ∧
      (Html.texts Html.margins (Html.Template.standard.render r.rows).toList).map
        (fun cs => String.ofList (Html.unescape cs)) =
          ["<i>.java", "</td><script>", "missingCause"] := by
  obtain ⟨sameTags, texts, findings⟩ := page_markup_fixed
  have paged : ({ html := "report.html" } : ReportOptions).html ≠ "" := by decide
  refine ⟨?notes, paged, ?findings⟩
  case notes =>
    obtain ⟨r, out, row⟩ := acceptAll_noted ["</div><b>"]
    obtain ⟨r', out', row'⟩ := acceptAll_noted ["see there"]
    have layout : Html.layout r.rows = Html.layout r'.rows := by
      rw [row, row', Html.layout, Html.layout, Html.groups_singleton, Html.groups_singleton]
      decide +kernel
    exact ⟨r, r', out, out', layout, sameTags _ _ layout⟩
  case findings =>
    obtain ⟨r, out, row⟩ : ∃ r : Report,
        ((addAll { html := "report.html" } {} (told "<i>.java" "</td><script>") {}).run []).1 =
          .ok r ∧ r.rows = [toldRow "<i>.java" "</td><script>"] := by
      refine ⟨_, rfl, ?_⟩
      rfl
    obtain ⟨r', out', row'⟩ : ∃ r' : Report,
        ((addAll { html := "report.html" } {} (told "A.java" "here") {}).run []).1 = .ok r' ∧
          r'.rows = [toldRow "A.java" "here"] := by
      refine ⟨_, rfl, ?_⟩
      rfl
    have slots : Html.slotLayout r.rows = Html.slotLayout r'.rows := by
      rw [row, row', Html.slotLayout, Html.slotLayout, Html.groups_singleton,
        Html.groups_singleton]
      decide +kernel
    refine ⟨r, r', out, out', slots, (findings _ _ _ _ _ _ _ _ r r' paged paged out out').2.2 slots,
      ?_⟩
    rw [texts, row, Html.pageTexts, Html.groups_singleton]
    decide +kernel

/-- Each note has tags of its own, so it is not enough that the same slots are filled when entries
have notes. -/
theorem page_tags_count_notes :
    ∃ r r' : Report,
      ((acceptAll { html := "report.html" } {} (noted ["x"]) {}).run []).1 = .ok r ∧
      ((acceptAll { html := "report.html" } {} (noted ["x", "y"]) {}).run []).1 = .ok r' ∧
      r.rows.map (fun row => (row.file, row.line, row.column)) =
        r'.rows.map (fun row => (row.file, row.line, row.column)) ∧
      Html.slotLayout r.rows = Html.slotLayout r'.rows ∧
      Html.tags (Html.Template.standard.render r.rows).toList ≠
        Html.tags (Html.Template.standard.render r'.rows).toList := by
  obtain ⟨r, out, row⟩ := acceptAll_noted ["x"]
  obtain ⟨r', out', row'⟩ := acceptAll_noted ["x", "y"]
  refine ⟨r, r', out, out', ?places, ?slots, ?tags⟩
  case places => rw [row, row']; rfl
  case slots =>
    rw [row, row', Html.slotLayout, Html.slotLayout, Html.groups_singleton, Html.groups_singleton]
    decide +kernel
  case tags =>
    rw [Html.tags_render, Html.tags_render, row, row', Html.layout, Html.layout,
      Html.groups_singleton, Html.groups_singleton]
    intro same
    rw [Html.pageTags, Html.pageTags, List.append_cancel_right_eq, List.append_cancel_right_eq,
      List.append_cancel_right_eq, List.append_cancel_left_eq] at same
    have longer := congrArg List.length same
    revert longer
    decide +kernel

end Report

end CauseLint
