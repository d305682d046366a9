import CauseLint.Proofs.Report.Placement
import CauseLint.Proofs.Report.Tags

/-!
# Markup of a page

The texts of a page come from outside: names of files, lines of source, messages. They are escaped
where they are written, so whatever they are, the tags of the page are its own, and the texts can be
read back.

Results:

* `unescape_escape`: undoing the escapes gives a text back.
* `shows_page`: the tags of a page, and the texts that they hold.
* `Report.page_markup_fixed`: pages of one shape have the same tags, and every page holds its texts.
-/

namespace CauseLint.Html

/-! ## Undoing escapes -/

/-- Characters with the escapes undone. -/
def unescape : List Char → List Char
  | '&' :: 'a' :: 'm' :: 'p' :: ';' :: cs => '&' :: unescape cs
  | '&' :: 'l' :: 't' :: ';' :: cs => '<' :: unescape cs
  | '&' :: 'g' :: 't' :: ';' :: cs => '>' :: unescape cs
  | '&' :: '#' :: '3' :: '9' :: ';' :: cs => '\'' :: unescape cs
  | '&' :: '#' :: '3' :: '4' :: ';' :: cs => '"' :: unescape cs
  | c :: cs => c :: unescape cs
  | [] => []

theorem unescape_escapeChar (c : Char) (cs : List Char) :
    unescape (escapeChar c ++ cs) = c :: unescape cs := by
  unfold escapeChar
  split
  case h_6 other _ _ _ _ =>
    rw [List.singleton_append, unescape.eq_def]
    split <;> simp_all
  all_goals rfl

/-- Undoing the escapes gives a text back. -/
theorem unescape_escape (s : String) : String.ofList (unescape (escape s).toList) = s := by
  have chars : ∀ cs : List Char, unescape (cs.flatMap escapeChar) = cs := by
    intro cs
    induction cs with
    | nil => rfl
    | cons c cs ih => rw [List.flatMap_cons, unescape_escapeChar, ih]
  rw [escape, String.toList_ofList, chars, String.ofList_toList]

/-! ## Rows -/

/-- What the markup of a row depends on. -/
structure Shape where
  severity : Severity
  hasSource : Bool
  hasFixed : Bool
  notes : ℕ
  helps : ℕ
deriving DecidableEq

/-- The shape of a row. -/
def shape (r : Row) : Shape :=
  ⟨r.severity, r.source ≠ "", r.fixed ≠ "", r.notes.length, r.helps.length⟩

/-- The tag that a line of source stands behind. -/
def codeTag (cls : String) : List Char := s!"code class=\"{cls}\"".toList

/-- The tag that a remark stands behind. -/
def remarkTag : List Char := "div class=\"note\"".toList

/-- Which tags of a page hold texts from outside, with the widths of their margins. -/
def margins (tag : List Char) : Option (ℕ × ℕ) :=
  [("h2".toList, (0, 0)), ("td".toList, (9, 1)), ("code".toList, (1, 1)),
    (codeTag "before", (2, 0)), (codeTag "after", (2, 0)), (remarkTag, (6, 0))].lookup tag

/-- The tags of a line of source. -/
def codeTags (cls : String) (shown : Bool) : List (List Char) :=
  if shown then [codeTag cls, "/code".toList] else []

/-- The tags of some remarks. -/
def remarkTags (count : ℕ) : List (List Char) :=
  (List.replicate count [remarkTag, "/div".toList]).flatten

/-- The tags of a row. -/
def rowTags (s : Shape) : List (List Char) :=
  ["tr".toList, "td class=\"pos\"".toList, "/td".toList,
    s!"td class=\"{s.severity.name}\"".toList, "/td".toList] ++
  ["td".toList, "code".toList, "/code".toList] ++ codeTags "before" s.hasSource ++
  codeTags "after" s.hasFixed ++ remarkTags s.notes ++ remarkTags s.helps ++
  ["/td".toList, "/tr".toList]

/-- The texts from outside in a row. -/
def rowTexts (r : Row) : List String :=
  [r.message, r.errorId] ++ [r.source].filter (· ≠ "") ++ [r.fixed].filter (· ≠ "") ++ r.notes ++
    r.helps

/-- Texts as they are written. -/
def written (ss : List String) : List (List Char) := ss.map fun s => (escape s).toList

theorem written_append (ss ts : List String) : written (ss ++ ts) = written ss ++ written ts :=
  List.map_append

theorem written_flatMap {α : Type} (f : α → List String) (xs : List α) :
    written (xs.flatMap f) = xs.flatMap fun x => written (f x) := List.map_flatMap

/-- A text behind a fixed word does not open a tag. -/
theorem notMem_margin {before behind : List Char} (first : '<' ∉ before) (last : '<' ∉ behind)
    (s : String) : '<' ∉ before ++ (escape s).toList ++ behind := by
  rw [List.mem_append, List.mem_append]
  exact not_or.mpr ⟨not_or.mpr ⟨first, notMem_escape s⟩, last⟩

/-- A line of source shows its tags and holds the source. -/
theorem shows_codeLine {cls sign : String} (tag : '>' ∉ codeTag cls)
    (widths : margins (codeTag cls) = some ((sign ++ " ").toList.length, 0))
    (plain : '<' ∉ (sign ++ " ").toList) (source : String) :
    Shows margins (render (codeLine cls sign source)).toList (codeTags cls (source ≠ ""))
      (written ([source].filter (· ≠ ""))) := by
  by_cases empty : source = ""
  · subst empty
    exact fun _ => ⟨rfl, rfl⟩
  · have opening : (Piece.markup s!"<code class=\"{cls}\">{sign} ").render.toList =
        Scan.tagText (codeTag cls) ++ (sign ++ " ").toList := by
      simp [Piece.render, Scan.tagText, codeTag, toString]
    have closing : (Piece.markup "</code>").render.toList = Scan.tagText "/code".toList ++ [] := by
      decide +kernel
    have stop : Shows margins (Scan.tagText "/code".toList ++ []) ["/code".toList] [] :=
      (Shows.bare (by decide +kernel) (by decide +kernel)).append (.of_text (by decide))
    have inside : '<' ∉ (sign ++ " ").toList ++ (escape source).toList ++ [] :=
      notMem_margin plain List.not_mem_nil source
    have whole := Shows.holding tag widths inside stop
    have shown : (render (codeLine cls sign source)).toList = Scan.tagText (codeTag cls) ++
        ((sign ++ " ").toList ++ (escape source).toList ++ []) ++
          (Scan.tagText "/code".toList ++ []) := by
      rw [codeLine, if_neg empty, toList_render_cons, toList_render_cons, toList_render_singleton,
        opening, closing, Piece.render]
      simp only [List.append_assoc, List.append_nil]
    have tags : codeTags cls (source ≠ "") = [codeTag cls, "/code".toList] := by
      rw [codeTags, if_pos (decide_eq_true empty)]
    have texts : written ([source].filter (· ≠ "")) = [(escape source).toList] := by
      simp [written, empty]
    rw [shown, tags, texts]
    exact whole

/-- Remarks show their tags and hold their texts. -/
theorem shows_remarks {word : String} (width : (word ++ ": ").toList.length = 6)
    (plain : '<' ∉ (word ++ ": ").toList) (remarks : List String) :
    Shows margins (render (remarks.flatMap (remark word))).toList (remarkTags remarks.length)
      (written remarks) := by
  have each : ∀ text ∈ remarks, Shows margins (render (remark word text)).toList
      [remarkTag, "/div".toList] [(escape text).toList] := by
    intro text _
    have opening : (Piece.markup s!"<div class=\"note\">{word}: ").render.toList =
        Scan.tagText remarkTag ++ (word ++ ": ").toList := by
      have written : (Piece.markup s!"<div class=\"note\">{word}: ").render =
          "<div class=\"note\">" ++ word ++ ": " := rfl
      have tag : "<div class=\"note\">".toList = Scan.tagText remarkTag := by decide +kernel
      rw [written, String.toList_append, String.toList_append, String.toList_append, tag,
        List.append_assoc]
    have closing : (Piece.markup "</div>").render.toList = Scan.tagText "/div".toList ++ [] := by
      decide +kernel
    have stop : Shows margins (Scan.tagText "/div".toList ++ []) ["/div".toList] [] :=
      (Shows.bare (by decide +kernel) (by decide +kernel)).append (.of_text (by decide))
    have widths : margins remarkTag = some ((word ++ ": ").toList.length, 0) := by
      rw [width]
      decide +kernel
    have noEnd : '>' ∉ remarkTag := by decide +kernel
    have inside : '<' ∉ (word ++ ": ").toList ++ (escape text).toList ++ [] :=
      notMem_margin plain List.not_mem_nil text
    have whole := Shows.holding noEnd widths inside stop
    have shown : (render (remark word text)).toList = Scan.tagText remarkTag ++
        ((word ++ ": ").toList ++ (escape text).toList ++ []) ++
          (Scan.tagText "/div".toList ++ []) := by
      rw [remark, toList_render_cons, toList_render_cons, toList_render_singleton, opening, closing,
        Piece.render]
      simp only [List.append_assoc, List.append_nil]
    rw [shown]
    exact whole
  have whole := Shows.flatMap each
  have tags : remarkTags remarks.length = remarks.flatMap fun _ => [remarkTag, "/div".toList] := by
    rw [remarkTags, List.flatMap_def, List.map_const']
  have texts : written remarks = remarks.flatMap fun text => [(escape text).toList] :=
    List.map_eq_flatMap ..
  rw [toList_render_flatMap, tags, texts]
  exact whole

/-- What stands in a row before its message. -/
def rowLead (r : Row) : String :=
  "\n    <tr>\n      <td class=\"pos\">" ++ position r ++
    s!"</td>\n      <td class=\"{r.severity.name}\">{r.severity.name}</td>\n      "

/-- What stands in a row before its message shows tags only. -/
theorem shows_rowLead (r : Row) :
    Shows margins (rowLead r).toList
      ["tr".toList, "td class=\"pos\"".toList, "/td".toList,
        s!"td class=\"{r.severity.name}\"".toList, "/td".toList] [] := by
  have first : Shows margins "\n    <tr>\n      <td class=\"pos\">".toList
      ["tr".toList, "td class=\"pos\"".toList] [] :=
    .of_markup (by decide +kernel) (by decide +kernel)
  have last : ∀ s : Severity, Shows margins
      s!"</td>\n      <td class=\"{s.name}\">{s.name}</td>\n      ".toList
      ["/td".toList, s!"td class=\"{s.name}\"".toList, "/td".toList] [] := by
    intro s
    have read : tags s!"</td>\n      <td class=\"{s.name}\">{s.name}</td>\n      ".toList =
        ["/td".toList, s!"td class=\"{s.name}\"".toList, "/td".toList] := by
      cases s <;> decide +kernel
    exact read ▸ .of_closes (by cases s <;> decide +kernel)
  unfold rowLead
  rw [String.toList_append, String.toList_append]
  exact (first.append (.of_text (notMem_position r))).append (last r.severity)

/-- The message and the name in a row. -/
def rowTitle (r : Row) : List Char :=
  Scan.tagText "td".toList ++ ("\n        ".toList ++ (escape r.message).toList ++ " ".toList) ++
    (Scan.tagText "code".toList ++ ("[".toList ++ (escape r.errorId).toList ++ "]".toList) ++
      (Scan.tagText "/code".toList ++ []))

/-- The message and the name in a row are held. -/
theorem shows_rowTitle (r : Row) :
    Shows margins (rowTitle r) ["td".toList, "code".toList, "/code".toList]
      (written [r.message, r.errorId]) := by
  have stop : Shows margins (Scan.tagText "/code".toList ++ []) ["/code".toList] [] :=
    (Shows.bare (by decide +kernel) (by decide +kernel)).append (.of_text (by decide))
  have code : Shows margins
      (Scan.tagText "code".toList ++ ("[".toList ++ (escape r.errorId).toList ++ "]".toList) ++
        (Scan.tagText "/code".toList ++ []))
      ["code".toList, "/code".toList] [(escape r.errorId).toList] :=
    .holding (by decide +kernel) (by decide +kernel)
      (notMem_margin (by decide +kernel) (by decide +kernel) _) stop
  rw [List.append_assoc] at code
  rw [rowTitle, List.append_assoc (Scan.tagText "code".toList)]
  exact .holding (by decide +kernel) (by decide +kernel)
    (notMem_margin (by decide +kernel) (by decide +kernel) _) code

/-- A row, stretch by stretch. -/
theorem toList_render_rowPieces_eq (r : Row) :
    (render (rowPieces r)).toList = (rowLead r).toList ++ (rowTitle r ++ ("\n        ".toList ++
      ((render (codeLine "before" "-" r.source)).toList ++ ("\n        ".toList ++
      ((render (codeLine "after" "+" r.fixed)).toList ++ ("\n        ".toList ++
      ((render (r.notes.flatMap (remark "note"))).toList ++ ("\n        ".toList ++
      ((render (r.helps.flatMap (remark "help"))).toList ++
        "\n      </td>\n    </tr>\n    ".toList))))))))) := by
  have first : (Piece.markup s!"\n    <tr>\n      <td class=\"pos\">{position r}</td>\n").render =
      "\n    <tr>\n      <td class=\"pos\">" ++ position r ++ "</td>\n" := rfl
  have second : ∀ (s : Severity) (rest : List Char), "</td>\n".toList ++ ((Piece.markup
      s!"      <td class=\"{s.name}\">{s.name}</td>\n      <td>\n        ").render.toList ++ rest) =
      s!"</td>\n      <td class=\"{s.name}\">{s.name}</td>\n      ".toList ++
        (Scan.tagText "td".toList ++ ("\n        ".toList ++ rest)) := by
    intro s rest
    rw [← List.append_assoc, ← List.append_assoc, ← List.append_assoc]
    refine congrArg (· ++ rest) ?_
    cases s <;> decide +kernel
  have opening : (Piece.markup " <code>[").render.toList =
      " ".toList ++ (Scan.tagText "code".toList ++ "[".toList) := by decide +kernel
  have closing : (Piece.markup "]</code>\n        ").render.toList =
      "]".toList ++ (Scan.tagText "/code".toList ++ "\n        ".toList) := by decide +kernel
  have message : (Piece.text r.message).render = escape r.message := rfl
  have name : (Piece.text r.errorId).render = escape r.errorId := rfl
  have blank : (Piece.markup "\n        ").render = "\n        " := rfl
  have last : (Piece.markup "\n      </td>\n    </tr>\n    ").render =
      "\n      </td>\n    </tr>\n    " := rfl
  have nothing : (render []).toList = [] := rfl
  -- rewriting with their equations would evaluate the texts in them
  unfold rowLead rowTitle
  simp only [rowPieces, toList_render_append, toList_render_cons, nothing,
    List.append_assoc, first, second, opening, closing, message, name, blank, last,
    String.toList_append, List.append_nil]

/-- A row shows its tags and holds its texts. -/
theorem shows_rowPieces (r : Row) :
    Shows margins (render (rowPieces r)).toList (rowTags (shape r)) (written (rowTexts r)) := by
  have blank : Shows margins "\n        ".toList [] [] := .of_text (by decide)
  have stop : Shows margins "\n      </td>\n    </tr>\n    ".toList ["/td".toList, "/tr".toList] [] :=
    .of_markup (by decide +kernel) (by decide +kernel)
  have before : Shows margins (render (codeLine "before" "-" r.source)).toList
      (codeTags "before" (r.source ≠ "")) (written ([r.source].filter (· ≠ ""))) :=
    shows_codeLine (by decide +kernel) (by decide +kernel) (by decide +kernel) r.source
  have after : Shows margins (render (codeLine "after" "+" r.fixed)).toList
      (codeTags "after" (r.fixed ≠ "")) (written ([r.fixed].filter (· ≠ ""))) :=
    shows_codeLine (by decide +kernel) (by decide +kernel) (by decide +kernel) r.fixed
  have notes : Shows margins (render (r.notes.flatMap (remark "note"))).toList
      (remarkTags r.notes.length) (written r.notes) :=
    shows_remarks (by decide +kernel) (by decide +kernel) r.notes
  have helps : Shows margins (render (r.helps.flatMap (remark "help"))).toList
      (remarkTags r.helps.length) (written r.helps) :=
    shows_remarks (by decide +kernel) (by decide +kernel) r.helps
  have whole := (shows_rowLead r).append ((shows_rowTitle r).append (blank.append (before.append
    (blank.append (after.append (blank.append (notes.append (blank.append
      (helps.append stop)))))))))
  rw [toList_render_rowPieces_eq]
  simpa only [rowTags, rowTexts, shape, written_append, List.append_assoc, List.nil_append,
    List.append_nil] using whole

/-! ## Pages -/

/-- The tags of a group. -/
def groupTags (rows : List Shape) : List (List Char) :=
  ["h2".toList, '/' :: "h2".toList] ++ ["table".toList] ++ rows.flatMap rowTags ++
    ['/' :: "table".toList]

/-- The texts from outside in a group. -/
def groupTexts (g : Group) : List String := heading g.file :: g.rows.flatMap rowTexts

/-- A group shows its tags and holds its texts. -/
theorem shows_groupPieces (g : Group) :
    Shows margins (render (groupPieces g)).toList (groupTags (g.rows.map shape))
      (written (groupTexts g)) := by
  have blank : Shows margins "\n  ".toList [] [] := .of_text (by decide)
  have stop : Shows margins (Scan.tagText ('/' :: "h2".toList) ++ []) [('/' :: "h2".toList)] [] :=
    (Shows.bare (by decide +kernel) (by decide +kernel)).append (.of_text (by decide))
  have title : Shows margins (Scan.tagText "h2".toList ++ ([] ++ (escape (heading g.file)).toList ++
      []) ++ (Scan.tagText ('/' :: "h2".toList) ++ [])) ["h2".toList, '/' :: "h2".toList]
      [(escape (heading g.file)).toList] :=
    .holding (by decide +kernel) (by decide +kernel) (notMem_margin List.not_mem_nil List.not_mem_nil _)
      stop
  have opening : Shows margins (Scan.tagText "table".toList) ["table".toList] [] :=
    .bare (by decide +kernel) (by decide +kernel)
  have closing : Shows margins (Scan.tagText ('/' :: "table".toList)) ['/' :: "table".toList] [] :=
    .bare (by decide +kernel) (by decide +kernel)
  have lead : Shows margins "\n    ".toList [] [] := .of_text (by decide)
  have rows := Shows.flatMap fun r (_ : r ∈ g.rows) => shows_rowPieces r
  have whole := blank.append (title.append (blank.append (opening.append (lead.append (rows.append
    (blank.append (closing.append blank)))))))
  have texts : written (groupTexts g) =
      [(escape (heading g.file)).toList] ++ g.rows.flatMap fun r => written (rowTexts r) := by
    rw [groupTexts, ← written_flatMap]
    rfl
  rw [toList_render_groupPieces, texts, groupTags, List.flatMap_map]
  unfold Scan.elementText tableText
  simpa only [String.toList_append, toList_render_flatMap, List.append_assoc, List.nil_append,
    List.append_nil] using whole

/-- Lines show their tags one after another when each ends outside tags and holds no texts. -/
theorem shows_lines {lines : List String}
    (closed : ∀ l ∈ lines, Shows.closes margins none l.toList = true) :
    Shows margins ("\n".intercalate lines).toList (lines.flatMap fun l => tags l.toList) [] := by
  induction lines with
  | nil => exact .of_text (by simp)
  | cons l rest ih =>
    obtain ⟨first, closed⟩ := List.forall_mem_cons.mp closed
    have line := Shows.of_closes first
    cases rest with
    | nil => simpa using line
    | cons l' rest =>
      have feed : Shows margins "\n".toList [] [] := .of_text (by decide)
      rw [String.intercalate_cons_cons, String.toList_append, String.toList_append]
      simpa only [List.append_nil, List.flatMap_cons] using (line.append feed).append (ih closed)

/-- The tags of the page up to its first group. -/
def headTags : List (List Char) := headLines.flatMap fun l => tags l.toList

/-- What the tags of a page depend on: the shapes of its rows, group by group. -/
def layout (rows : List Row) : List (List Shape) := (groups rows).map fun g => g.rows.map shape

/-- The tags of a page. -/
def pageTags (layout : List (List Shape)) : List (List Char) :=
  headTags ++ layout.flatMap groupTags ++ ["footer".toList] ++ ['/' :: "footer".toList] ++
    ["/body".toList, "/html".toList]

/-- The texts from outside in a page. -/
def pageTexts (rows : List Row) : List String := (groups rows).flatMap groupTexts

/-- A page shows its tags and holds its texts. -/
theorem shows_page (rows : List Row) :
    Shows margins (render (page rows)).toList (pageTags (layout rows))
      (written (pageTexts rows)) := by
  have head : Shows margins ("\n".intercalate headLines).toList headTags [] := by
    refine shows_lines ?_
    simp only [headLines, List.forall_mem_cons, List.not_mem_nil, false_implies, implies_true,
      and_true]
    and_intros
    all_goals exact Shows.closes_literal (by decide +kernel)
  have groups := Shows.flatMap fun g (_ : g ∈ groups rows) => shows_groupPieces g
  have blank : Shows margins "\n  ".toList [] [] := .of_text (by decide)
  have opening : Shows margins (Scan.tagText "footer".toList) ["footer".toList] [] :=
    .bare (by decide +kernel) (by decide +kernel)
  have closing : Shows margins (Scan.tagText ('/' :: "footer".toList)) ['/' :: "footer".toList] [] :=
    .bare (by decide +kernel) (by decide +kernel)
  have count : Shows margins (footerText rows.length).toList [] [] :=
    .of_text (notMem_footerText rows.length)
  have last : Shows margins "\n</body>\n</html>".toList ["/body".toList, "/html".toList] [] :=
    .of_markup (by decide +kernel) (by decide +kernel)
  have whole := head.append (groups.append (blank.append (opening.append (count.append
    (closing.append last)))))
  have markup : (Piece.markup ("\n".intercalate headLines)).render = "\n".intercalate headLines :=
    rfl
  have foot : (Piece.markup (footer rows.length)).render = footer rows.length := rfl
  rw [page, toList_render_append, toList_render_cons, toList_render_flatMap,
    toList_render_singleton, markup, foot, toList_footer, pageTags, layout, pageTexts,
    written_flatMap, List.flatMap_map]
  unfold Scan.elementText
  simpa only [List.append_assoc, List.nil_append, List.append_nil] using whole

end CauseLint.Html
