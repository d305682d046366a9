import CauseLint.Decimal.Written
import CauseLint.Proofs.Report.Elements
import CauseLint.Proofs.Report.Groups

/-!
# Reading a page

Texts from outside are written without angle brackets, so they never pass for markup, and the
elements of a page are those of its own markup. Results:

* `escape_injective`: a text inside markup can be told from any other;
* `elements_page`: the elements of a page are a heading and a table for each group, and one footer;
* `read_page`: what is read in the tables and in the footer are the groups, row by row, and the
  number of the rows.
-/

namespace CauseLint.Html

/-! ## Texts inside markup -/

theorem notMem_escapeChar (c : Char) : '<' ∉ escapeChar c := by
  unfold escapeChar
  split
  case h_2 => decide
  case h_6 _ other _ _ _ => simpa using Ne.symm other
  all_goals decide

theorem notMem_escape (s : String) : '<' ∉ (escape s).toList := by
  rw [escape, String.toList_ofList, List.mem_flatMap]
  rintro ⟨c, -, mem⟩
  exact notMem_escapeChar c mem

/-- What a character is written as can be told from what follows it. -/
theorem escapeChar_append_inj {c d : Char} {cs ds : List Char}
    (same : escapeChar c ++ cs = escapeChar d ++ ds) : c = d ∧ cs = ds := by
  unfold escapeChar at same
  split at same <;> split at same <;> grind

/-- A text inside markup can be told from any other. -/
theorem escape_injective : Function.Injective escape := by
  have ne_nil : ∀ c, escapeChar c ≠ [] := by
    intro c
    unfold escapeChar
    split <;> simp
  have chars : ∀ cs ds : List Char, cs.flatMap escapeChar = ds.flatMap escapeChar → cs = ds := by
    intro cs
    induction cs with
    | nil =>
      intro ds same
      cases ds with
      | nil => rfl
      | cons d ds =>
        rw [List.flatMap_nil, List.flatMap_cons] at same
        exact absurd (List.append_eq_nil_iff.mp same.symm).1 (ne_nil d)
    | cons c cs ih =>
      intro ds same
      cases ds with
      | nil =>
        rw [List.flatMap_nil, List.flatMap_cons] at same
        exact absurd (List.append_eq_nil_iff.mp same).1 (ne_nil c)
      | cons d ds =>
        rw [List.flatMap_cons, List.flatMap_cons] at same
        obtain ⟨rfl, rest⟩ := escapeChar_append_inj same
        rw [ih ds rest]
  intro s s' same
  exact String.toList_inj.mp (chars _ _ (String.ofList_inj.mp same))

/-! ## Rows -/

/-- What a row shows behind its position. -/
def rowBody (r : Row) : List Piece :=
  [.markup s!"      <td class=\"{r.severity.name}\">{r.severity.name}</td>\n      <td>\n        ",
   .text r.message, .markup " <code>[", .text r.errorId, .markup "]</code>\n        "] ++
  codeLine "before" "-" r.source ++ [.markup "\n        "] ++
  codeLine "after" "+" r.fixed ++ [.markup "\n        "] ++
  r.notes.flatMap (remark "note") ++ [.markup "\n        "] ++
  r.helps.flatMap (remark "help")

/-- What stands in a row. -/
def rowText (r : Row) : String :=
  "\n      <td class=\"pos\">" ++ position r ++ "</td>\n" ++ render (rowBody r) ++
    "\n      </td>\n    "

theorem toList_render_append (left right : List Piece) :
    (render (left ++ right)).toList = (render left).toList ++ (render right).toList := by
  simp [render, String.toList_join]

theorem toList_render_cons (p : Piece) (ps : List Piece) :
    (render (p :: ps)).toList = p.render.toList ++ (render ps).toList := by
  simp [render, String.toList_join]

theorem toList_render_singleton (p : Piece) : (render [p]).toList = p.render.toList := by
  simp [render]

theorem toList_render_flatMap {α : Type} (f : α → List Piece) (xs : List α) :
    (render (xs.flatMap f)).toList = xs.flatMap fun x => (render (f x)).toList := by
  simp [render, String.toList_join, List.map_flatMap, List.flatMap_assoc]

theorem rowPieces_eq (r : Row) :
    rowPieces r = .markup s!"\n    <tr>\n      <td class=\"pos\">{position r}</td>\n" ::
      (rowBody r ++ [.markup "\n      </td>\n    </tr>\n    "]) := by
  simp only [rowPieces, rowBody, List.append_assoc, List.cons_append, List.nil_append]

/-- A row is one element. -/
theorem toList_render_rowPieces (r : Row) :
    (render (rowPieces r)).toList =
      "\n    ".toList ++ Scan.elementText "tr" (rowText r) ++ "\n    ".toList := by
  have opening : "\n    <tr>\n      <td class=\"pos\">".toList =
      "\n    ".toList ++ Scan.tagText "tr".toList ++ "\n      <td class=\"pos\">".toList := by
    decide +kernel
  have first : (Piece.markup s!"\n    <tr>\n      <td class=\"pos\">{position r}</td>\n").render =
      "\n    <tr>\n      <td class=\"pos\">" ++ position r ++ "</td>\n" := rfl
  have last : (Piece.markup "\n      </td>\n    </tr>\n    ").render.toList =
      "\n      </td>\n    ".toList ++ Scan.tagText ('/' :: "tr".toList) ++ "\n    ".toList := by
    decide +kernel
  rw [rowPieces_eq, toList_render_cons, toList_render_append, toList_render_singleton, first, last]
  unfold Scan.elementText rowText
  simp only [String.toList_append, opening]
  simp only [List.append_assoc]

/-! ## What stands in an element -/

section

variable {name : List Char}

theorem within_text (s : String) : Scan.Within name (Piece.text s).render.toList :=
  .of_text (notMem_escape s)

theorem within_render {pieces : List Piece}
    (each : ∀ p ∈ pieces, Scan.Within name p.render.toList) :
    Scan.Within name (render pieces).toList := by
  rw [render, String.toList_join, List.flatMap_map]
  exact .flatMap each

theorem notMem_toString_int (n : Int) : '<' ∉ (toString n).toList := by
  intro mem
  rcases Decimal.isDigit_of_mem_toString_int mem with mem | mem
  · cases mem
  · cases mem

theorem notMem_position (r : Row) : '<' ∉ (position r).toList := by
  unfold position
  split
  · exact notMem_toString_int _
  · show '<' ∉ (toString r.line ++ ":" ++ toString r.column).toList
    rw [String.toList_append, String.toList_append, List.mem_append, List.mem_append]
    exact not_or.mpr ⟨not_or.mpr ⟨notMem_toString_int _, by decide⟩, notMem_toString_int _⟩

/-- Markup that closes neither a row nor a table. -/
def Inner (s : String) : Prop :=
  ∀ name ∈ ["tr", "table"], Scan.leavesOpen name.toList none s.toList = true

instance (s : String) : Decidable (Inner s) :=
  inferInstanceAs (Decidable (∀ name ∈ _, _))

variable {element : String}

theorem Inner.within {s : String} (inner : Inner s) (mem : element ∈ ["tr", "table"]) :
    Scan.Within element.toList (Piece.markup s).render.toList := .of_leavesOpen (inner element mem)

theorem within_codeLine (mem : element ∈ ["tr", "table"]) {cls sign : String}
    (start : Inner s!"<code class=\"{cls}\">{sign} ") (source : String) :
    ∀ p ∈ codeLine cls sign source, Scan.Within element.toList p.render.toList := by
  have stop : Inner "</code>" := by decide +kernel
  unfold codeLine
  split
  · simp
  · simpa using ⟨start.within mem, within_text _, stop.within mem⟩

theorem within_remark (mem : element ∈ ["tr", "table"]) {word : String}
    (start : Inner s!"<div class=\"note\">{word}: ") (texts : List String) :
    ∀ p ∈ texts.flatMap (remark word), Scan.Within element.toList p.render.toList := by
  have stop : Inner "</div>" := by decide +kernel
  have one : ∀ text, ∀ p ∈ remark word text, Scan.Within element.toList p.render.toList := by
    simpa [remark] using fun text => ⟨start.within mem, within_text text, stop.within mem⟩
  intro p inAll
  obtain ⟨text, -, inOne⟩ := List.mem_flatMap.mp inAll
  exact one text p inOne

/-- Nothing in a row closes the row or the table around it. -/
theorem within_rowText (mem : element ∈ ["tr", "table"]) (r : Row) :
    Scan.Within element.toList (rowText r).toList := by
  have markup : ∀ {s : String}, Inner s → Scan.Within element.toList s.toList :=
    fun inner => inner.within mem
  have blank : Inner "\n        " := by decide +kernel
  have severity : ∀ s : Severity,
      Inner s!"      <td class=\"{s.name}\">{s.name}</td>\n      <td>\n        " := by
    intro s
    cases s <;> decide +kernel
  have body : ∀ p ∈ rowBody r, Scan.Within element.toList p.render.toList := by
    simp only [rowBody, List.forall_mem_append, List.forall_mem_cons, List.not_mem_nil,
      false_implies, implies_true, and_true]
    refine ⟨⟨⟨⟨⟨⟨⟨⟨?severity, within_text _, ?start, within_text _, ?stop⟩, ?before⟩,
      blank.within mem⟩, ?after⟩, blank.within mem⟩, ?note⟩, blank.within mem⟩, ?help⟩
    case severity => exact (severity r.severity).within mem
    case start => exact Inner.within (by decide +kernel) mem
    case stop => exact Inner.within (by decide +kernel) mem
    case before => exact within_codeLine mem (by decide +kernel) _
    case after => exact within_codeLine mem (by decide +kernel) _
    case note => exact within_remark mem (by decide +kernel) _
    case help => exact within_remark mem (by decide +kernel) _
  unfold rowText
  simp only [String.toList_append]
  refine .append (.append (.append (.append ?_ ?_) ?_) (within_render body)) ?_
  · exact markup (by decide +kernel)
  · exact .of_text (notMem_position r)
  · exact markup (by decide +kernel)
  · exact markup (by decide +kernel)

end

/-! ## Tables -/

/-- What stands in the table of a group. -/
def tableText (g : Group) : String := "\n    " ++ render (g.rows.flatMap rowPieces) ++ "\n  "

/-- A group is a heading and a table. -/
theorem toList_render_groupPieces (g : Group) :
    (render (groupPieces g)).toList =
      "\n  ".toList ++ Scan.elementText "h2" (escape (heading g.file)) ++ "\n  ".toList ++
        Scan.elementText "table" (tableText g) ++ "\n  ".toList := by
  have opening : "\n  <h2>".toList = "\n  ".toList ++ Scan.tagText "h2".toList := by
    decide +kernel
  have middle : "</h2>\n  <table>\n    ".toList = Scan.tagText ('/' :: "h2".toList) ++
      "\n  ".toList ++ Scan.tagText "table".toList ++ "\n    ".toList := by
    decide +kernel
  have closing : "\n  </table>\n  ".toList =
      "\n  ".toList ++ Scan.tagText ('/' :: "table".toList) ++ "\n  ".toList := by
    decide +kernel
  rw [groupPieces, toList_render_append, toList_render_append, toList_render_cons,
    toList_render_cons, toList_render_singleton, toList_render_singleton]
  unfold Scan.elementText tableText
  simp only [Piece.render, String.toList_append, opening, middle, closing]
  simp only [List.append_assoc]

/-- What stands in the footer of a page. -/
def footerText (count : Nat) : String :=
  toString count ++ " diagnostic" ++ (if count = 1 then "" else "s") ++ "."

/-- The end of a page is a footer. -/
theorem toList_footer (count : Nat) :
    (footer count).toList = "\n  ".toList ++ Scan.elementText "footer" (footerText count) ++
      "\n</body>\n</html>".toList := by
  have opening : "\n  <footer>".toList = "\n  ".toList ++ Scan.tagText "footer".toList := by
    decide +kernel
  have closing : ".</footer>\n</body>\n</html>".toList =
      ".".toList ++ Scan.tagText ('/' :: "footer".toList) ++ "\n</body>\n</html>".toList := by
    decide +kernel
  have shape : footer count = "\n  <footer>" ++ toString count ++ " diagnostic" ++
      (if count = 1 then "" else "s") ++ ".</footer>\n</body>\n</html>" := rfl
  rw [shape]
  unfold Scan.elementText footerText
  simp only [String.toList_append, opening, closing]
  simp only [List.append_assoc]

/-! ## Reading rows and tables -/

/-- A reader of rows keeps a row. -/
theorem reads_rowPieces (r : Row) :
    Scan.Reads ["tr".toList] (render (rowPieces r)).toList [("tr", rowText r)] := by
  have blank : Scan.Reads ["tr".toList] "\n    ".toList [] := .of_text (by decide)
  have row : Scan.Reads ["tr".toList] (Scan.elementText "tr" (rowText r)) [("tr", rowText r)] :=
    .element (List.mem_singleton_self _) (by decide) (within_rowText (by decide) r)
  rw [toList_render_rowPieces]
  exact (blank.append row).append blank

/-- The rows of a group are the rows of its table. -/
theorem elements_tableText (g : Group) :
    elements ["tr"] (tableText g) = g.rows.map fun r => ("tr", rowText r) := by
  have first : Scan.Reads ["tr".toList] "\n    ".toList [] := .of_text (by decide)
  have last : Scan.Reads ["tr".toList] "\n  ".toList [] := .of_text (by decide)
  have rows := Scan.Reads.flatMap fun r (_ : r ∈ g.rows) => reads_rowPieces r
  have whole := (first.append rows).append last
  rw [List.nil_append, List.append_nil, ← List.map_eq_flatMap] at whole
  refine elements_of_reads ?_
  unfold tableText
  rw [String.toList_append, String.toList_append, toList_render_flatMap]
  exact whole

/-- Nothing in a table closes it. -/
theorem within_tableText (g : Group) : Scan.Within "table".toList (tableText g).toList := by
  have blank : ∀ s ∈ ["\n    ", "\n  "], Scan.Within "table".toList s.toList := by
    intro s mem
    refine .of_text ?_
    revert s
    decide
  have row : ∀ r ∈ g.rows, Scan.Within "table".toList (render (rowPieces r)).toList := by
    intro r _
    rw [toList_render_rowPieces]
    refine .append (.append (blank _ (by decide)) ?_) (blank _ (by decide))
    have opening : Scan.Within "table".toList (Scan.tagText "tr".toList) :=
      .of_leavesOpen (by decide)
    have closing : Scan.Within "table".toList (Scan.tagText ('/' :: "tr".toList)) :=
      .of_leavesOpen (by decide)
    exact (opening.append (within_rowText (by decide) r)).append closing
  unfold tableText
  rw [String.toList_append, String.toList_append, toList_render_flatMap]
  exact ((blank _ (by decide)).append (.flatMap row)).append (blank _ (by decide))

/-! ## Reading pages -/

/-- The elements of a page that a reader of its groups and its footer keeps. -/
def outline : List String := ["h2", "table", "footer"]

/-- A reader of a page keeps the heading and the table of a group. -/
theorem reads_groupPieces (g : Group) :
    Scan.Reads (outline.map (·.toList)) (render (groupPieces g)).toList
      [("h2", escape (heading g.file)), ("table", tableText g)] := by
  have blank : Scan.Reads (outline.map (·.toList)) "\n  ".toList [] := .of_text (by decide)
  have title : Scan.Reads (outline.map (·.toList)) (Scan.elementText "h2" (escape (heading g.file)))
      [("h2", escape (heading g.file))] :=
    .element (by decide) (by decide) (.of_text (notMem_escape _))
  have table : Scan.Reads (outline.map (·.toList)) (Scan.elementText "table" (tableText g))
      [("table", tableText g)] :=
    .element (by decide) (by decide) (within_tableText g)
  rw [toList_render_groupPieces]
  exact (((blank.append title).append blank).append table).append blank

theorem notMem_footerText (count : Nat) : '<' ∉ (footerText count).toList := by
  have digits : '<' ∉ (toString count).toList := by
    intro mem
    cases Decimal.isDigit_of_mem_toString mem
  have plural : '<' ∉ (if count = 1 then "" else "s").toList := by split <;> decide
  unfold footerText
  simp only [String.toList_append, List.mem_append, not_or]
  exact ⟨⟨⟨digits, by decide⟩, plural⟩, by decide⟩

/-- A reader of a page keeps its footer. -/
theorem reads_footer (count : Nat) :
    Scan.Reads (outline.map (·.toList)) (footer count).toList [("footer", footerText count)] := by
  have blank : Scan.Reads (outline.map (·.toList)) "\n  ".toList [] := .of_text (by decide)
  have body : Scan.Reads (outline.map (·.toList)) "\n</body>\n</html>".toList [] :=
    .of_run (by decide +kernel)
  have text : Scan.Reads (outline.map (·.toList)) (Scan.elementText "footer" (footerText count))
      [("footer", footerText count)] :=
    .element (by decide) (by decide) (.of_text (notMem_footerText count))
  rw [toList_footer]
  exact (blank.append text).append body

/-- Lines are passed over together when each one is. -/
theorem reads_lines {names : List (List Char)} {lines : List String}
    (each : ∀ l ∈ lines, Scan.Reads names l.toList []) :
    Scan.Reads names ("\n".intercalate lines).toList [] := by
  induction lines with
  | nil => exact .of_text (by simp)
  | cons l rest ih =>
    obtain ⟨first, each⟩ := List.forall_mem_cons.mp each
    cases rest with
    | nil => simpa using first
    | cons l' rest =>
      have feed : Scan.Reads names "\n".toList [] := .of_text (by decide)
      rw [String.intercalate_cons_cons, String.toList_append, String.toList_append]
      exact (first.append feed).append (ih each)

/-- The elements of a page are a heading and a table for each group, and one footer. -/
theorem elements_page (rows : List Row) :
    elements outline (render (page rows)) =
      (groups rows).flatMap (fun g => [("h2", escape (heading g.file)), ("table", tableText g)]) ++
        [("footer", footerText rows.length)] := by
  have head : Scan.Reads (outline.map (·.toList)) ("\n".intercalate headLines).toList [] := by
    refine reads_lines fun l mem => .of_run ?_
    revert l
    decide +kernel
  have all : Scan.Reads (outline.map (·.toList))
      ((groups rows).flatMap fun g => (render (groupPieces g)).toList)
      ((groups rows).flatMap fun g => [("h2", escape (heading g.file)), ("table", tableText g)]) :=
    .flatMap fun g _ => reads_groupPieces g
  have whole := (head.append all).append (reads_footer rows.length)
  rw [List.nil_append] at whole
  refine elements_of_reads ?_
  rw [page, toList_render_append, toList_render_cons, toList_render_flatMap,
    toList_render_singleton]
  exact whole

/-- Headings, each with the contents of the rows of the table behind it, and a footer at the end;
`none` for any other sequence of elements. -/
def readOutline : List (String × String) → Option (List (String × List String) × String)
  | [("footer", text)] => some ([], text)
  | ("h2", title) :: ("table", table) :: rest => do
    let (tables, text) ← readOutline rest
    return ((title, (elements ["tr"] table).map (·.2)) :: tables, text)
  | _ => none

/-- What a page holds: its tables, each with what stands in the heading before it and in each of its
rows, and what stands in its footer. -/
def read (text : String) : Option (List (String × List String) × String) :=
  readOutline (elements outline text)

/-- The tables of a page are its groups, each under its heading, row by row, and its footer counts
the rows. -/
theorem read_page (rows : List Row) :
    read (render (page rows)) = some ((groups rows).map fun g =>
      (escape (heading g.file), g.rows.map rowText), footerText rows.length) := by
  rw [read, elements_page]
  generalize footerText rows.length = text
  induction groups rows with
  | nil => rfl
  | cons g gs ih =>
    rw [List.flatMap_cons, List.append_assoc, List.cons_append, List.cons_append, List.nil_append,
      readOutline, ih, elements_tableText]
    simp

end CauseLint.Html
