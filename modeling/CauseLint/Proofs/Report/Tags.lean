import CauseLint.Proofs.Report.Elements
import Mathlib.Data.List.DropRight

/-!
# Tags of a text

A text with markup is read as a sequence of tags, each with the text that stands behind it. Some
tags hold a text from outside between margins that are always the same, so the text can be taken out
again. What is read of a stretch does not depend on what comes before or behind it, as long as the
stretch leaves no tag and no text from outside open.

Results:

* `Shows.of_closes`: which markup can be read on its own;
* `Shows.holding`: a tag that holds a text from outside, and the stretch behind it.
-/

namespace CauseLint.Html

/-! ## Reading tags -/

/-- The text up to the first tag, and the tags, each with the text behind it up to the next one;
`tag` is the part of a tag before, last character first. A tag without an end is left out. -/
def marksFrom : Option (List Char) → List Char → List Char × List (List Char × List Char)
  | _, [] => ([], [])
  | none, c :: cs =>
    if c = '<' then ([], (marksFrom (some []) cs).2)
    else (c :: (marksFrom none cs).1, (marksFrom none cs).2)
  | some tag, c :: cs =>
    if c = '>' then ([], (tag.reverse, (marksFrom none cs).1) :: (marksFrom none cs).2)
    else marksFrom (some (c :: tag)) cs

/-- The tags of a text, each with the text behind it up to the next one. -/
def marks (cs : List Char) : List (List Char × List Char) := (marksFrom none cs).2

/-- The tags of a text, with all that stands in them. -/
def tags (cs : List Char) : List (List Char) := (marks cs).map (·.1)

/-- Which tags hold a text from outside, and how many other characters stand before and behind it.
-/
abbrev Margins := List Char → Option (ℕ × ℕ)

variable {margins : Margins}

/-- The text that a tag holds, if it holds one. -/
def held (margins : Margins) (mark : List Char × List Char) : Option (List Char) :=
  (margins mark.1).map fun width => (mark.2.drop width.1).rdrop width.2

/-- The texts that the tags of a text hold. -/
def texts (margins : Margins) (cs : List Char) : List (List Char) :=
  (marks cs).filterMap (held margins)

theorem marksFrom_text {cs : List Char} (plain : '<' ∉ cs) (rest : List Char) :
    marksFrom none (cs ++ rest) = (cs ++ (marksFrom none rest).1, (marksFrom none rest).2) := by
  induction cs with
  | nil => rfl
  | cons c cs ih =>
    obtain ⟨other, plain⟩ := not_or.mp (List.mem_cons.not.mp plain)
    rw [List.cons_append, marksFrom, if_neg (Ne.symm other), ih plain]
    rfl

theorem marksFrom_tag {tag : List Char} (plain : '>' ∉ tag) (rest : List Char) :
    marksFrom none (Scan.tagText tag ++ rest) =
      ([], (tag, (marksFrom none rest).1) :: (marksFrom none rest).2) := by
  have body : ∀ (cs before : List Char), '>' ∉ cs →
      marksFrom (some before) (cs ++ '>' :: rest) =
        ([], ((cs.reverse ++ before).reverse, (marksFrom none rest).1) :: (marksFrom none rest).2) := by
    intro cs
    induction cs with
    | nil => intro before _; rfl
    | cons c cs ih =>
      intro before plain
      obtain ⟨other, plain⟩ := not_or.mp (List.mem_cons.not.mp plain)
      rw [List.cons_append, marksFrom, if_neg (Ne.symm other), ih _ plain]
      simp
  have opened : marksFrom none (Scan.tagText tag ++ rest) =
      ([], (marksFrom (some []) (tag ++ '>' :: rest)).2) := by
    simp [Scan.tagText, marksFrom]
  rw [opened, body tag [] plain]
  simp

/-! ## Stretches of a text -/

/-- What is read of a stretch, whatever comes behind it: its tags, and the texts that they hold. -/
def Shows (margins : Margins) (cs : List Char) (found : List (List Char))
    (kept : List (List Char)) : Prop :=
  ∀ rest, tags (cs ++ rest) = found ++ tags rest ∧
    texts margins (cs ++ rest) = kept ++ texts margins rest

namespace Shows

variable {cs ds : List Char} {found found' kept kept' : List (List Char)}

theorem append (left : Shows margins cs found kept) (right : Shows margins ds found' kept') :
    Shows margins (cs ++ ds) (found ++ found') (kept ++ kept') := by
  intro rest
  rw [List.append_assoc, (left _).1, (left _).2, (right rest).1, (right rest).2,
    List.append_assoc, List.append_assoc]
  exact ⟨rfl, rfl⟩

theorem of_text (plain : '<' ∉ cs) : Shows margins cs [] [] := by
  intro rest
  rw [tags, texts, marks, marksFrom_text plain]
  exact ⟨rfl, rfl⟩

theorem flatMap {α : Type} {f : α → List Char} {found kept : α → List (List Char)} {xs : List α}
    (each : ∀ x ∈ xs, Shows margins (f x) (found x) (kept x)) :
    Shows margins (xs.flatMap f) (xs.flatMap found) (xs.flatMap kept) := by
  induction xs with
  | nil => exact fun _ => ⟨rfl, rfl⟩
  | cons x xs ih =>
    obtain ⟨first, rest⟩ := List.forall_mem_cons.mp each
    exact first.append (ih rest)

/-- A tag that holds no text. -/
theorem bare {tag : List Char} (plain : '>' ∉ tag) (empty : margins tag = none) :
    Shows margins (Scan.tagText tag) [tag] [] := by
  intro rest
  have nothing : ∀ text, held margins (tag, text) = none := by
    intro text
    rw [held, empty]
    rfl
  rw [tags, texts, marks, marksFrom_tag plain, List.filterMap_cons, nothing]
  exact ⟨rfl, rfl⟩

/-- A tag that holds a text between its margins, up to the tag that the next stretch begins with. -/
theorem holding {tag before text behind next : List Char} (plain : '>' ∉ tag)
    (widths : margins tag = some (before.length, behind.length))
    (plainText : '<' ∉ before ++ text ++ behind)
    (shows : Shows margins (Scan.tagText next ++ cs) found kept) :
    Shows margins (Scan.tagText tag ++ (before ++ text ++ behind) ++ (Scan.tagText next ++ cs))
      (tag :: found) (text :: kept) := by
  intro rest
  have lead : (marksFrom none (Scan.tagText next ++ cs ++ rest)).1 = [] := by
    rw [Scan.tagText, List.cons_append, List.cons_append, marksFrom, if_pos rfl]
  have read : marks (Scan.tagText tag ++ (before ++ text ++ behind) ++ (Scan.tagText next ++ cs) ++
      rest) = (tag, before ++ text ++ behind) :: marks (Scan.tagText next ++ cs ++ rest) := by
    rw [marks, List.append_assoc, List.append_assoc, marksFrom_tag plain,
      marksFrom_text plainText, lead, List.append_nil]
    rfl
  have inside : held margins (tag, before ++ text ++ behind) = some text := by
    rw [held, widths, Option.map_some, List.append_assoc, List.drop_left, List.rdrop_append_length]
  have rests := (shows rest).2
  rw [texts] at rests
  rw [tags, texts, read, List.filterMap_cons, inside, rests]
  exact ⟨congrArg (tag :: ·) (shows rest).1, rfl⟩

/-- Whether a stretch ends outside tags, and none of its tags holds a text; `tag` is the part of a
tag before it, last character first. -/
def closes (margins : Margins) : Option (List Char) → List Char → Bool
  | none, [] => true
  | some _, [] => false
  | none, c :: cs => if c = '<' then closes margins (some []) cs else closes margins none cs
  | some tag, c :: cs =>
    if c = '>' then (margins tag.reverse).isNone && closes margins none cs
    else closes margins (some (c :: tag)) cs

/-- A stretch that ends outside tags and holds no texts shows its tags. -/
theorem of_closes (closed : closes margins none cs = true) : Shows margins cs (tags cs) [] := by
  intro rest
  have read : ∀ (cs : List Char) (tag : Option (List Char)), closes margins tag cs = true →
      (marksFrom tag (cs ++ rest)).2.map (·.1) = (marksFrom tag cs).2.map (·.1) ++ tags rest ∧
      (marksFrom tag (cs ++ rest)).2.filterMap (held margins) = texts margins rest := by
    intro cs
    induction cs with
    | nil =>
      intro tag closed
      cases tag with
      | none => exact ⟨rfl, rfl⟩
      | some tag => cases closed
    | cons c cs ih =>
      intro tag closed
      cases tag with
      | none =>
        rw [closes] at closed
        rw [List.cons_append, marksFrom, marksFrom]
        split at closed
        case isTrue angle =>
          rw [if_pos angle, if_pos angle]
          exact ih _ closed
        case isFalse plain =>
          rw [if_neg plain, if_neg plain]
          exact ih _ closed
      | some tag =>
        rw [closes] at closed
        rw [List.cons_append, marksFrom, marksFrom]
        split at closed
        case isTrue angle =>
          rw [if_pos angle, if_pos angle]
          obtain ⟨bare, closed⟩ := Bool.and_eq_true_iff.mp closed
          obtain ⟨sameTags, sameTexts⟩ := ih none closed
          have nothing : ∀ text, held margins (tag.reverse, text) = none := by
            intro text
            rw [held, Option.isNone_iff_eq_none.mp bare]
            rfl
          refine ⟨congrArg (tag.reverse :: ·) sameTags, ?_⟩
          rw [List.filterMap_cons, nothing]
          exact sameTexts
        case isFalse plain =>
          rw [if_neg plain, if_neg plain]
          exact ih _ closed
  exact read cs none closed

/-- The characters of a literal need not be decoded to be read. -/
theorem closes_literal (closed : closes margins none cs = true) :
    closes margins none (String.ofList cs).toList = true := by
  rwa [String.toList_ofList]

/-- Markup that ends outside tags and holds no texts shows its tags. -/
theorem of_markup (closed : closes margins none cs = true) (read : tags cs = found) :
    Shows margins (String.ofList cs).toList found [] := by
  rw [String.toList_ofList]
  exact read ▸ .of_closes closed

/-- What is read of a text that is one stretch. -/
theorem alone (shows : Shows margins cs found kept) : tags cs = found ∧ texts margins cs = kept := by
  obtain ⟨sameTags, sameTexts⟩ := shows []
  rw [List.append_nil] at sameTags sameTexts
  exact ⟨sameTags.trans (List.append_nil _), sameTexts.trans (List.append_nil _)⟩

end Shows

end CauseLint.Html
