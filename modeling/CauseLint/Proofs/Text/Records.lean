import CauseLint.Decimal.Written
import CauseLint.Text.Diff
import CauseLint.Text.Lines
import Mathlib.Data.List.Basic

/-!
# Records of a listing

A listing of differences is a list of records that are written one behind the other. Whoever reads
it divides what was written at line feeds. A record holds a line feed at its end at most, but a line of
a text may have another end or none, and then the record that shows it runs into the next.

Results:

* `feedLines_flatten_iff`: which records are found again by dividing at line feeds.
* `Diff.mem_unified`: what the records of a listing are.
-/

namespace CauseLint

/-- The pieces of a text that end with a line feed each, and what comes behind the last of them. -/
def feedLines : List Char → List (List Char)
  | [] => []
  | c :: cs =>
    if c = '\n' then [c] :: feedLines cs
    else
      match feedLines cs with
      | [] => [[c]]
      | l :: ls => (c :: l) :: ls

/-- Something with a line feed at its end at most. -/
structure IsRecord (l : List Char) : Prop where
  ne_nil : l ≠ []
  inside : '\n' ∉ l.dropLast

/-- The last character is a line feed. -/
def EndsLine (l : List Char) : Prop := l.getLast? = some '\n'

instance : DecidablePred EndsLine := fun l => inferInstanceAs (Decidable (l.getLast? = some '\n'))

/-! ## Records -/

theorem EndsLine.eq_concat {l : List Char} (h : EndsLine l) : l = l.dropLast ++ ['\n'] :=
  (List.dropLast_append_getLast? '\n' h).symm

namespace IsRecord

variable {l : List Char}

theorem notMem (hl : IsRecord l) (hend : ¬ EndsLine l) : '\n' ∉ l := by
  intro hmem
  rw [← List.dropLast_append_getLast hl.ne_nil, List.mem_append, List.mem_singleton] at hmem
  rcases hmem with hmem | hmem
  · exact hl.inside hmem
  · refine hend ?_
    rw [EndsLine, List.getLast?_eq_some_getLast hl.ne_nil, ← hmem]

/-- A record behind a mark is a record. -/
theorem cons (hl : IsRecord l) {mark : Char} (hmark : mark ≠ '\n') : IsRecord (mark :: l) := by
  refine ⟨List.cons_ne_nil _ _, ?_⟩
  rw [List.dropLast_cons_of_ne_nil hl.ne_nil]
  exact List.not_mem_cons_of_ne_of_not_mem hmark.symm hl.inside

theorem of_notMem (h : '\n' ∉ l) : IsRecord (l ++ ['\n']) := by
  refine ⟨List.append_ne_nil_of_right_ne_nil _ (List.cons_ne_nil _ _), ?_⟩
  rw [List.dropLast_concat]
  exact h

end IsRecord

theorem EndsLine.cons {l : List Char} (h : EndsLine l) (mark : Char) : EndsLine (mark :: l) := by
  unfold EndsLine at *
  rw [List.getLast?_cons, h]
  rfl

theorem endsLine_concat (l : List Char) : EndsLine (l ++ ['\n']) := List.getLast?_concat

/-! ## Dividing at line feeds -/

theorem feedLines_append {l : List Char} (h : '\n' ∉ l) (cs : List Char) :
    feedLines (l ++ '\n' :: cs) = (l ++ ['\n']) :: feedLines cs := by
  induction l with
  | nil => rfl
  | cons c l ih =>
    obtain ⟨hc, hl⟩ := List.ne_and_not_mem_of_not_mem_cons h
    rw [List.cons_append, feedLines, if_neg hc.symm, ih hl]
    rfl

theorem feedLines_of_notMem {l : List Char} (h : '\n' ∉ l) (hne : l ≠ []) : feedLines l = [l] := by
  induction l with
  | nil => exact absurd rfl hne
  | cons c l ih =>
    obtain ⟨hc, hl⟩ := List.ne_and_not_mem_of_not_mem_cons h
    rw [feedLines, if_neg hc.symm]
    cases l with
    | nil => rfl
    | cons d l => rw [ih hl (List.cons_ne_nil d l)]

theorem endsLine_of_mem_dropLast {cs : List Char} :
    ∀ l ∈ (feedLines cs).dropLast, EndsLine l := by
  induction cs with
  | nil => rintro l ⟨⟩
  | cons c cs ih =>
    rw [feedLines]
    split
    · rename_i hc
      intro l hl
      cases hls : feedLines cs with
      | nil =>
        rw [hls] at hl
        cases hl
      | cons m ms =>
        rw [hls] at ih hl
        rcases List.mem_cons.1 hl with rfl | hl
        · rw [hc]
          rfl
        · exact ih l hl
    · cases hls : feedLines cs with
      | nil => rintro l ⟨⟩
      | cons m ms =>
        rw [hls] at ih
        intro l hl
        cases ms with
        | nil => cases hl
        | cons m' ms =>
          rcases List.mem_cons.1 hl with rfl | hl
          · exact (ih m List.mem_cons_self).cons c
          · exact ih l (List.mem_cons_of_mem _ hl)

/-- Records that are written one behind the other are found again by dividing at line feeds exactly
when all but the last end with one. -/
theorem feedLines_flatten_iff {ls : List (List Char)} (h : ∀ l ∈ ls, IsRecord l) :
    feedLines ls.flatten = ls ↔ ∀ l ∈ ls.dropLast, EndsLine l := by
  constructor
  · intro hls
    rw [← hls]
    exact endsLine_of_mem_dropLast
  · intro hends
    induction ls with
    | nil => rfl
    | cons l ls ih =>
      obtain ⟨hl, h⟩ := List.forall_mem_cons.1 h
      have hline : EndsLine l → feedLines (l ++ ls.flatten) = l :: feedLines ls.flatten := by
        intro hend
        have hcut := feedLines_append hl.inside ls.flatten
        rw [List.append_cons, ← hend.eq_concat] at hcut
        exact hcut
      rw [List.flatten_cons]
      cases ls with
      | nil =>
        by_cases hend : EndsLine l
        · exact hline hend
        · rw [List.flatten_nil, List.append_nil, feedLines_of_notMem (hl.notMem hend) hl.ne_nil]
      | cons m ms =>
        obtain ⟨hend, hends⟩ := List.forall_mem_cons.1 hends
        rw [hline hend, ih h hends]

/-! ## Lines of a text -/

theorem isRecord_of_mem_breakLines {cs : List Char} : ∀ l ∈ breakLines cs, IsRecord l := by
  fun_induction breakLines cs with
  | case1 => rintro l ⟨⟩
  | case2 cs ih => exact List.forall_mem_cons.2 ⟨⟨by decide, by decide⟩, ih⟩
  | case3 c cs _ _ ih => exact List.forall_mem_cons.2 ⟨⟨List.cons_ne_nil _ _, List.not_mem_nil⟩, ih⟩
  | case4 c cs _ hc hnil ih =>
    exact List.forall_mem_singleton.2 ⟨List.cons_ne_nil _ _, List.not_mem_nil⟩
  | case5 c cs _ hc l ls hls ih =>
    rw [hls] at ih
    obtain ⟨hl, hls⟩ := List.forall_mem_cons.1 ih
    have hmark : c ≠ '\n' := by
      rintro rfl
      exact hc (by decide)
    exact List.forall_mem_cons.2 ⟨hl.cons hmark, hls⟩

/-! ## Listings -/

namespace Diff

variable {a b : List (List Char)} {left right : String} {l : List Char}

theorem mem_marked {mark : Char} {text : Array (List Char)} {s : Span}
    (h : l ∈ marked mark text s) : ∃ line ∈ text.toList, l = mark :: line := by
  obtain ⟨line, hline, rfl⟩ := List.mem_map.1 h
  exact ⟨line, List.mem_of_mem_drop (List.mem_of_mem_take hline), rfl⟩

theorem mem_changeLines {c : Change} (h : l ∈ c.lines a.toArray b.toArray) :
    ∃ mark line, (line ∈ a ∨ line ∈ b) ∧ mark ≠ '\n' ∧ l = mark :: line := by
  unfold Change.lines at h
  split at h
  · obtain ⟨line, hline, rfl⟩ := mem_marked h
    exact ⟨' ', line, .inl hline, by decide, rfl⟩
  · rcases List.mem_append.1 h with h | h
    · obtain ⟨line, hline, rfl⟩ := mem_marked h
      exact ⟨'-', line, .inl hline, by decide, rfl⟩
    · obtain ⟨line, hline, rfl⟩ := mem_marked h
      exact ⟨'+', line, .inr hline, by decide, rfl⟩

/-- What a record of a listing is. -/
theorem mem_unified (h : l ∈ unified a b left right) :
    l = s!"--- {left}\n".toList ∨ l = s!"+++ {right}\n".toList ∨
      (∃ s t : Span, l = s!"@@ -{s.text} +{t.text} @@\n".toList) ∨
      ∃ mark line, (line ∈ a ∨ line ∈ b) ∧ mark ≠ '\n' ∧ l = mark :: line := by
  unfold unified at h
  dsimp only at h
  split at h
  · cases h
  · rcases List.mem_cons.1 h with h | h
    · exact .inl h
    rcases List.mem_cons.1 h with h | h
    · exact .inr (.inl h)
    obtain ⟨hunk, -, h⟩ := List.mem_flatMap.1 h
    rcases List.mem_cons.1 h with h | h
    · exact .inr (.inr (.inl ⟨_, _, h⟩))
    · obtain ⟨c, -, h⟩ := List.mem_flatMap.1 h
      exact .inr (.inr (.inr (mem_changeLines h)))

theorem notMem_text (s : Span) : '\n' ∉ s.text.toList := by
  have hnat : ∀ n : Nat, '\n' ∉ (toString n).toList := fun n h => by
    cases Decimal.isDigit_of_mem_toString h
  unfold Span.text
  split
  · exact hnat _
  split
  · show '\n' ∉ (toString s.first ++ ",0").toList
    rw [String.toList_append, List.mem_append, not_or]
    exact ⟨hnat _, by decide⟩
  · show '\n' ∉ (toString (s.first + 1) ++ "," ++ toString s.length).toList
    rw [String.toList_append, String.toList_append, List.mem_append, List.mem_append, not_or,
      not_or]
    exact ⟨⟨hnat _, by decide⟩, hnat _⟩

/-- The head of a listing or of a hunk is a text without a line feed, and then one. -/
theorem exists_head (h : l ∈ unified a b left right) (hleft : '\n' ∉ left.toList)
    (hright : '\n' ∉ right.toList) :
    (∃ head, '\n' ∉ head ∧ l = head ++ ['\n']) ∨
      ∃ mark line, (line ∈ a ∨ line ∈ b) ∧ mark ≠ '\n' ∧ l = mark :: line := by
  have hname : ∀ {mark name : String}, '\n' ∉ mark.toList → '\n' ∉ name.toList →
      ∃ head, '\n' ∉ head ∧ (mark ++ name ++ "\n").toList = head ++ ['\n'] := by
    intro mark name hmark hname
    refine ⟨(mark ++ name).toList, ?_, String.toList_append⟩
    rw [String.toList_append, List.mem_append, not_or]
    exact ⟨hmark, hname⟩
  rcases mem_unified h with rfl | rfl | ⟨s, t, rfl⟩ | hline
  · exact .inl (hname (by decide) hleft)
  · exact .inl (hname (by decide) hright)
  · refine .inl ⟨("@@ -" ++ s.text ++ " +" ++ t.text ++ " @@").toList, ?_, ?_⟩
    · simp only [String.toList_append, List.mem_append, not_or]
      exact ⟨⟨⟨⟨by decide, notMem_text s⟩, by decide⟩, notMem_text t⟩, by decide⟩
    · show ("@@ -" ++ s.text ++ " +" ++ t.text ++ " @@\n").toList = _
      simp only [String.toList_append, List.append_assoc]
      rfl
  · exact .inr hline

/-- What a listing shows are records. -/
theorem isRecord_of_mem_unified (ha : ∀ l ∈ a, IsRecord l) (hb : ∀ l ∈ b, IsRecord l)
    (hleft : '\n' ∉ left.toList) (hright : '\n' ∉ right.toList) :
    ∀ l ∈ unified a b left right, IsRecord l := by
  intro l h
  rcases exists_head h hleft hright with ⟨head, hhead, rfl⟩ | ⟨mark, line, hline, hmark, rfl⟩
  · exact .of_notMem hhead
  · exact (hline.elim (ha line) (hb line)).cons hmark

/-- Lines that end with a line feed are shown by records that do. -/
theorem endsLine_of_mem_unified (ha : ∀ l ∈ a, EndsLine l) (hb : ∀ l ∈ b, EndsLine l)
    (hleft : '\n' ∉ left.toList) (hright : '\n' ∉ right.toList) :
    ∀ l ∈ unified a b left right, EndsLine l := by
  intro l h
  rcases exists_head h hleft hright with ⟨head, hhead, rfl⟩ | ⟨mark, line, hline, hmark, rfl⟩
  · exact endsLine_concat head
  · exact (hline.elim (ha line) (hb line)).cons mark

end Diff

end CauseLint
