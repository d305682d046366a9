import CauseLint.Edit
import CauseLint.Proofs.Text.Validity
import CauseLint.Total
import Mathlib.Data.List.Induction
import Mathlib.Data.String.Basic

/-!
# Fixes as one splice

Replacements are put in source order and made from the last to the first. Where none reaches into
the next, the outcome is the source read from left to right with each stretch replaced on the way
(`splice`), so it is text when source and replacements are and cuts fall between characters.

Results:

* `Replacement.sortUnique_eq`: the order is determined by which replacements there are.
* `replaceEach_reverse`: making replacements from the last to the first is one splice.
* `applyFixes_eq_splice`: fixes whose replacements follow one another are applied as one splice.
* `isValid_splice`: a splice of texts at boundaries is text.
-/

namespace CauseLint

namespace Replacement

/-! ## Source order -/

theorem before_iff {a b : Replacement} :
    a.before b = true ↔ a.start < b.start ∨
      a.start = b.start ∧ (a.stop < b.stop ∨ a.stop = b.stop ∧ a.text < b.text) := by
  simp [before]

theorem not_before_self (a : Replacement) : ¬ a.before a = true := by
  rw [before_iff]
  rintro (h | ⟨-, h | ⟨-, h⟩⟩)
  · omega
  · omega
  · exact lt_irrefl _ h

theorem before_trans {a b c : Replacement} (hab : a.before b = true) (hbc : b.before c = true) :
    a.before c = true := by
  rw [before_iff] at *
  rcases hab with hab | ⟨hab, hab' | ⟨hab', ht⟩⟩
  · left
    omega
  · rcases hbc with hbc | ⟨hbc, hbc' | ⟨hbc', -⟩⟩
    · left
      omega
    · exact .inr ⟨by omega, .inl (by omega)⟩
    · exact .inr ⟨by omega, .inl (by omega)⟩
  · rcases hbc with hbc | ⟨hbc, hbc' | ⟨hbc', ht'⟩⟩
    · left
      omega
    · exact .inr ⟨by omega, .inl (by omega)⟩
    · exact .inr ⟨by omega, .inr ⟨by omega, lt_trans ht ht'⟩⟩

/-- Of two different replacements one comes before the other. -/
theorem before_of_not_before {a b : Replacement} (hne : a ≠ b) (h : ¬ a.before b = true) :
    b.before a = true := by
  rw [before_iff] at *
  rcases Nat.lt_trichotomy a.start b.start with hs | hs | hs
  · exact absurd (.inl hs) h
  · rcases Nat.lt_trichotomy a.stop b.stop with he | he | he
    · exact absurd (.inr ⟨hs, .inl he⟩) h
    · rcases lt_trichotomy a.text b.text with ht | ht | ht
      · exact absurd (.inr ⟨hs, .inr ⟨he, ht⟩⟩) h
      · cases a
        cases b
        simp_all
      · exact .inr ⟨hs.symm, .inr ⟨he.symm, ht⟩⟩
    · exact .inr ⟨hs.symm, .inl he⟩
  · exact .inl hs

theorem mem_insertSorted {r s : Replacement} {l : List Replacement} :
    s ∈ insertSorted r l ↔ s = r ∨ s ∈ l := by
  induction l with
  | nil => simp [insertSorted]
  | cons a l ih =>
    unfold insertSorted
    split
    · rename_i h
      simp [h]
    · split
      · simp
      · rw [List.mem_cons, ih, List.mem_cons]
        exact or_left_comm

theorem pairwise_insertSorted (r : Replacement) {l : List Replacement}
    (h : l.Pairwise fun a b => a.before b = true) :
    (insertSorted r l).Pairwise fun a b => a.before b = true := by
  induction l with
  | nil => simp [insertSorted]
  | cons a l ih =>
    obtain ⟨ha, hl⟩ := List.pairwise_cons.1 h
    unfold insertSorted
    split
    · exact h
    · rename_i hne
      split
      · rename_i hb
        refine List.pairwise_cons.2 ⟨?_, h⟩
        intro s hs
        rcases List.mem_cons.1 hs with rfl | hs
        · exact hb
        · exact before_trans hb (ha s hs)
      · rename_i hb
        refine List.pairwise_cons.2 ⟨?_, ih hl⟩
        intro s hs
        rcases mem_insertSorted.1 hs with rfl | hs
        · exact before_of_not_before hne hb
        · exact ha s hs

theorem mem_sortUnique {r : Replacement} {rs : List Replacement} :
    r ∈ sortUnique rs ↔ r ∈ rs := by
  induction rs with
  | nil => rfl
  | cons a rs ih =>
    rw [sortUnique, List.foldr_cons, mem_insertSorted, List.mem_cons]
    exact or_congr_right ih

theorem pairwise_sortUnique (rs : List Replacement) :
    (sortUnique rs).Pairwise fun a b => a.before b = true := by
  induction rs with
  | nil => exact List.Pairwise.nil
  | cons a rs ih => exact pairwise_insertSorted a ih

theorem nodup_of_pairwise_before {l : List Replacement}
    (h : l.Pairwise fun a b => a.before b = true) : l.Nodup := by
  refine List.Pairwise.imp ?_ h
  rintro a b hab rfl
  exact not_before_self a hab

/-- Two lists in source order with the same members are equal. -/
theorem eq_of_pairwise_before {l m : List Replacement}
    (hl : l.Pairwise fun a b => a.before b = true) (hm : m.Pairwise fun a b => a.before b = true)
    (h : ∀ r, r ∈ l ↔ r ∈ m) : l = m := by
  have hperm := (List.perm_ext_iff_of_nodup (nodup_of_pairwise_before hl)
    (nodup_of_pairwise_before hm)).2 h
  refine List.Perm.eq_of_pairwise ?_ hl hm hperm
  intro a b _ _ hab hba
  exact absurd (before_trans hab hba) (not_before_self a)

/-- The order is determined by which replacements there are. -/
theorem sortUnique_eq {rs l : List Replacement} (hl : l.Pairwise fun a b => a.before b = true)
    (h : ∀ r, r ∈ rs ↔ r ∈ l) : sortUnique rs = l :=
  eq_of_pairwise_before (pairwise_sortUnique rs) hl fun r => mem_sortUnique.trans (h r)

end Replacement

/-! ## From left to right -/

/-- The source from `pos` on, with replacements made on the way. -/
def splice (source : Bytes) (pos : Nat) : List Replacement → Bytes
  | [] => source.drop pos
  | r :: rs =>
    (source.drop pos).take (r.start - pos) ++ Utf8.ofText r.text ++ splice source r.stop rs

/-- The replacement that comes last is made in the source before the others are. -/
theorem splice_concat {out : Bytes} {pos : Nat} {rs : List Replacement} {r : Replacement}
    (hpos : pos ≤ r.start) (hrs : ∀ s ∈ rs, s.stop ≤ r.start) (hr : r.stop ≤ out.length) :
    splice out pos (rs ++ [r]) =
      splice (out.take r.start ++ Utf8.ofText r.text ++ out.drop r.stop) pos rs := by
  have hlen : (out.take r.start).length = r.start := by
    have := r.ordered
    rw [List.length_take]
    omega
  induction rs generalizing pos with
  | nil =>
    simp only [List.nil_append, splice]
    rw [List.append_assoc, List.append_assoc, List.drop_append_of_le_length (by omega),
      List.drop_take]
  | cons s rs ih =>
    have hs := hrs s List.mem_cons_self
    have hso := s.ordered
    simp only [List.cons_append, splice]
    rw [ih hs fun t ht => hrs t (List.mem_cons_of_mem _ ht)]
    congr 2
    rw [List.append_assoc, List.drop_append_of_le_length (by omega),
      List.take_append_of_le_length (by rw [List.length_drop]; omega), List.drop_take,
      List.take_take, Nat.min_eq_left (by omega)]

/-- Making replacements from the last to the first is one splice. -/
theorem replaceEach_reverse {size : Nat} {out : Bytes} {rs : List Replacement}
    (hord : rs.Pairwise fun a b => a.stop ≤ b.start) (hsize : ∀ r ∈ rs, r.stop ≤ size)
    (hout : ∀ r ∈ rs, r.stop ≤ out.length) :
    replaceEach size rs.reverse out = .ok (splice out 0 rs) := by
  induction rs using List.reverseRecOn generalizing out with
  | nil => rfl
  | append_singleton rs r ih =>
    obtain ⟨hrs, -, hlast⟩ := List.pairwise_append.1 hord
    have hbefore : ∀ s ∈ rs, s.stop ≤ r.start := fun s hs => hlast s hs r List.mem_cons_self
    have hr := hout r (by simp)
    have hro := r.ordered
    rw [List.reverse_append, List.reverse_singleton, List.singleton_append, replaceEach,
      if_neg (Nat.not_lt.2 (hsize r (by simp))), splice_concat (Nat.zero_le _) hbefore hr]
    refine ih hrs (fun s hs => hsize s (by simp [hs])) ?_
    intro s hs
    have := hbefore s hs
    rw [List.length_append, List.length_append, List.length_take]
    omega

/-- Neighbours that follow one another do not clash. -/
theorem firstOverlap?_eq_none {rs : List Replacement}
    (h : rs.Pairwise fun a b => a.overlaps b = false) : firstOverlap? rs = none := by
  induction rs with
  | nil => rfl
  | cons a rs ih =>
    obtain ⟨ha, hrs⟩ := List.pairwise_cons.1 h
    cases rs with
    | nil => rfl
    | cons b rs =>
      rw [firstOverlap?, ha b List.mem_cons_self]
      exact ih hrs

/-- Fixes whose replacements, put in order, follow one another are applied as one splice. -/
theorem applyFixes_eq_splice {source : Bytes} {fixes : List Fix} {rs : List Replacement}
    (hmem : ∀ r, r ∈ fixes.flatMap (·.replacements) ↔ r ∈ rs)
    (hbefore : rs.Pairwise fun a b => a.before b = true)
    (hclash : rs.Pairwise fun a b => a.overlaps b = false)
    (hord : rs.Pairwise fun a b => a.stop ≤ b.start) (hin : ∀ r ∈ rs, r.stop ≤ source.length) :
    applyFixes source fixes = .ok (splice source 0 rs) := by
  have hn : normalise fixes = .ok rs := by
    rw [normalise, Replacement.sortUnique_eq hbefore hmem, firstOverlap?_eq_none hclash]
  rw [applyFixes, hn]
  exact replaceEach_reverse hord hin hin

/-- A splice of texts at boundaries is text. -/
theorem isValid_splice {source : Bytes} (hv : Utf8.isValid source = true) {pos : Nat}
    (hpos : Utf8.IsBoundary source pos) {rs : List Replacement}
    (hrs : ∀ r ∈ rs, Utf8.IsBoundary source r.start ∧ Utf8.IsBoundary source r.stop) :
    Utf8.isValid (splice source pos rs) = true := by
  induction rs generalizing pos with
  | nil => exact hpos.isValid_drop hv
  | cons r rs ih =>
    obtain ⟨hstart, hstop⟩ := hrs r List.mem_cons_self
    rw [splice]
    refine Utf8.isValid_append (Utf8.isValid_append (Utf8.isValid_slice hpos hstart)
      (Utf8.isValid_ofText _)) (ih hstop fun s hs => hrs s (List.mem_cons_of_mem _ hs))

/-! ## Insertions -/

/-- Insertions at ascending offsets, as replacements. -/
def insertions (points : List (Nat × String)) : List Replacement :=
  points.map fun (offset, text) => .insertion offset text

theorem pairwise_insertions {points : List (Nat × String)} {p : Replacement → Replacement → Prop}
    (h : points.Pairwise fun a b => a.1 < b.1)
    (hp : ∀ m n s t, m < n → p (.insertion m s) (.insertion n t)) :
    (insertions points).Pairwise p := by
  rw [insertions, List.pairwise_map]
  exact h.imp fun hab => hp _ _ _ _ hab

/-- Insertions at ascending offsets inside the source are applied as one splice. -/
theorem applyFixes_insertions {source : Bytes} {fixes : List Fix} {points : List (Nat × String)}
    (hmem : ∀ r, r ∈ fixes.flatMap (·.replacements) ↔ r ∈ insertions points)
    (hasc : points.Pairwise fun a b => a.1 < b.1) (hin : ∀ p ∈ points, p.1 ≤ source.length) :
    applyFixes source fixes = .ok (splice source 0 (insertions points)) := by
  refine applyFixes_eq_splice hmem (pairwise_insertions hasc ?_) (pairwise_insertions hasc ?_)
    (pairwise_insertions hasc ?_) ?_
  · intro m n s t h
    exact Replacement.before_iff.2 (.inl h)
  · intro m n s t h
    simp [Replacement.overlaps, Replacement.isInsertion, Replacement.insertion, Nat.ne_of_lt h]
  · intro m n s t h
    exact Nat.le_of_lt h
  · intro r hr
    obtain ⟨p, hp, rfl⟩ := List.mem_map.1 hr
    exact hin p hp

/-- Insertions at distinct offsets, in any order, are applied as one splice in ascending order. -/
theorem applyFixes_distinct {source : Bytes} {fixes : List Fix} {points : List (Nat × String)}
    (hmem : ∀ r, r ∈ fixes.flatMap (·.replacements) ↔ r ∈ insertions points)
    (hne : (points.map (·.1)).Nodup) (hin : ∀ p ∈ points, p.1 ≤ source.length) :
    ∃ sorted, sorted.Perm points ∧
      applyFixes source fixes = .ok (splice source 0 (insertions sorted)) := by
  let sorted := points.mergeSort fun a b => decide (a.1 ≤ b.1)
  have hperm : sorted.Perm points := List.mergeSort_perm points _
  have hle : sorted.Pairwise fun a b => decide (a.1 ≤ b.1) = true :=
    List.pairwise_mergeSort (by simp only [decide_eq_true_eq]; omega)
      (by simp only [Bool.or_eq_true, decide_eq_true_eq]; omega) points
  have hne' : sorted.Pairwise fun a b => a.1 ≠ b.1 :=
    List.pairwise_map.1 ((hperm.map Prod.fst).nodup_iff.2 hne)
  refine ⟨sorted, hperm, applyFixes_insertions ?_ ?_ ?_⟩
  · intro r
    rw [hmem r]
    exact ((hperm.map _).mem_iff).symm
  · refine (hle.and hne').imp ?_
    rintro a b ⟨hab, hab'⟩
    exact Nat.lt_of_le_of_ne (of_decide_eq_true hab) hab'
  · intro p hp
    exact hin p (hperm.mem_iff.1 hp)

/-! ## Parts of a splice -/

/-- How many bytes some insertions add. -/
def weight (points : List (Nat × String)) : Nat := total (fun p => (Utf8.ofText p.2).length) points

theorem splice_insertions_cons (source : Bytes) (pos : Nat) (p : Nat × String)
    (points : List (Nat × String)) :
    splice source pos (insertions (p :: points)) =
      (source.drop pos).take (p.1 - pos) ++
        (Utf8.ofText p.2 ++ splice source p.1 (insertions points)) := by
  rw [← List.append_assoc]
  rfl

theorem mem_splice {source : Bytes} {pos : Nat} {points : List (Nat × String)} {p : Nat × String}
    {b : UInt8} (hp : p ∈ points) (hb : b ∈ Utf8.ofText p.2) :
    b ∈ splice source pos (insertions points) := by
  induction points generalizing pos with
  | nil => cases hp
  | cons q points ih =>
    rw [splice_insertions_cons]
    refine List.mem_append_right _ (List.mem_append.2 ?_)
    rcases List.mem_cons.1 hp with rfl | hp
    · exact .inl hb
    · exact .inr (ih hp)

/-- The bytes up to an offset: those before the first insertion, that insertion, and the others. -/
theorem length_up_to {source : Bytes} {pos n : Nat} {p : Nat × String}
    {points : List (Nat × String)} (hpos : pos ≤ p.1) (hpn : p.1 ≤ n) (hn : n ≤ source.length) :
    n - pos + weight (p :: points) =
      ((source.drop pos).take (p.1 - pos)).length +
        ((Utf8.ofText p.2).length + (n - p.1 + weight points)) := by
  rw [weight, total_cons, ← weight, List.length_take, List.length_drop]
  omega

/-- Where nothing is inserted before an offset, the rest of a splice is a splice of the rest. -/
theorem drop_splice {source : Bytes} {pos n : Nat} {points : List (Nat × String)} (hpos : pos ≤ n)
    (h : ∀ p ∈ points, n ≤ p.1 ∧ p.1 ≤ source.length) :
    (splice source pos (insertions points)).drop (n - pos) =
      splice source n (insertions points) := by
  cases points with
  | nil =>
    show (source.drop pos).drop (n - pos) = source.drop n
    rw [List.drop_drop, Nat.add_sub_cancel' hpos]
  | cons p points =>
    obtain ⟨hn, hp⟩ := h p List.mem_cons_self
    rw [splice_insertions_cons, splice_insertions_cons, List.drop_append_of_le_length
      (by rw [List.length_take, List.length_drop]; omega), List.drop_take, List.drop_drop,
      Nat.add_sub_cancel' hpos, Nat.sub_sub_sub_cancel_right hpos]

/-- What a splice comes to behind some of its insertions. -/
theorem drop_splice_append {source : Bytes} {pos n : Nat} {before after : List (Nat × String)}
    (hasc : before.Pairwise fun a b => a.1 < b.1) (hpos : pos ≤ n) (hn : n ≤ source.length)
    (hbefore : ∀ p ∈ before, pos ≤ p.1 ∧ p.1 ≤ n)
    (hafter : ∀ p ∈ after, n ≤ p.1 ∧ p.1 ≤ source.length) :
    (splice source pos (insertions (before ++ after))).drop (n - pos + weight before) =
      splice source n (insertions after) := by
  induction before generalizing pos with
  | nil => exact drop_splice hpos hafter
  | cons p before ih =>
    obtain ⟨hp, hasc⟩ := List.pairwise_cons.1 hasc
    obtain ⟨hpos', hpn⟩ := hbefore p List.mem_cons_self
    rw [List.cons_append, splice_insertions_cons, length_up_to hpos' hpn hn,
      List.drop_length_add_append, List.drop_length_add_append]
    refine ih hasc hpn ?_
    intro q hq
    exact ⟨Nat.le_of_lt (hp q hq), (hbefore q (List.mem_cons_of_mem _ hq)).2⟩

/-- What a splice comes to up to some of its insertions. -/
theorem take_splice_append {source : Bytes} {pos n : Nat} {before after : List (Nat × String)}
    (hasc : before.Pairwise fun a b => a.1 < b.1) (hpos : pos ≤ n) (hn : n ≤ source.length)
    (hbefore : ∀ p ∈ before, pos ≤ p.1 ∧ p.1 ≤ n)
    (hafter : ∀ p ∈ after, n ≤ p.1 ∧ p.1 ≤ source.length) :
    (splice source pos (insertions (before ++ after))).take (n - pos + weight before) =
      splice (source.take n) pos (insertions before) := by
  induction before generalizing pos with
  | nil =>
    show (splice source pos (insertions after)).take (n - pos) = (source.take n).drop pos
    rw [List.drop_take]
    cases after with
    | nil => rfl
    | cons p after =>
      obtain ⟨hp, hlen⟩ := hafter p List.mem_cons_self
      rw [splice_insertions_cons, List.take_append_of_le_length
        (by rw [List.length_take, List.length_drop]; omega), List.take_take,
        Nat.min_eq_left (by omega)]
  | cons p before ih =>
    obtain ⟨hp, hasc⟩ := List.pairwise_cons.1 hasc
    obtain ⟨hpos', hpn⟩ := hbefore p List.mem_cons_self
    have hsame : ((source.take n).drop pos).take (p.1 - pos) =
        (source.drop pos).take (p.1 - pos) := by
      rw [List.drop_take, List.take_take, Nat.min_eq_left (by omega)]
    rw [List.cons_append, splice_insertions_cons, splice_insertions_cons,
      length_up_to hpos' hpn hn, List.take_length_add_append, List.take_length_add_append, hsame]
    rw [ih hasc hpn]
    intro q hq
    exact ⟨Nat.le_of_lt (hp q hq), (hbefore q (List.mem_cons_of_mem _ hq)).2⟩

/-- Applying fixes does not depend on what is noted of it. -/
theorem fst_applyFixesLogged (source : Bytes) (fixes : List Fix) (log : Log) :
    ((applyFixesLogged source fixes).run log).1 = applyFixes source fixes := by
  unfold applyFixesLogged applyFixes
  cases normalise fixes with
  | error c => rfl
  | ok rs =>
    dsimp only [bind, Except.bind]
    cases replaceEach source.length rs.reverse source <;> rfl

end CauseLint
