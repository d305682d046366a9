import CauseLint.Proofs.Edit.Growth
import Mathlib.Data.List.Chain
import Mathlib.Data.Prod.Lex

/-!
# Fixes as simultaneous substitution

Of the replacements in source order only neighbours are compared, and the replacements are made one
after another in bytes that change under them. Both come to what the fixes mean: no two of their
replacements clash, and all are made at once in the source as it was. So only the set of
replacements counts, not how they are listed, grouped into fixes or described.

Results:

* `Replacement.overlaps_eq_false_iff`: of two replacements in source order that do not clash, the
  first leads the second.
* `firstOverlap?_eq_none_iff`: in source order it is enough to compare neighbours.
* `applyFixes_simultaneous`: which fixes are refused, and what comes of the others.
* `applyFixes_of_same_replacements`: fixes with the same replacements come to the same.
-/

namespace CauseLint

namespace Replacement

/-! ## Clashes in source order -/

/-- What the order of the source goes by: the start, then the end, then the text. -/
def key (r : Replacement) : ℕ ×ₗ ℕ ×ₗ String := toLex (r.start, toLex (r.stop, r.text))

theorem key_lt_key_iff {a b : Replacement} : a.key < b.key ↔ a.before b = true := by
  rw [before_iff, key, key, Prod.Lex.toLex_lt_toLex, Prod.Lex.toLex_lt_toLex]

theorem overlaps_comm (a b : Replacement) : a.overlaps b = b.overlaps a := by
  unfold overlaps
  cases a.isInsertion <;> cases b.isInsertion
  · exact Bool.and_comm _ _
  · rfl
  · rfl
  · exact BEq.comm

/-- The first replacement ends where the second begins or before, and they are not two insertions at
one place. -/
def Leads (a b : Replacement) : Prop := a.stop ≤ b.start ∧ a.start < b.stop

instance : Trans Leads Leads Leads where
  trans := by
    rintro a b c ⟨hab, hab'⟩ ⟨hbc, -⟩
    have hb := b.ordered
    have hc := c.ordered
    exact ⟨by omega, by omega⟩

/-- Of two replacements in source order that do not clash, the first leads the second. -/
theorem overlaps_eq_false_iff {a b : Replacement} (h : a.before b = true) :
    a.overlaps b = false ↔ a.Leads b := by
  have ha := a.ordered
  have hb := b.ordered
  have hle : a.start < b.start ∨ a.start = b.start ∧ a.stop ≤ b.stop := by
    rcases before_iff.1 h with h | ⟨h, h' | ⟨h', -⟩⟩
    · exact .inl h
    · exact .inr ⟨h, Nat.le_of_lt h'⟩
    · exact .inr ⟨h, Nat.le_of_eq h'⟩
  unfold overlaps isInsertion Leads
  by_cases hia : a.start = a.stop <;> by_cases hib : b.start = b.stop
  · simp [hia, hib]
    omega
  · simp [hia, hib]
    omega
  · simp [hia, hib]
    omega
  · simp [hia, hib]
    omega

end Replacement

/-- In source order it is enough to compare neighbours: each leads the next one, so it leads all
that come behind it. -/
theorem firstOverlap?_eq_none_iff {rs : List Replacement}
    (h : rs.Pairwise fun a b => a.before b = true) :
    firstOverlap? rs = none ↔ rs.Pairwise Replacement.Leads := by
  rw [← List.isChain_iff_pairwise]
  fun_induction firstOverlap? rs with
  | case1 a b rest hclash =>
    have hab := (List.pairwise_cons.1 h).1 b List.mem_cons_self
    refine iff_of_false (by simp) fun hchain => ?_
    have hleads := (List.isChain_cons_cons.1 hchain).1
    rw [(Replacement.overlaps_eq_false_iff hab).2 hleads] at hclash
    cases hclash
  | case2 a b rest hclash ih =>
    obtain ⟨ha, hrest⟩ := List.pairwise_cons.1 h
    have hab := ha b List.mem_cons_self
    have hleads := (Replacement.overlaps_eq_false_iff hab).1 (by simpa using hclash)
    rw [ih hrest, List.isChain_cons_cons, and_iff_right hleads]
  | case3 rs hshort =>
    match rs, hshort with
    | [], _ => simp
    | [a], _ => simp
    | a :: b :: rest, hshort => exact absurd rfl (hshort a b rest)

/-- Two different replacements clash. -/
def Clashing (rs : List Replacement) : Prop :=
  ∃ a ∈ rs, ∃ b ∈ rs, a ≠ b ∧ a.overlaps b = true

theorem not_clashing_iff {rs : List Replacement} (h : rs.Pairwise fun a b => a.before b = true) :
    ¬ Clashing rs ↔ rs.Pairwise Replacement.Leads := by
  constructor
  · intro hclear
    refine h.imp_of_mem fun {a b} ha hb hab => (Replacement.overlaps_eq_false_iff hab).1 ?_
    refine Bool.eq_false_iff.2 fun hclash => hclear ⟨a, ha, b, hb, ?_, hclash⟩
    rintro rfl
    exact Replacement.not_before_self a hab
  · rintro hleads ⟨a, ha, b, hb, hne, hclash⟩
    have hclear : rs.Pairwise fun a b => a.overlaps b = false :=
      (h.and hleads).imp fun ⟨hab, hleads⟩ => (Replacement.overlaps_eq_false_iff hab).2 hleads
    have : Std.Symm fun a b : Replacement => a.overlaps b = false :=
      ⟨fun a b hab => (Replacement.overlaps_comm b a).trans hab⟩
    rw [hclear.forall ha hb hne] at hclash
    cases hclash

/-! ## All at once -/

theorem Conflict.kind_toError (c : Conflict) : c.toError.kind = .fixConflict := by
  cases c <;> rfl

/-- Fixes are put in order unless two of their replacements clash. -/
theorem normalise_eq_ok_iff {fixes : List Fix} {rs : List Replacement} :
    normalise fixes = .ok rs ↔
      rs = Replacement.sortUnique (fixes.flatMap (·.replacements)) ∧ ¬ Clashing rs := by
  have hsorted := Replacement.pairwise_sortUnique (fixes.flatMap (·.replacements))
  constructor
  · intro h
    obtain rfl := normalise_eq_ok h
    refine ⟨rfl, (not_clashing_iff hsorted).2 ((firstOverlap?_eq_none_iff hsorted).1 ?_)⟩
    unfold normalise at h
    dsimp only at h
    split at h
    · cases h
    · assumption
  · rintro ⟨rfl, hclear⟩
    have hnone := (firstOverlap?_eq_none_iff hsorted).2 ((not_clashing_iff hsorted).1 hclear)
    rw [normalise, hnone]

/-- Some of these replacements cannot be made in a source of `size` bytes. -/
def Refused (size : Nat) (rs : List Replacement) : Prop :=
  Clashing rs ∨ ∃ r ∈ rs, size < r.stop

theorem isOk_applyFixes_iff {source : Bytes} {fixes : List Fix} :
    (applyFixes source fixes).isOk ↔
      ¬ Refused source.length (Replacement.sortUnique (fixes.flatMap (·.replacements))) := by
  unfold applyFixes Refused
  cases hn : normalise fixes with
  | error c =>
    refine iff_of_false Bool.false_ne_true fun h => ?_
    rw [normalise_eq_ok_iff.2 ⟨rfl, (not_or.1 h).1⟩] at hn
    cases hn
  | ok rs =>
    obtain ⟨rfl, hclear⟩ := normalise_eq_ok_iff.1 hn
    refine isOk_replaceEach_iff.trans ?_
    simp [hclear]

/-- Fixes that are not refused are applied as one splice. -/
theorem applyFixes_eq_splice_of_not_refused {source : Bytes} {fixes : List Fix}
    (h : ¬ Refused source.length (Replacement.sortUnique (fixes.flatMap (·.replacements)))) :
    applyFixes source fixes =
      .ok (splice source 0 (Replacement.sortUnique (fixes.flatMap (·.replacements)))) := by
  obtain ⟨hclear, hin⟩ := not_or.1 h
  have hsorted := Replacement.pairwise_sortUnique (fixes.flatMap (·.replacements))
  have hleads := (not_clashing_iff hsorted).1 hclear
  refine applyFixes_eq_splice (fun r => Replacement.mem_sortUnique.symm) hsorted ?_
    (hleads.imp fun h => h.1) fun r hr => Nat.not_lt.1 fun hlt => hin ⟨r, hr, hlt⟩
  exact (hsorted.and hleads).imp fun ⟨hab, hleads⟩ =>
    (Replacement.overlaps_eq_false_iff hab).2 hleads

/-- Fixes are refused exactly when two different replacements among them clash or one reaches beyond
the source. Otherwise all replacements are made at once: read from left to right, each stretch that
is replaced gives way to its text, and all other bytes of the source stay. -/
theorem applyFixes_simultaneous (source : Bytes) (fixes : List Fix) :
    ∃ ordered : List Replacement,
      ordered.Pairwise (fun a b => a.key < b.key) ∧
      (∀ r, r ∈ ordered ↔ ∃ fix ∈ fixes, r ∈ fix.replacements) ∧
      ((∃ conflict, applyFixes source fixes = .error conflict ∧
          conflict.toError.kind = .fixConflict) ↔ Refused source.length ordered) ∧
      (applyFixes source fixes = .ok (splice source 0 ordered) ↔
        ¬ Refused source.length ordered) := by
  refine ⟨Replacement.sortUnique (fixes.flatMap (·.replacements)), ?_, ?_, ?_, ?_⟩
  · exact (Replacement.pairwise_sortUnique _).imp Replacement.key_lt_key_iff.2
  · intro r
    exact Replacement.mem_sortUnique.trans List.mem_flatMap
  · constructor
    · rintro ⟨conflict, hconflict, -⟩
      by_contra hfine
      rw [applyFixes_eq_splice_of_not_refused hfine] at hconflict
      cases hconflict
    · intro hrefused
      cases happly : applyFixes source fixes with
      | error conflict => exact ⟨conflict, rfl, conflict.kind_toError⟩
      | ok after =>
        refine absurd hrefused (isOk_applyFixes_iff.1 ?_)
        rw [happly]
        rfl
  · constructor
    · intro happly
      refine isOk_applyFixes_iff.1 ?_
      rw [happly]
      rfl
    · exact applyFixes_eq_splice_of_not_refused

/-- Insertions at both ends of a stretch, the same one twice, and the stretch replaced. -/
example : applyFixes (Utf8.ofText "abcd")
    [⟨[⟨1, 3, "-", by decide⟩, .insertion 3 ">"], ""⟩, ⟨[.insertion 1 "<", .insertion 3 ">"], ""⟩] =
      .ok (Utf8.ofText "a<->d") := by
  decide +kernel

/-! ## Only the set of replacements counts -/

/-- A fix that comes of merging some fixes in some grouping. -/
inductive Fix.Merges : List Fix → Fix → Prop
  | one (f : Fix) : Merges [f] f
  | merge {fs gs : List Fix} {f g : Fix} : Merges fs f → Merges gs g →
    Merges (fs ++ gs) (f.merge g)

theorem Fix.Merges.mem_replacements_iff {fs : List Fix} {f : Fix} (h : Merges fs f)
    (r : Replacement) : r ∈ f.replacements ↔ ∃ g ∈ fs, r ∈ g.replacements := by
  induction h with
  | one f => simp
  | merge _ _ ihf ihg =>
    refine List.mem_append.trans ?_
    rw [ihf, ihg]
    simp only [List.mem_append, or_and_right, exists_or]

/-- Two lists of fixes have the same replacements, whatever their number, grouping, order and
descriptions. -/
def SameReplacements (fs gs : List Fix) : Prop :=
  ∀ r, (∃ f ∈ fs, r ∈ f.replacements) ↔ ∃ g ∈ gs, r ∈ g.replacements

theorem Fix.Merges.same {fs : List Fix} {f : Fix} (h : Merges fs f) : SameReplacements [f] fs := by
  intro r
  rw [← h.mem_replacements_iff]
  simp

theorem same_of_mem_iff {fs gs : List Fix} (h : ∀ e, e ∈ fs ↔ e ∈ gs) : SameReplacements fs gs :=
  fun _ => exists_congr fun e => and_congr_left fun _ => h e

theorem normalise_eq_of_same {fs gs : List Fix} (h : SameReplacements fs gs) :
    normalise fs = normalise gs := by
  have hsorted : Replacement.sortUnique (fs.flatMap (·.replacements)) =
      Replacement.sortUnique (gs.flatMap (·.replacements)) := by
    refine Replacement.sortUnique_eq (Replacement.pairwise_sortUnique _) fun r => ?_
    rw [Replacement.mem_sortUnique, List.mem_flatMap, List.mem_flatMap]
    exact h r
  unfold normalise
  rw [hsorted]

theorem applyFixes_eq_of_same (source : Bytes) {fs gs : List Fix} (h : SameReplacements fs gs) :
    applyFixes source fs = applyFixes source gs := by
  rw [applyFixes, applyFixes, normalise_eq_of_same h]

/-- Fixes with the same replacements come to the same, be it the same bytes or the same conflict,
and leave the same log. So do fixes that are merged of the same parts in any grouping and order, and
these come to what the parts come to: two fixes can be merged either way around, or be applied
together, also with one of them given twice. -/
theorem applyFixes_of_same_replacements (source : Bytes) :
    (∀ fs gs, SameReplacements fs gs → applyFixes source fs = applyFixes source gs ∧
      applyFixesLogged source fs = applyFixesLogged source gs) ∧
    (∀ fs gs f g, Fix.Merges fs f → Fix.Merges gs g → (∀ e, e ∈ fs ↔ e ∈ gs) →
      applyFixes source [f] = applyFixes source [g] ∧
        applyFixes source [f] = applyFixes source fs) ∧
    ∀ a b : Fix, applyFixes source [a.merge b] = applyFixes source [b.merge a] ∧
      applyFixes source [a.merge b] = applyFixes source [a, b, a] := by
  have hmerged : ∀ fs gs f g, Fix.Merges fs f → Fix.Merges gs g → (∀ e, e ∈ fs ↔ e ∈ gs) →
      applyFixes source [f] = applyFixes source [g] ∧
        applyFixes source [f] = applyFixes source fs := by
    intro fs gs f g hf hg hparts
    have hf := applyFixes_eq_of_same source hf.same
    have hg := applyFixes_eq_of_same source hg.same
    exact ⟨hf.trans ((applyFixes_eq_of_same source (same_of_mem_iff hparts)).trans hg.symm), hf⟩
  refine ⟨?_, hmerged, ?_⟩
  · intro fs gs h
    refine ⟨applyFixes_eq_of_same source h, ?_⟩
    rw [applyFixesLogged, applyFixesLogged, normalise_eq_of_same h]
  · intro a b
    have hab : Fix.Merges [a, b] (a.merge b) := .merge (.one a) (.one b)
    have hba : Fix.Merges [b, a] (b.merge a) := .merge (.one b) (.one a)
    obtain ⟨hswap, htogether⟩ := hmerged _ _ _ _ hab hba (by simp [or_comm])
    refine ⟨hswap, htogether.trans (applyFixes_eq_of_same source (same_of_mem_iff ?_))⟩
    intro e
    simp only [List.mem_cons, List.not_mem_nil, or_false]
    exact ⟨fun h => h.elim .inl fun h => .inr (.inl h), fun h => h.elim .inl fun h => h.symm⟩

/-- Two fixes that clash, listed in two orders, and merged three at a time. -/
theorem applyFixes_of_same_replacements_clash :
    let bracket : Fix := ⟨[.insertion 1 "<", .insertion 3 ">"], "bracket"⟩
    let dash : Fix := ⟨[⟨0, 2, "-", by decide⟩], "dash"⟩
    SameReplacements [bracket, dash] [dash, bracket, dash] ∧
      Fix.Merges [bracket, dash, bracket] ((bracket.merge dash).merge bracket) ∧
      applyFixes (Utf8.ofText "abcd") [bracket, dash] =
        applyFixes (Utf8.ofText "abcd") [dash, bracket, dash] ∧
      applyFixes (Utf8.ofText "abcd") [(bracket.merge dash).merge bracket] =
        applyFixes (Utf8.ofText "abcd") [bracket, dash, bracket] ∧
      applyFixes (Utf8.ofText "abcd") [bracket, dash] =
        .error (.overlap ⟨0, 2, "-", by decide⟩ (.insertion 1 "<")) := by
  intro bracket dash
  obtain ⟨hlists, hmerged, -⟩ := applyFixes_of_same_replacements (Utf8.ofText "abcd")
  have hsame : SameReplacements [bracket, dash] [dash, bracket, dash] :=
    same_of_mem_iff (by simp [or_comm])
  have hthree : Fix.Merges [bracket, dash, bracket] ((bracket.merge dash).merge bracket) :=
    .merge (.merge (.one bracket) (.one dash)) (.one bracket)
  refine ⟨hsame, hthree, (hlists _ _ hsame).1, (hmerged _ _ _ _ hthree hthree ?_).2, ?_⟩
  · exact fun e => Iff.rfl
  · decide +kernel

end CauseLint
