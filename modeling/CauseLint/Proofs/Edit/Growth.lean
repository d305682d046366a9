import CauseLint.Proofs.Edit.Splice

/-!
# Insertions make a source longer

Fixes that only insert texts take nothing out, so each application makes a source longer by the
bytes of the texts, and where they can be applied to a source they can be applied to what comes of
it. A second application of a fix is seen by the length.

Results:

* `length_of_applyFixes`: how much longer a source becomes.
* `isOk_applyFixes_of_le`: fixes that apply to a source apply to every longer one.
* `isValid_of_applyFixes`: insertions between characters make text of text.
-/

namespace CauseLint

/-- A fix that inserts a text at one place and does nothing else. -/
def Fix.Inserts (f : Fix) : Prop :=
  ∃ offset text description, 0 < (Utf8.ofText text).length ∧
    f = .insertAfter offset text description

/-- The bytes that a replacement puts in. -/
def Replacement.weight (r : Replacement) : Nat := (Utf8.ofText r.text).length

/-- How many bytes fixes insert. -/
def inserted (fixes : List Fix) : Nat :=
  total Replacement.weight (Replacement.sortUnique (fixes.flatMap (·.replacements)))

theorem normalise_eq_ok {fixes : List Fix} {rs : List Replacement}
    (h : normalise fixes = .ok rs) :
    rs = Replacement.sortUnique (fixes.flatMap (·.replacements)) := by
  unfold normalise at h
  dsimp only at h
  split at h
  · cases h
  · exact (Except.ok.inj h).symm

/-- Replacements can be made when they lie inside the source they are meant for. -/
theorem isOk_replaceEach_iff {size : Nat} {rs : List Replacement} {out : Bytes} :
    (replaceEach size rs out).isOk ↔ ∀ r ∈ rs, r.stop ≤ size := by
  induction rs generalizing out with
  | nil => exact iff_of_true rfl (by simp)
  | cons r rs ih =>
    rw [replaceEach, List.forall_mem_cons]
    split
    · rename_i h
      refine iff_of_false (fun h => ?_) fun h' => absurd h'.1 (Nat.not_le.2 h)
      cases h
    · rename_i h
      rw [ih, and_iff_right (Nat.not_lt.1 h)]

theorem length_of_replaceEach {size : Nat} {rs : List Replacement}
    (hrs : ∀ r ∈ rs, r.stop = r.start) {out after : Bytes}
    (h : replaceEach size rs out = .ok after) :
    after.length = out.length + total Replacement.weight rs := by
  induction rs generalizing out with
  | nil =>
    rw [Except.ok.inj h]
    rfl
  | cons r rs ih =>
    obtain ⟨hr, hrs⟩ := List.forall_mem_cons.1 hrs
    rw [replaceEach] at h
    split at h
    · cases h
    · have := ih hrs h
      have hsplit := congrArg List.length (List.take_append_drop r.start out)
      rw [hr] at this
      simp only [List.length_append] at this hsplit
      rw [total_cons, Replacement.weight]
      omega

section

variable {fixes : List Fix} (hfixes : ∀ f ∈ fixes, f.Inserts)

include hfixes

theorem insertion_of_mem_sortUnique {r : Replacement}
    (h : r ∈ Replacement.sortUnique (fixes.flatMap (·.replacements))) :
    r.stop = r.start ∧ 0 < r.weight := by
  obtain ⟨f, hf, hr⟩ := List.mem_flatMap.1 (Replacement.mem_sortUnique.1 h)
  obtain ⟨offset, text, description, hpos, rfl⟩ := hfixes f hf
  obtain rfl := List.mem_singleton.1 hr
  exact ⟨rfl, hpos⟩

theorem inserted_pos (hne : fixes ≠ []) : 0 < inserted fixes := by
  obtain ⟨f, rest, rfl⟩ := List.exists_cons_of_ne_nil hne
  obtain ⟨offset, text, description, hpos, rfl⟩ := hfixes f List.mem_cons_self
  refine Nat.lt_of_lt_of_le hpos (le_total_of_mem Replacement.weight
    (a := .insertion offset text) (Replacement.mem_sortUnique.2 ?_))
  exact List.mem_flatMap.2 ⟨_, List.mem_cons_self, List.mem_singleton_self _⟩

/-- Fixes that insert texts make a source longer by these. -/
theorem length_of_applyFixes {source after : Bytes} (h : applyFixes source fixes = .ok after) :
    after.length = source.length + inserted fixes := by
  cases hrs : normalise fixes with
  | error c =>
    rw [applyFixes, hrs] at h
    cases h
  | ok rs =>
    rw [applyFixes, hrs] at h
    obtain rfl := normalise_eq_ok hrs
    have hlength := length_of_replaceEach (fun r hr =>
      (insertion_of_mem_sortUnique hfixes (List.mem_reverse.1 hr)).1) h
    rw [hlength, total_reverse, inserted]

end

/-- Fixes that apply to a source apply to every longer one. -/
theorem isOk_applyFixes_of_le {fixes : List Fix} {source longer : Bytes}
    (hle : source.length ≤ longer.length) (h : (applyFixes source fixes).isOk) :
    (applyFixes longer fixes).isOk := by
  unfold applyFixes at h ⊢
  cases hrs : normalise fixes with
  | error c =>
    rw [hrs] at h
    cases h
  | ok rs =>
    rw [hrs] at h
    have h := isOk_replaceEach_iff.1 h
    exact isOk_replaceEach_iff.2 fun r hr => Nat.le_trans (h r hr) hle

/-- Insertions between characters of a text. -/
def InsertsBetween (source : Bytes) (fixes : List Fix) : Prop :=
  ∀ fix ∈ fixes, ∀ r ∈ fix.replacements, r.start = r.stop ∧ Utf8.IsBoundary source r.stop

/-- Insertions between characters make text of text. -/
theorem isValid_of_applyFixes {source after : Bytes} {fixes : List Fix}
    (hv : Utf8.isValid source = true) (hfixes : InsertsBetween source fixes)
    (h : applyFixes source fixes = .ok after) : Utf8.isValid after = true := by
  cases hrs : normalise fixes with
  | error c =>
    rw [applyFixes, hrs] at h
    cases h
  | ok rs =>
    rw [applyFixes, hrs] at h
    obtain rfl := normalise_eq_ok hrs
    have hat : ∀ r ∈ Replacement.sortUnique (fixes.flatMap (·.replacements)),
        r.start = r.stop ∧ Utf8.IsBoundary source r.stop := by
      intro r hr
      obtain ⟨fix, hfix, hr⟩ := List.mem_flatMap.1 (Replacement.mem_sortUnique.1 hr)
      exact hfixes fix hfix r hr
    have hord : (Replacement.sortUnique (fixes.flatMap (·.replacements))).Pairwise
        fun a b => a.stop ≤ b.start := by
      refine (Replacement.pairwise_sortUnique _).imp_of_mem fun {a b} ha _ hab => ?_
      have hstart := (hat a ha).1
      rcases Replacement.before_iff.1 hab with hlt | ⟨heq, -⟩ <;> omega
    have hin := fun r hr => (hat r hr).2.1
    obtain rfl := Except.ok.inj ((replaceEach_reverse hord hin hin).symm.trans h)
    have hzero : Utf8.IsBoundary source 0 := ⟨Nat.zero_le _, Utf8.isValid_of_ascii (by simp)⟩
    refine isValid_splice hv hzero fun r hr => ?_
    obtain ⟨hstart, hstop⟩ := hat r hr
    exact ⟨hstart ▸ hstop, hstop⟩

end CauseLint
