import CauseLint.Report.Html
import Mathlib.Data.String.Basic
import Mathlib.Data.List.Nodup

/-!
# Groups of a page

A page collects its rows by a key, the file name without regard to case, and heads each collection
by the file name of its first row. Results:

* `perm_rows_groups`: grouping loses no row and repeats none;
* `filter_rows_groups`: rows of one file keep their order;
* `pairwise_groups`: every key has one group, and groups ascend by their keys;
* `forall_headed_iff`: every row is under the heading of its own file iff no two of the file names
  differ in case only.
-/

namespace CauseLint

/-! ## Keys -/

theorem lowerChar_ne_nil (c : Char) : lowerChar c ≠ [] := by
  unfold lowerChar
  split
  · simp
  · split <;> simp

theorem lowerAfter_eq_nil_iff (before cs : List Char) : lowerAfter before cs = [] ↔ cs = [] := by
  cases cs with
  | nil => simp [lowerAfter]
  | cons c cs =>
    have step : lowerAfter before (c :: cs) ≠ [] := by
      simp only [lowerAfter]
      refine List.append_ne_nil_of_left_ne_nil ?_ _
      split
      · split <;> simp
      · exact lowerChar_ne_nil c
    simpa using step

/-- Only the empty name has the empty key. -/
theorem lowerCase_eq_empty_iff (s : String) : lowerCase s = "" ↔ s = "" := by
  have empty : ∀ cs : List Char, String.ofList cs = "" ↔ cs = [] := by
    intro cs
    rw [← String.ofList_nil, String.ofList_inj]
  rw [lowerCase, empty, lowerAfter_eq_nil_iff, String.toList_eq_nil_iff]

namespace Html

/-- Names that differ in case only have different headings, unless they are the same. -/
theorem heading_inj {f f' : String} (key : lowerCase f = lowerCase f') :
    heading f = heading f' ↔ f = f' := by
  have both : f = "" ↔ f' = "" := by
    rw [← lowerCase_eq_empty_iff, key, lowerCase_eq_empty_iff]
  by_cases none : f = ""
  · simp [none, both.mp none]
  · simp [heading, none, mt both.mpr none]

/-! ## Runs of rows with one key -/

/-- What the groups of some rows are like: the rows of a group have the key of its name, and one of
them has the name itself. -/
theorem of_mem_groupRuns {rows : List Row} {g : Group} (mem : g ∈ groupRuns rows) :
    (∀ r ∈ g.rows, lowerCase r.file = lowerCase g.file) ∧ ∃ r ∈ g.rows, r.file = g.file := by
  induction rows generalizing g with
  | nil => simp [groupRuns] at mem
  | cons r rest ih =>
    rw [groupRuns] at mem
    cases runs : groupRuns rest with
    | nil =>
      simp only [runs, List.mem_singleton] at mem
      subst mem
      simp
    | cons first others =>
      simp only [runs] at mem ih
      split at mem
      case isTrue same =>
        rcases List.mem_cons.mp mem with rfl | mem
        · obtain ⟨keys, -⟩ := ih (List.mem_cons_self ..)
          refine ⟨?_, r, List.mem_cons_self .., rfl⟩
          intro r' mem'
          rcases List.mem_cons.mp mem' with rfl | mem'
          · rfl
          · exact (keys r' mem').trans same.symm
        · exact ih (List.mem_cons_of_mem _ mem)
      case isFalse =>
        rcases List.mem_cons.mp mem with rfl | mem
        · simp
        · exact ih mem

theorem flatMap_rows_groupRuns (rows : List Row) : (groupRuns rows).flatMap (·.rows) = rows := by
  induction rows with
  | nil => rfl
  | cons r rest ih =>
    rw [groupRuns]
    cases runs : groupRuns rest with
    | nil => simpa [runs] using ih
    | cons first others =>
      rw [runs, List.flatMap_cons] at ih
      simp only
      split <;> simp [List.flatMap_cons, ih]

/-- Rows that ascend by their keys form groups that ascend strictly. -/
theorem pairwise_groupRuns {rows : List Row}
    (sorted : rows.Pairwise fun a b => lowerCase a.file ≤ lowerCase b.file) :
    (groupRuns rows).Pairwise fun g g' => lowerCase g.file < lowerCase g'.file := by
  induction rows with
  | nil => simp [groupRuns]
  | cons r rest ih =>
    obtain ⟨above, sorted⟩ := List.pairwise_cons.mp sorted
    have ascending := ih sorted
    rw [groupRuns]
    cases runs : groupRuns rest with
    | nil => simp
    | cons first others =>
      rw [runs] at ascending
      obtain ⟨later, ascending'⟩ := List.pairwise_cons.mp ascending
      -- `r` is not above the first group, since that is named after one of the rows behind `r`
      have below : lowerCase r.file ≤ lowerCase first.file := by
        have mem : first ∈ groupRuns rest := runs ▸ List.mem_cons_self ..
        obtain ⟨-, r', mem', name⟩ := of_mem_groupRuns mem
        rw [← name]
        refine above r' ?_
        rw [← flatMap_rows_groupRuns rest]
        exact List.mem_flatMap.mpr ⟨first, mem, mem'⟩
      simp only
      split
      case isTrue same =>
        exact List.pairwise_cons.mpr ⟨fun g mem => same ▸ later g mem, ascending'⟩
      case isFalse other =>
        have strict := lt_of_le_of_ne below other
        refine List.pairwise_cons.mpr ⟨?_, ascending⟩
        intro g mem
        rcases List.mem_cons.mp mem with rfl | mem
        · exact strict
        · exact strict.trans (later g mem)

/-! ## Groups of a page -/

variable (rows : List Row)

/-- The rows as the page has them. -/
def arranged : List Row := rows.mergeSort fun a b => lowerCase a.file ≤ lowerCase b.file

theorem pairwise_arranged :
    (arranged rows).Pairwise fun a b => lowerCase a.file ≤ lowerCase b.file := by
  have sorted : (arranged rows).Pairwise
      fun a b => decide (lowerCase a.file ≤ lowerCase b.file) = true :=
    List.pairwise_mergeSort (by simpa using fun a b c => String.le_trans)
      (by simpa using fun a b => le_total _ _) rows
  exact sorted.imp of_decide_eq_true

theorem flatMap_rows_groups : (groups rows).flatMap (·.rows) = arranged rows :=
  flatMap_rows_groupRuns _

/-- Grouping loses no row and repeats none. -/
theorem perm_rows_groups : ((groups rows).flatMap (·.rows)).Perm rows := by
  rw [flatMap_rows_groups]
  exact List.mergeSort_perm ..

/-- Rows of one file keep their order. -/
theorem filter_rows_groups (file : String) :
    ((groups rows).flatMap (·.rows)).filter (·.file = file) = rows.filter (·.file = file) := by
  have perm := (perm_rows_groups rows).filter fun r => r.file = file
  rw [flatMap_rows_groups] at perm ⊢
  refine (List.Sublist.eq_of_length ?_ perm.length_eq.symm).symm
  -- rows of one file are in order already, so sorting leaves their order alone
  have tied : (rows.filter (·.file = file)).Pairwise
      fun a b => decide (lowerCase a.file ≤ lowerCase b.file) = true := by
    refine List.pairwise_of_forall_mem_list fun a memA b memB => ?_
    have nameA : a.file = file := by simpa using List.of_mem_filter memA
    have nameB : b.file = file := by simpa using List.of_mem_filter memB
    simp [nameA, nameB]
  have kept := List.sublist_mergeSort (by simpa using fun a b c => String.le_trans)
    (by simpa using fun a b => le_total _ _) tied List.filter_sublist
  simpa [arranged] using kept.filter fun r => r.file = file

/-- Every key has one group, and groups ascend by their keys. -/
theorem pairwise_groups :
    (groups rows).Pairwise fun g g' => lowerCase g.file < lowerCase g'.file :=
  pairwise_groupRuns (pairwise_arranged rows)

theorem nodup_keys_groups : ((groups rows).map fun g => lowerCase g.file).Nodup :=
  List.pairwise_map.mpr ((pairwise_groups rows).imp ne_of_lt)

/-- No two groups are for one file. -/
theorem nodup_files_groups : ((groups rows).map (·.file)).Nodup := by
  have keys := nodup_keys_groups rows
  rw [show (fun g : Group => lowerCase g.file) = lowerCase ∘ Group.file from rfl,
    ← List.map_map] at keys
  exact keys.of_map

variable {rows}

theorem eq_of_mem_groups {g g' : Group} (mem : g ∈ groups rows) (mem' : g' ∈ groups rows)
    (key : lowerCase g.file = lowerCase g'.file) : g = g' :=
  List.inj_on_of_nodup_map (nodup_keys_groups rows) mem mem' key

/-- No two of some file names differ in case only. -/
def CaseApart (files : List String) : Prop :=
  ∀ f ∈ files, ∀ f' ∈ files, lowerCase f = lowerCase f' → f = f'

/-- Every row is under the heading of its own file iff no two of the file names differ in case
only. -/
theorem forall_headed_iff :
    (∀ g ∈ groups rows, ∀ r ∈ g.rows, heading g.file = heading r.file) ↔
      CaseApart (rows.map (·.file)) := by
  unfold CaseApart
  simp only [List.forall_mem_map]
  have row_iff : ∀ r : Row, r ∈ rows ↔ ∃ g ∈ groups rows, r ∈ g.rows := by
    intro r
    rw [← (perm_rows_groups rows).mem_iff, List.mem_flatMap]
  constructor
  · intro headed a memA b memB key
    obtain ⟨g, memG, inG⟩ := (row_iff a).mp memA
    obtain ⟨g', memG', inG'⟩ := (row_iff b).mp memB
    have keyA := (of_mem_groupRuns memG).1 a inG
    have keyB := (of_mem_groupRuns memG').1 b inG'
    obtain rfl : g = g' := eq_of_mem_groups memG memG' (by rw [← keyA, ← keyB, key])
    rw [← heading_inj key, ← headed g memG a inG, ← headed g memG b inG']
  · intro same g mem r inG
    obtain ⟨keys, first, inFirst, name⟩ := of_mem_groupRuns mem
    rw [← name, same first ((row_iff first).mpr ⟨g, mem, inFirst⟩) r ((row_iff r).mpr ⟨g, mem, inG⟩)
      (by rw [name, keys r inG])]

end Html

end CauseLint
