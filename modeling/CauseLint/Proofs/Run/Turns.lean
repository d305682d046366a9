import CauseLint.Diagnostic
import Mathlib.Algebra.BigOperators.Group.List.Basic
import Mathlib.Algebra.Order.BigOperators.Group.List
import Mathlib.Algebra.Order.Ring.Nat
import Mathlib.Data.List.Nodup
import Mathlib.Tactic.TFAE

/-!
# Turns by name

What checkers say, each at its turn, is told apart by their names: all that is said under a name, and
what is said at its last turn. The two are the same exactly when nothing is said under the name at
an earlier turn, and then one can tell from how much it is.

Results:

* `settled_iff`: when the last turns say all.
* `flatMap_lastSaidBy_tfae`: the same for rounds of turns, and by length.
* `sum_saidBy`: names that cover all turns share out what is said.
-/

namespace CauseLint

/-! ## Turns by name -/

/-- What a checker says at a turn, with its name. -/
abbrev Turn := String × List Diagnostic

/-- All that is said under a name. -/
def saidBy (name : String) (turns : List Turn) : List Diagnostic :=
  (turns.filter (·.1 = name)).flatMap (·.2)

/-- What is said under a name at its last turn. -/
def lastSaidBy (name : String) (turns : List Turn) : List Diagnostic :=
  (turns.reverse.lookup name).getD []

/-- No turn but the last under a name says anything. -/
def Settled (turns : List Turn) : Prop := turns.Pairwise fun t t' => t.1 = t'.1 → t.2 = []

section

variable {name : String} {turns : List Turn}

theorem saidBy_cons (t : Turn) :
    saidBy name (t :: turns) = (if t.1 = name then t.2 else []) ++ saidBy name turns := by
  by_cases own : t.1 = name <;> simp [saidBy, own]

theorem saidBy_append (turns turns' : List Turn) :
    saidBy name (turns ++ turns') = saidBy name turns ++ saidBy name turns' := by
  simp [saidBy]

theorem saidBy_of_notMem (absent : name ∉ turns.map (·.1)) : saidBy name turns = [] := by
  have none : turns.filter (·.1 = name) = [] := by
    refine List.filter_eq_nil_iff.mpr fun t mem own => absent ?_
    exact List.mem_map.mpr ⟨t, mem, of_decide_eq_true own⟩
  rw [saidBy, none, List.flatMap_nil]

/-- The last turn is the first one, unless there is another behind it. -/
theorem lastSaidBy_cons (t : Turn) :
    lastSaidBy name (t :: turns) =
      if name ∈ turns.map (·.1) then lastSaidBy name turns
      else if t.1 = name then t.2 else [] := by
  rw [lastSaidBy, List.reverse_cons, List.lookup_append]
  by_cases later : name ∈ turns.map (·.1)
  · have found : (turns.reverse.lookup name).isSome := by
      obtain ⟨t', mem, own⟩ := List.mem_map.mp later
      exact List.lookup_isSome_iff.mpr ⟨t', List.mem_reverse.mpr mem, by simp [own]⟩
    obtain ⟨ds, eq⟩ := Option.isSome_iff_exists.mp found
    rw [if_pos later, lastSaidBy, eq]
    rfl
  · have none : turns.reverse.lookup name = none := by
      rw [List.lookup_eq_none_iff]
      rintro t' mem
      rw [bne_iff_ne]
      rintro rfl
      exact later (List.mem_map.mpr ⟨t', List.mem_reverse.mp mem, rfl⟩)
    obtain ⟨first, ds⟩ := t
    rw [if_neg later, none, Option.none_or, List.lookup_cons]
    by_cases own : first = name
    · simp [own]
    · simp [own, beq_eq_false_iff_ne.mpr (Ne.symm own)]

/-- What the last turn says comes last. -/
theorem exists_saidBy (name : String) (turns : List Turn) :
    ∃ before, saidBy name turns = before ++ lastSaidBy name turns := by
  induction turns with
  | nil => exact ⟨[], rfl⟩
  | cons t turns ih =>
    obtain ⟨before, eq⟩ := ih
    rw [saidBy_cons, lastSaidBy_cons]
    by_cases later : name ∈ turns.map (·.1)
    · rw [if_pos later, eq, ← List.append_assoc]
      exact ⟨_, rfl⟩
    · rw [if_neg later, saidBy_of_notMem later, List.append_nil]
      exact ⟨[], rfl⟩

theorem length_lastSaidBy_le (name : String) (turns : List Turn) :
    (lastSaidBy name turns).length ≤ (saidBy name turns).length := by
  obtain ⟨before, eq⟩ := exists_saidBy name turns
  rw [eq, List.length_append]
  exact Nat.le_add_left _ _

/-- The last turn says all that is said under its name iff that is as much. -/
theorem lastSaidBy_eq_iff :
    lastSaidBy name turns = saidBy name turns ↔
      (lastSaidBy name turns).length = (saidBy name turns).length := by
  obtain ⟨before, eq⟩ := exists_saidBy name turns
  refine ⟨fun same => by rw [same], fun same => ?_⟩
  rw [eq, List.length_append] at same
  rw [eq, List.length_eq_zero_iff.mp (Nat.add_eq_right.mp same.symm), List.nil_append]

/-- Turns are settled iff under every name the last one says all. -/
theorem settled_iff : Settled turns ↔ ∀ name, lastSaidBy name turns = saidBy name turns := by
  induction turns with
  | nil => exact ⟨fun _ _ => rfl, fun _ => List.Pairwise.nil⟩
  | cons t turns ih =>
    rw [Settled, List.pairwise_cons]
    change _ ∧ Settled turns ↔ _
    rw [ih]
    constructor
    · rintro ⟨silent, settled⟩ name
      rw [lastSaidBy_cons, saidBy_cons]
      by_cases later : name ∈ turns.map (·.1)
      · obtain ⟨t', mem, same⟩ := List.mem_map.mp later
        rw [if_pos later, settled name]
        split
        case isTrue own => rw [silent t' mem (own.trans same.symm), List.nil_append]
        case isFalse => rfl
      · rw [if_neg later, saidBy_of_notMem later, List.append_nil]
    · intro all
      -- The last turn says all, so a turn in front of it under the same name says nothing.
      have rest : ∀ name, name ∈ turns.map (·.1) →
          (if t.1 = name then t.2 else []) = [] ∧
            lastSaidBy name turns = saidBy name turns := by
        intro name later
        have same := all name
        rw [lastSaidBy_cons, saidBy_cons, if_pos later] at same
        have short := length_lastSaidBy_le name turns
        rw [same, List.length_append] at short
        have silent : (if t.1 = name then t.2 else []) = [] :=
          List.length_eq_zero_iff.mp (by omega)
        rw [silent, List.nil_append] at same
        exact ⟨silent, same⟩
      refine ⟨fun t' mem same => ?_, fun name => ?_⟩
      · have silent := (rest t'.1 (List.mem_map_of_mem mem)).1
        rwa [if_pos same] at silent
      · by_cases later : name ∈ turns.map (·.1)
        · exact (rest name later).2
        · rw [saidBy_of_notMem later, ← List.length_eq_zero_iff, ← Nat.le_zero]
          have short := length_lastSaidBy_le name turns
          rwa [saidBy_of_notMem later] at short

/-- Turns under different names are settled. -/
theorem Settled.of_nodup (apart : (turns.map (·.1)).Nodup) : Settled turns := by
  rw [List.nodup_iff_pairwise_ne, List.pairwise_map] at apart
  exact apart.imp fun other same => absurd same other

end

/-! ## Rounds of turns -/

theorem saidBy_flatten (name : String) (rounds : List (List Turn)) :
    saidBy name rounds.flatten = rounds.flatMap (saidBy name) := by
  induction rounds with
  | nil => rfl
  | cons round rounds ih => rw [List.flatten_cons, saidBy_append, ih, List.flatMap_cons]

theorem length_flatMap_lastSaidBy_le (name : String) (rounds : List (List Turn)) :
    (rounds.flatMap (lastSaidBy name)).length ≤ (rounds.flatMap (saidBy name)).length := by
  rw [List.length_flatMap, List.length_flatMap]
  exact List.sum_le_sum fun round _ => length_lastSaidBy_le name round

/-- The last turns say all that is said under a name iff that is as much, and then each does in its
round. -/
theorem flatMap_lastSaidBy_tfae {name : String} {rounds : List (List Turn)} :
    [rounds.flatMap (lastSaidBy name) = rounds.flatMap (saidBy name),
      (rounds.flatMap (lastSaidBy name)).length = (rounds.flatMap (saidBy name)).length,
      ∀ round ∈ rounds, lastSaidBy name round = saidBy name round].TFAE := by
  tfae_have 1 → 2 := fun same => by rw [same]
  tfae_have 2 → 3 := by
    intro same round mem
    by_contra other
    have less : (lastSaidBy name round).length < (saidBy name round).length :=
      Nat.lt_of_le_of_ne (length_lastSaidBy_le name round) (mt lastSaidBy_eq_iff.mpr other)
    rw [List.length_flatMap, List.length_flatMap] at same
    exact absurd same (List.sum_lt_sum _ _ (fun round _ => length_lastSaidBy_le name round)
      ⟨round, mem, less⟩).ne
  tfae_have 3 → 1 := fun all => List.flatMap_congr all
  tfae_finish

/-- Names that cover all turns share out what is said. -/
theorem sum_saidBy {names : List String} (apart : names.Nodup) {turns : List Turn}
    (covered : ∀ t ∈ turns, t.1 ∈ names) :
    (names.map fun name => (saidBy name turns).length).sum = (turns.flatMap (·.2)).length := by
  induction turns with
  | nil => simp [saidBy]
  | cons t turns ih =>
    obtain ⟨own, covered⟩ := List.forall_mem_cons.mp covered
    -- The first turn counts under its own name only, and the names hold that once.
    have split : ∀ name, (saidBy name (t :: turns)).length =
        (if t.1 = name then t.2.length else 0) + (saidBy name turns).length := by
      intro name
      rw [saidBy_cons, List.length_append]
      split <;> rfl
    have single : (names.map fun name => if t.1 = name then t.2.length else 0).sum =
        t.2.length := by
      rw [List.sum_map_eq_nsmul_single t.1 _ fun name other _ => if_neg other.symm, if_pos rfl,
        List.count_eq_one_of_mem apart own, one_nsmul]
    simp only [split]
    rw [List.sum_map_add, single, ih covered, List.flatMap_cons, List.length_append]

end CauseLint
