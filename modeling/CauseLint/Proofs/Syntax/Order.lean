import CauseLint.Proofs.Syntax.Traversal
import Mathlib.Data.List.Nodup

/-!
# The order of a traversal

The walk visits every node once. Where spans lie in each other and siblings follow one another, it
visits nodes in the order in which they begin.

Results:

* `Cursor.nodup_preorder`: no node is visited twice.
* `Cursor.inside_of_below`: a node lies inside every node above it.
* `Cursor.pairwise_start_preorder`: the places where the visited nodes begin never decrease.
-/

namespace CauseLint.Cursor

/-! ## Every node once -/

theorem above_of_below {c d : Cursor} (h : Below c d) : ∃ path, d.above = path ++ c.above := by
  induction h with
  | refl => exact ⟨[], rfl⟩
  | tail _ hchild ih =>
    obtain ⟨path, hpath⟩ := ih
    obtain ⟨i, hi⟩ := above_of_mem_childrenFrom hchild
    exact ⟨_, by rw [hi, hpath, ← List.cons_append]⟩

theorem not_below_of_mem_children {c d : Cursor} (hd : d ∈ c.children) : ¬ Below d c := by
  intro h
  obtain ⟨path, hpath⟩ := above_of_below h
  obtain ⟨i, hi⟩ := above_of_mem_childrenFrom hd
  have hlength := congrArg List.length hpath
  rw [hi, List.length_append, List.length_cons] at hlength
  omega

/-- Children are at different positions. -/
theorem pairwise_childrenFrom (c : Cursor) (i : Nat) (ts : List Tree) :
    (c.childrenFrom i ts).Pairwise fun a b => ∃ m n, m < n ∧
      a.above = (c.focus, m) :: c.above ∧ b.above = (c.focus, n) :: c.above := by
  have hposition : ∀ (ts : List Tree) (i : Nat), ∀ d ∈ c.childrenFrom i ts,
      ∃ n, i ≤ n ∧ d.above = (c.focus, n) :: c.above := by
    intro ts
    induction ts with
    | nil => exact fun _ _ hd => by cases hd
    | cons t ts ih =>
      intro i d hd
      rw [childrenFrom, List.mem_cons] at hd
      rcases hd with rfl | hd
      · exact ⟨i, Nat.le_refl i, rfl⟩
      · obtain ⟨n, hn, habove⟩ := ih (i + 1) d hd
        exact ⟨n, Nat.le_of_succ_le hn, habove⟩
  induction ts generalizing i with
  | nil => exact List.Pairwise.nil
  | cons t ts ih =>
    refine List.pairwise_cons.2 ⟨fun d hd => ?_, ih (i + 1)⟩
    obtain ⟨n, hn, habove⟩ := hposition ts (i + 1) d hd
    exact ⟨i, n, hn, rfl, habove⟩

/-- The subtrees of different children have no node in common. -/
theorem disjoint_preorder {a b : Cursor} {t : Tree} {m n : Nat} {rest : List (Tree × Nat)}
    (hmn : m ≠ n) (ha : a.above = (t, m) :: rest) (hb : b.above = (t, n) :: rest) :
    a.preorder.Disjoint b.preorder := by
  intro d hda hdb
  obtain ⟨path, hpath⟩ := above_of_below (mem_preorder_iff.1 hda)
  obtain ⟨path', hpath'⟩ := above_of_below (mem_preorder_iff.1 hdb)
  rw [hpath, ha, hb] at hpath'
  obtain ⟨-, hsame⟩ := List.append_inj' hpath' rfl
  exact hmn (congrArg Prod.snd (List.cons.inj hsame).1)

/-- No node is visited twice. -/
theorem nodup_preorder (c : Cursor) : c.preorder.Nodup := by
  induction c using induction_children with
  | step c ih =>
    rw [preorder_eq, List.nodup_cons, List.nodup_flatMap]
    refine ⟨fun hc => ?_, ih, ?_⟩
    · obtain ⟨d, hd, hc⟩ := List.mem_flatMap.1 hc
      exact not_below_of_mem_children hd (mem_preorder_iff.1 hc)
    · refine (pairwise_childrenFrom c 0 c.focus.children).imp ?_
      rintro a b ⟨m, n, hmn, ha, hb⟩
      exact disjoint_preorder (Nat.ne_of_lt hmn) ha hb

/-! ## From left to right -/

/-- The span of a node begins before it ends, the children lie inside, one after another. -/
structure Nested (c : Cursor) : Prop where
  ordered : c.start ≤ c.stop
  inside : ∀ d ∈ c.children, c.start ≤ d.start ∧ d.stop ≤ c.stop
  siblings : c.children.Pairwise fun a b => a.stop ≤ b.start

theorem nested_iff {c : Cursor} : c.Nested ↔ c.start ≤ c.stop ∧
    (∀ d ∈ c.children, c.start ≤ d.start ∧ d.stop ≤ c.stop) ∧
      c.children.Pairwise fun a b => a.stop ≤ b.start :=
  ⟨fun h => ⟨h.ordered, h.inside, h.siblings⟩, fun ⟨ordered, inside, siblings⟩ =>
    ⟨ordered, inside, siblings⟩⟩

instance (c : Cursor) : Decidable c.Nested := decidable_of_iff' _ nested_iff

/-- Where all spans are nested, a node lies inside every node above it. -/
theorem inside_of_below {c d : Cursor} (h : ∀ e, Below c e → e.Nested) (hd : Below c d) :
    c.start ≤ d.start ∧ d.stop ≤ c.stop := by
  induction hd with
  | refl => exact ⟨Nat.le_refl _, Nat.le_refl _⟩
  | tail hb hd ih =>
    have hin := (h _ hb).inside _ hd
    omega

/-- Where all spans are nested, the places where the visited nodes begin never decrease. -/
theorem pairwise_start_preorder {c : Cursor} (h : ∀ e, Below c e → e.Nested) :
    c.preorder.Pairwise fun a b => a.start ≤ b.start := by
  induction c using induction_children with
  | step c ih =>
    have hchild : ∀ d ∈ c.children, ∀ e, Below d e → e.Nested := fun d hd e he =>
      h e (((Below.refl c).child hd).trans he)
    rw [preorder_eq, List.pairwise_cons, List.pairwise_flatMap]
    refine ⟨fun e he => ?_, fun d hd => ih d hd (hchild d hd), ?_⟩
    · obtain ⟨d, hd, he⟩ := List.mem_flatMap.1 he
      exact (inside_of_below h (((Below.refl c).child hd).trans (mem_preorder_iff.1 he))).1
    · refine (h c (Below.refl c)).siblings.imp_of_mem fun {a b} ha hb hab x hx y hy => ?_
      have hx := mem_preorder_iff.1 hx
      have hinx := inside_of_below (hchild a ha) hx
      have hiny := inside_of_below (hchild b hb) (mem_preorder_iff.1 hy)
      have hordered := (hchild a ha x hx).ordered
      omega

end CauseLint.Cursor
