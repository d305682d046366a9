import CauseLint.Syntax.Call
import Mathlib.Logic.Relation

/-!
# The nodes of a subtree

The walk with a stack visits a node and then the subtrees of its children, one after another, so
what it visits are the nodes that can be reached by going down. Facts about all nodes of a subtree
are proved from the children up.

Results:

* `Cursor.preorder_eq`: a node comes first, then the subtrees of its children in order.
* `Cursor.mem_preorder_iff`: the walk visits exactly the nodes below.
* `Cursor.parents_below`: the nodes above a node of a tree belong to the tree.
-/

namespace CauseLint.Cursor

/-! ## Pre-order -/

theorem walk_append (cs ds : List Cursor) : walk (cs ++ ds) = walk cs ++ walk ds := by
  fun_induction walk cs with
  | case1 => rfl
  | case2 c stack ih =>
    rw [List.cons_append, walk, ← List.append_assoc, ih, List.cons_append]

theorem walk_eq_flatMap (cs : List Cursor) : walk cs = cs.flatMap preorder := by
  induction cs with
  | nil => rw [walk, List.flatMap_nil]
  | cons c cs ih =>
    rw [← List.singleton_append, walk_append, ih, List.flatMap_append, List.flatMap_singleton]
    rfl

/-- A node comes first, then the subtrees of its children in order. -/
theorem preorder_eq (c : Cursor) : c.preorder = c :: c.children.flatMap preorder := by
  rw [preorder, walk, List.append_nil, walk_eq_flatMap]

/-- A fact holds of all nodes when it passes from the children of a node to the node. -/
theorem induction_children {p : Cursor → Prop} (step : ∀ c, (∀ d ∈ c.children, p d) → p c)
    (c : Cursor) : p c :=
  step c fun d hd =>
    have := size_lt_of_mem_children hd
    induction_children step d
termination_by c.focus.size

theorem length_preorder (c : Cursor) : c.preorder.length = c.focus.size := by
  induction c using induction_children with
  | step c ih =>
    rw [preorder_eq, List.length_cons, ← sizes_children, Nat.add_left_inj, List.length_flatMap]
    generalize c.children = cs at ih
    induction cs with
    | nil => rfl
    | cons d ds ihds =>
      rw [sizes_cons, List.map_cons, List.sum_cons, ih d List.mem_cons_self,
        ihds fun e he => ih e (List.mem_cons_of_mem _ he)]

/-! ## Below -/

/-- A node is in the subtree of another. -/
def Below : Cursor → Cursor → Prop := Relation.ReflTransGen fun c d => d ∈ c.children

theorem Below.refl (c : Cursor) : Below c c := Relation.ReflTransGen.refl

theorem Below.child {c d e : Cursor} (h : Below c d) (he : e ∈ d.children) : Below c e :=
  Relation.ReflTransGen.tail h he

theorem Below.trans {c d e : Cursor} (h : Below c d) (h' : Below d e) : Below c e :=
  Relation.ReflTransGen.trans h h'

theorem below_iff {c d : Cursor} : Below c d ↔ d = c ∨ ∃ e ∈ c.children, Below e d := by
  rw [Below, Relation.ReflTransGen.cases_head_iff]
  constructor
  · rintro (rfl | ⟨e, he, h⟩)
    · exact .inl rfl
    · exact .inr ⟨e, he, h⟩
  · rintro (rfl | ⟨e, he, h⟩)
    · exact .inl rfl
    · exact .inr ⟨e, he, h⟩

/-- The walk visits exactly the nodes below. -/
theorem mem_preorder_iff {c d : Cursor} : d ∈ c.preorder ↔ Below c d := by
  induction c using induction_children with
  | step c ih =>
    rw [preorder_eq, List.mem_cons, List.mem_flatMap, below_iff]
    refine or_congr_right ⟨?_, ?_⟩
    · rintro ⟨e, he, hd⟩
      exact ⟨e, he, (ih e he).1 hd⟩
    · rintro ⟨e, he, hd⟩
      exact ⟨e, he, (ih e he).2 hd⟩

/-! ## Ways down -/

theorem below_of_mem_parts {c d : Cursor} (h : d ∈ c.parts) : Below c d :=
  (Below.refl c).child (mem_children_of_mem_parts h)

theorem below_of_childByField? {c d : Cursor} {f : String} (h : c.childByField? f = some d) :
    Below c d := (Below.refl c).child (mem_children_of_childByField? h)

theorem field_of_childByField? {c d : Cursor} {f : String} (h : c.childByField? f = some d) :
    d.focus.label.field = some f := by
  have hd := List.find?_some (p := fun e : Cursor => e.focus.label.field == some f) h
  exact eq_of_beq hd

theorem below_of_mem_arguments {c d : Cursor} (h : d ∈ c.arguments) : Below c d := by
  unfold arguments at h
  split at h
  · rename_i list hl
    exact (below_of_childByField? hl).trans (below_of_mem_parts h)
  · cases h

theorem below_of_stripParensWithin {n : Nat} {c d : Cursor}
    (h : stripParensWithin n c = some d) : Below c d := by
  induction n generalizing c with
  | zero =>
    unfold stripParensWithin at h
    split at h
    · split at h <;> simp_all
    · rw [Option.some.inj h]
      exact Below.refl _
  | succ n ih =>
    unfold stripParensWithin at h
    split at h
    · split at h
      · simp at h
      · simp at h
      · rename_i m inner rest hn hp
        obtain rfl : n = m := Nat.succ.inj hn
        exact (below_of_mem_parts (by rw [hp]; exact List.mem_cons_self)).trans (ih h)
    · rw [Option.some.inj h]
      exact Below.refl _

theorem below_of_stripParens {c d : Cursor} (h : c.stripParens = some d) : Below c d :=
  below_of_stripParensWithin h

/-! ## Children and parents -/

theorem above_of_mem_childrenFrom {c d : Cursor} {i : Nat} {ts : List Tree}
    (h : d ∈ c.childrenFrom i ts) : ∃ j, d.above = (c.focus, j) :: c.above := by
  induction ts generalizing i with
  | nil => cases h
  | cons t ts ih =>
    rw [childrenFrom, List.mem_cons] at h
    rcases h with rfl | h
    · exact ⟨i, rfl⟩
    · exact ih h

/-- The nodes above a child are its parent and the nodes above that. -/
theorem parents_of_mem_children {c d : Cursor} (h : d ∈ c.children) :
    d.parents = c :: c.parents := by
  obtain ⟨j, hj⟩ := above_of_mem_childrenFrom h
  rw [parents, hj]
  rfl

theorem mem_parents_of_parent? {c p : Cursor} (h : c.parent? = some p) : p ∈ c.parents := by
  unfold parent? at h
  split at h
  · cases h
  · rename_i t i rest habove
    rw [parents, habove, ← Option.some.inj h]
    exact List.mem_cons_self

theorem parents_of_parentsOf_eq {path : List (Tree × Nat)} {d : Cursor} {inner outer : List Cursor}
    (h : parentsOf path = inner ++ d :: outer) : d.parents = outer := by
  induction path generalizing inner with
  | nil => simp [parentsOf] at h
  | cons step path ih =>
    cases inner with
    | nil =>
      obtain ⟨rfl, rfl⟩ := List.cons.inj h
      rfl
    | cons e inner => exact ih (List.cons.inj h).2

/-- Behind a node among those above come the nodes above that one. -/
theorem parents_of_parents_eq {c d : Cursor} {inner outer : List Cursor}
    (h : c.parents = inner ++ d :: outer) : d.parents = outer := parents_of_parentsOf_eq h

/-- The nodes above a node of a tree belong to the tree. -/
theorem parents_below {root c d : Cursor} (hroot : root.above = []) (h : Below root c)
    (hd : d ∈ c.parents) : Below root d := by
  induction h with
  | refl =>
    rw [parents, hroot] at hd
    cases hd
  | tail hb hc ih =>
    rw [parents_of_mem_children hc, List.mem_cons] at hd
    rcases hd with rfl | hd
    · exact hb
    · exact ih hd

end CauseLint.Cursor
