import CauseLint.Proofs.Syntax.Order
import Mathlib.Data.List.Flatten
import Mathlib.Logic.Function.Iterate

/-!
# Walks round by round

A walk keeps the nodes still to visit on a stack. In every round the node on top is taken off and
visited, and its children are put on, the first of them on top. What lies ahead of a walk are the
subtrees of the stacked nodes, from the top down: a round visits the first node ahead and leaves the
others as they are. So the walk of a tree is over after as many rounds as the tree has nodes, and
has then visited what recursion over the tree lists.

Results:

* `Tree.nodes_eq_preorder`: recursion over the tree lists the nodes in the order of the walk.
* `Cursor.Walk.visited_iterate_round`, `Cursor.Walk.ahead_iterate_round`: what a walk has visited
  and what lies ahead of it after any number of rounds, from any stack.
* `Cursor.sublist_preorder_iff`: a node is visited before another if and only if it stands above it
  or to the left of it.
* `Cursor.rounds_visit_preorder`: the walk of a tree, from the first round to the last.
-/

namespace CauseLint

/-! ## By recursion over the tree -/

namespace Tree

mutual
/-- The nodes of a tree below a path: the root, then the nodes of one child after another. -/
def nodes (above : List (Tree × Nat)) : Tree → List Cursor
  | .node l ts => ⟨.node l ts, above⟩ :: childNodes (.node l ts) above 0 ts

/-- The nodes of trees that are the children of `parent` from position `i` on. -/
def childNodes (parent : Tree) (above : List (Tree × Nat)) (i : Nat) : List Tree → List Cursor
  | [] => []
  | t :: ts => nodes ((parent, i) :: above) t ++ childNodes parent above (i + 1) ts
end

mutual
/-- Recursion over the tree lists the nodes in the order of the walk. -/
theorem nodes_eq_preorder (above : List (Tree × Nat)) (t : Tree) :
    t.nodes above = Cursor.preorder ⟨t, above⟩ := by
  match t with
  | .node l ts =>
    rw [nodes, childNodes_eq_flatMap, Cursor.preorder_eq]
    rfl

theorem childNodes_eq_flatMap (parent : Tree) (above : List (Tree × Nat)) (i : Nat)
    (ts : List Tree) : childNodes parent above i ts =
      (Cursor.childrenFrom ⟨parent, above⟩ i ts).flatMap Cursor.preorder := by
  match ts with
  | [] => rfl
  | t :: ts =>
    rw [childNodes, nodes_eq_preorder, childNodes_eq_flatMap, Cursor.childrenFrom,
      List.flatMap_cons]
end

end Tree

namespace Cursor

/-! ## The rounds of a walk -/

/-- A walk under way. -/
structure Walk where
  visited : List Cursor := []
  /-- The nodes still to visit, the top of the stack last. -/
  stack : List Cursor

namespace Walk

/-- One round: the top of the stack is taken off and visited, and its children are put on, the first
of them on top. On an empty stack the walk is over. -/
def round (w : Walk) : Walk :=
  match w.stack.getLast? with
  | none => w
  | some c => { visited := w.visited ++ [c], stack := w.stack.dropLast ++ c.children.reverse }

/-- What lies ahead of a walk: the subtrees of the stacked nodes, from the top down. -/
def ahead (w : Walk) : List Cursor := w.stack.reverse.flatMap preorder

theorem round_of_concat (visited stack : List Cursor) (c : Cursor) :
    round ⟨visited, stack ++ [c]⟩ = ⟨visited ++ [c], stack ++ c.children.reverse⟩ := by
  simp only [round, List.getLast?_concat, List.dropLast_concat]

theorem ahead_concat (visited stack : List Cursor) (c : Cursor) :
    ahead ⟨visited, stack ++ [c]⟩ =
      c :: (c.children.flatMap preorder ++ stack.reverse.flatMap preorder) := by
  rw [ahead, List.reverse_concat, List.flatMap_cons, preorder_eq, List.cons_append]

theorem ahead_eq_nil_iff {w : Walk} : w.ahead = [] ↔ w.stack = [] := by
  obtain ⟨visited, stack⟩ := w
  rcases List.eq_nil_or_concat stack with rfl | ⟨stack, c, rfl⟩
  · exact iff_of_true rfl rfl
  · rw [List.concat_eq_append, ahead_concat]
    exact iff_of_false (List.cons_ne_nil _ _)
      (List.append_ne_nil_of_right_ne_nil stack (List.cons_ne_nil c []))

/-- A round visits the first node ahead, and the others stay ahead. -/
theorem round_takes_next (w : Walk) :
    w.round.visited = w.visited ++ w.ahead.take 1 ∧ w.round.ahead = w.ahead.drop 1 := by
  obtain ⟨visited, stack⟩ := w
  rcases List.eq_nil_or_concat stack with rfl | ⟨stack, c, rfl⟩
  · exact ⟨(List.append_nil visited).symm, rfl⟩
  · rw [List.concat_eq_append, round_of_concat, ahead_concat]
    refine ⟨rfl, ?_⟩
    -- reversed onto the stack, the children come off it in source order
    rw [ahead, List.reverse_append, List.reverse_reverse, List.flatMap_append]
    rfl

theorem ahead_iterate_round (w : Walk) (n : Nat) : (round^[n] w).ahead = w.ahead.drop n := by
  induction n with
  | zero => rfl
  | succ n ih => rw [Function.iterate_succ_apply', (round_takes_next _).2, ih, List.drop_drop]

theorem visited_iterate_round (w : Walk) (n : Nat) :
    (round^[n] w).visited = w.visited ++ w.ahead.take n := by
  induction n with
  | zero => exact (List.append_nil w.visited).symm
  | succ n ih =>
    rw [Function.iterate_succ_apply', (round_takes_next _).1, ih, ahead_iterate_round,
      List.append_assoc, ← List.take_add]

/-- A walk is over as soon as there were as many rounds as nodes ahead. -/
theorem stack_iterate_round_eq_nil_iff {w : Walk} {n : Nat} :
    (round^[n] w).stack = [] ↔ w.ahead.length ≤ n := by
  rw [← ahead_eq_nil_iff, ahead_iterate_round, List.drop_eq_nil_iff]

end Walk

/-! ## Above and to the left -/

/-- In the subtree of `root` one node comes before another. -/
inductive Before (root : Cursor) : Cursor → Cursor → Prop
  /-- A node comes before all that is below its children. -/
  | above {c d e : Cursor} : Below root c → d ∈ c.children → Below d e → Before root c e
  /-- All that is below a child comes before all that is below a later child. -/
  | left {p a b c d : Cursor} : Below root p → [a, b].Sublist p.children → Below a c → Below b d →
      Before root c d

theorem Before.of_below {root c d e : Cursor} (hc : Below root c) (h : Before c d e) :
    Before root d e := by
  cases h with
  | above hd hchild he => exact .above (hc.trans hd) hchild he
  | left hp hab hd he => exact .left (hc.trans hp) hab hd he

/-- Nodes are visited in their order in the tree. -/
theorem pairwise_before_preorder (c : Cursor) : c.preorder.Pairwise (Before c) := by
  induction c using induction_children with
  | step c ih =>
    rw [preorder_eq, List.pairwise_cons, List.pairwise_flatMap]
    refine ⟨fun e he => ?_, fun d hd => ?_, ?_⟩
    · obtain ⟨d, hd, he⟩ := List.mem_flatMap.1 he
      exact .above (Below.refl c) hd (mem_preorder_iff.1 he)
    · exact (ih d hd).imp fun h => h.of_below ((Below.refl c).child hd)
    · refine List.pairwise_iff_forall_sublist.2 fun hab x hx y hy => ?_
      exact .left (Below.refl c) hab (mem_preorder_iff.1 hx) (mem_preorder_iff.1 hy)

theorem flatMap_children_sublist_preorder (c : Cursor) :
    (c.children.flatMap preorder).Sublist c.preorder := by
  rw [preorder_eq c]
  exact List.sublist_cons_self c _

/-- A subtree is visited within every larger one, in the same order. -/
theorem Below.preorder_sublist {c d : Cursor} (h : Below c d) :
    d.preorder.Sublist c.preorder := by
  induction h with
  | refl => exact List.Sublist.refl _
  | @tail p d _ hd ih =>
    have hsub : ([d].flatMap preorder).Sublist (p.children.flatMap preorder) :=
      (List.singleton_sublist.2 hd).flatMap preorder
    rw [List.flatMap_singleton] at hsub
    exact (hsub.trans (flatMap_children_sublist_preorder p)).trans ih

/-- A node is visited before another if and only if it stands above it or to the left of it. -/
theorem sublist_preorder_iff {c d e : Cursor} : [d, e].Sublist c.preorder ↔ Before c d e := by
  constructor
  · exact fun h => List.pairwise_iff_forall_sublist.1 (pairwise_before_preorder c) h
  · intro h
    cases h with
    | @above _ a _ hd ha he =>
      refine List.Sublist.trans ?_ hd.preorder_sublist
      rw [preorder_eq d]
      refine (List.singleton_sublist.2 ?_).cons_cons d
      exact List.mem_flatMap.2 ⟨a, ha, mem_preorder_iff.2 he⟩
    | @left p a b _ _ hp hab hd he =>
      refine List.Sublist.trans ?_ hp.preorder_sublist
      refine List.Sublist.trans ?_ (flatMap_children_sublist_preorder p)
      refine List.Sublist.trans ?_ (hab.flatMap preorder)
      rw [List.flatMap_cons, List.flatMap_singleton]
      exact (List.singleton_sublist.2 (mem_preorder_iff.2 hd)).append
        (List.singleton_sublist.2 (mem_preorder_iff.2 he))

/-! ## The walk of a tree -/

/-- The walk of a tree visits the nodes as recursion over the tree lists them, one in each round,
and is over after as many rounds as the tree has nodes. Every node is visited once, behind the nodes
above it and behind the subtrees to its left. Where the spans of children lie inside that of their
parent, one after another, the places where the visited nodes begin never decrease. -/
theorem rounds_visit_preorder (c : Cursor) :
    (∀ n, (Walk.round^[n] { stack := [c] }).visited = c.preorder.take n ∧
      ((Walk.round^[n] { stack := [c] }).stack = [] ↔ c.preorder.length ≤ n)) ∧
    c.preorder = c.focus.nodes c.above ∧
    c.preorder.length = c.focus.size ∧
    c.preorder.Nodup ∧ (∀ d, d ∈ c.preorder ↔ Below c d) ∧
    (∀ d e, [d, e].Sublist c.preorder ↔ Before c d e) ∧
    ((∀ d, Below c d → d.Nested) → c.preorder.Pairwise fun d e => d.start ≤ e.start) := by
  have hahead : Walk.ahead { stack := [c] } = c.preorder := List.flatMap_singleton preorder c
  refine ⟨fun n => ⟨?_, ?_⟩, (c.focus.nodes_eq_preorder c.above).symm, length_preorder c,
    nodup_preorder c, fun _ => mem_preorder_iff, fun _ _ => sublist_preorder_iff,
    pairwise_start_preorder⟩
  · rw [Walk.visited_iterate_round, hahead, List.nil_append]
  · rw [Walk.stack_iterate_round_eq_nil_iff, hahead]

/-- The tree of an expression `a.b - c`. -/
def difference : Tree :=
  .node { kind := "binary_expression", start := 0, stop := 7 } [
    .node { kind := "field_access", start := 0, stop := 3, field := some "left" } [
      .node { kind := "identifier", start := 0, stop := 1, field := some "object" } [],
      .node { kind := ".", isNamed := false, start := 1, stop := 2 } [],
      .node { kind := "identifier", start := 2, stop := 3, field := some "field" } []],
    .node { kind := "-", isNamed := false, start := 4, stop := 5 } [],
    .node { kind := "identifier", start := 6, stop := 7, field := some "right" } []]

theorem rounds_visit_preorder_difference :
    let root : Cursor := ⟨difference, []⟩
    (∀ d, Below root d → d.Nested) ∧
    (Walk.round^[7] { stack := [root] }).stack = [] ∧
    (Walk.round^[7] { stack := [root] }).visited = difference.nodes [] ∧
    (difference.nodes []).map start = [0, 0, 0, 1, 2, 4, 6] ∧
    (difference.nodes []).Pairwise fun d e => d.start ≤ e.start := by
  intro root
  obtain ⟨hrounds, hnodes, hlength, -, hmem, -, hstarts⟩ := rounds_visit_preorder root
  have hnested : ∀ d, Below root d → d.Nested := by
    have hall : ∀ d ∈ difference.nodes [], d.Nested := by decide
    intro d hd
    exact hall d (hnodes ▸ (hmem d).2 hd)
  obtain ⟨hvisited, hstack⟩ := hrounds 7
  have hseven : root.preorder.length = 7 := hlength.trans (by decide)
  refine ⟨hnested, hstack.2 (Nat.le_of_eq hseven), ?_, by decide, ?_⟩
  · rw [hvisited, List.take_of_length_le (Nat.le_of_eq hseven), hnodes]
  · rw [← show root.preorder = difference.nodes [] from hnodes]
    exact hstarts hnested

end Cursor

end CauseLint
