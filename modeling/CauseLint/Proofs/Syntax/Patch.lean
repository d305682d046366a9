import CauseLint.Proofs.Syntax.Slots
import Mathlib.Data.List.Forall2

/-!
# Patched trees

The tree of a source in which causes have been attached behind some receivers: each of these
receivers `R` gives way to a call `R.withCause(A)`, where `A` is a copy of the argument as it stood
before, and everything moves to the offset it has in the new source. A node of the new tree is one
of the old that was kept, or belongs to a copy, or was added.

Results:

* `Cursor.Kept.located`: where a kept node is, in terms of what is inserted before it.
* `Cursor.Copied.moved`: a copied node is its original, moved.
* `Cursor.origin_of_below`: where the nodes of the new tree come from.
-/

namespace CauseLint

/-- A copy of a tree, moved from one offset to another. -/
def Tree.moved (origin target : Nat) : Tree → Tree
  | .node l ts =>
    .node { l with start := target + (l.start - origin), stop := target + (l.stop - origin) }
      (ts.map (moved origin target))

theorem Tree.children_moved (origin target : Nat) (t : Tree) :
    (t.moved origin target).children = t.children.map (Tree.moved origin target) := by
  cases t
  rw [Tree.moved]
  rfl

theorem Tree.label_moved (origin target : Nat) (t : Tree) :
    (t.moved origin target).label =
      { t.label with start := target + (t.start - origin), stop := target + (t.stop - origin) } := by
  cases t
  rw [Tree.moved]
  rfl

namespace Cursor

/-! ## The new tree -/

/-- The list of arguments that is added behind the offset `stop`. -/
def addedArguments (stop : Nat) (argument : Cursor) : Tree :=
  let size := argument.stop - argument.start
  .node { kind := "argument_list", start := stop + 10, stop := stop + size + 12,
          field := some "arguments" } [
    .node { kind := "(", isNamed := false, start := stop + 10, stop := stop + 11 } [],
    argument.focus.moved argument.start (stop + 11),
    .node { kind := ")", isNamed := false, start := stop + size + 11, stop := stop + size + 12 } []]

/-- The call `receiver.withCause(argument)`. -/
def addedCall (receiver : Tree) (argument : Cursor) : Tree :=
  let stop := receiver.stop
  .node { kind := "method_invocation", start := receiver.start,
          stop := stop + (argument.stop - argument.start) + 12, field := some "object" } [
    receiver,
    .node { kind := ".", isNamed := false, start := stop, stop := stop + 1 } [],
    .node { kind := "identifier", start := stop + 1, stop := stop + 10, field := some "name" } [],
    addedArguments stop argument]

/-- How many bytes are added for some arguments. -/
def width (points : List (Nat × Cursor)) : Nat := total (fun p => p.2.stop - p.2.start + 12) points

/-- The slots of a node, each with the number of bytes that are added before it. -/
def shifts (plan : Cursor → Option Cursor) :
    Nat → List (Cursor × Option Cursor) → List ((Cursor × Option Cursor) × Nat)
  | _, [] => []
  | n, s :: ss => (s, n) :: shifts plan (n + width (slotInserts plan s)) ss

theorem map_fst_shifts (plan : Cursor → Option Cursor) (n : Nat)
    (ss : List (Cursor × Option Cursor)) : (shifts plan n ss).map (·.1) = ss := by
  induction ss generalizing n with
  | nil => rfl
  | cons s ss ih => rw [shifts, List.map_cons, ih]

/-- The tree of a node in the new source, when `n` bytes are added before it. -/
def patch (plan : Cursor → Option Cursor) (n : Nat) (c : Cursor) : Tree :=
  .node { c.focus.label with start := c.start + n, stop := c.stop + n + width (inserts plan c) }
    ((shifts plan n (slots (plan c) c.children)).attach.map fun ⟨(s, k), _⟩ =>
      match s.2 with
      | none => patch plan k s.1
      | some argument => addedCall (patch plan k s.1) argument)
termination_by c.focus.size
decreasing_by
  all_goals
    have hs := List.mem_map_of_mem (f := fun p : (Cursor × Option Cursor) × Nat => p.1) ‹_›
    rw [map_fst_shifts] at hs
    exact size_lt_of_mem_children (fst_mem_of_mem_slots hs)

/-- What becomes of a slot. -/
def patchSlot (plan : Cursor → Option Cursor) (s : (Cursor × Option Cursor) × Nat) : Tree :=
  match s.1.2 with
  | none => patch plan s.2 s.1.1
  | some argument => addedCall (patch plan s.2 s.1.1) argument

theorem patch_eq (plan : Cursor → Option Cursor) (n : Nat) (c : Cursor) :
    patch plan n c =
      .node { c.focus.label with start := c.start + n, stop := c.stop + n + width (inserts plan c) }
        ((shifts plan n (slots (plan c) c.children)).map (patchSlot plan)) := by
  rw [patch, List.map_subtype (g := patchSlot plan) fun s _ => rfl, List.unattach_attach]

theorem start_patch (plan : Cursor → Option Cursor) (n : Nat) (c : Cursor) :
    (patch plan n c).start = c.start + n := by
  rw [patch_eq]
  rfl

theorem stop_patch (plan : Cursor → Option Cursor) (n : Nat) (c : Cursor) :
    (patch plan n c).stop = c.stop + n + width (inserts plan c) := by
  rw [patch_eq]
  rfl

/-- The name of an added call stands right behind its receiver. -/
theorem name_addedCall {plan : Cursor → Option Cursor} {n : Nat} {c a d added : Cursor}
    (hd : c.object? = some d)
    (hfocus : added.focus = addedCall (patch plan n d) a) :
    ∃ name, added.childByField? "name" = some name ∧
      name.start = (patch plan n d).stop + 1 ∧ name.stop = (patch plan n d).stop + 10 := by
  have hfield : ((patch plan n d).label.field == some "name") = false := by
    rw [patch_eq]
    show (d.focus.label.field == some "name") = false
    rw [field_of_childByField? hd]
    decide
  unfold childByField? children
  rw [hfocus]
  show ∃ name, List.find? _ [_, _, _, _] = some name ∧ _
  rw [List.find?_cons_of_neg (by simpa using hfield)]
  exact ⟨_, rfl, rfl, rfl⟩

/-! ## Where nodes come from -/

/-- The root of the new tree. -/
def patched (plan : Cursor → Option Cursor) (root : Cursor) : Cursor := ⟨patch plan 0 root, []⟩

/-- What became of a node: the node in the same place, behind an added call where one took its
place. -/
inductive Kept (plan : Cursor → Option Cursor) (root : Cursor) : Cursor → Cursor → Prop
  | root : Kept plan root root (patched plan root)
  | child {c c' d d' : Cursor} {before after : List (Cursor × Option Cursor)}
      (h : Kept plan root c c') (hs : slots (plan c) c.children = before ++ (d, none) :: after)
      (hd : c'.children[before.length]? = some d') : Kept plan root d d'
  | receiver {c c' d d' a added : Cursor} {before after : List (Cursor × Option Cursor)}
      (h : Kept plan root c c') (hs : slots (plan c) c.children = before ++ (d, some a) :: after)
      (ha : c'.children[before.length]? = some added) (hd : added.children[0]? = some d') :
      Kept plan root d d'

/-- The call that was put into the call `c` to attach `a`. -/
def Added (plan : Cursor → Option Cursor) (root c a added : Cursor) : Prop :=
  ∃ c' d before after, Kept plan root c c' ∧
    slots (plan c) c.children = before ++ (d, some a) :: after ∧
    c'.children[before.length]? = some added

/-- What the copy of an argument consists of. -/
inductive Copied (plan : Cursor → Option Cursor) (root : Cursor) : Cursor → Cursor → Prop
  | argument {c a added list a' : Cursor} (h : Added plan root c a added)
      (hl : added.children[3]? = some list) (ha : list.children[1]? = some a') :
      Copied plan root a a'
  | child {c c' d d' : Cursor} {i : Nat} (h : Copied plan root c c')
      (hd : c.children[i]? = some d) (hd' : c'.children[i]? = some d') : Copied plan root d d'

/-- Where a node of the new tree comes from. -/
inductive Origin (plan : Cursor → Option Cursor) (root : Cursor) : Cursor → Prop
  | kept {c c' : Cursor} (h : Kept plan root c c') : Origin plan root c'
  | copied {c c' : Cursor} (h : Copied plan root c c') : Origin plan root c'
  | added {c a added : Cursor} (h : Added plan root c a added) : Origin plan root added
  | list {c a added list : Cursor} (h : Added plan root c a added)
      (hl : added.children[3]? = some list) : Origin plan root list
  | token {c' : Cursor} {l : Label} (h : c'.focus = .node l []) (hk : l.kind ≠ "method_invocation") :
      Origin plan root c'

theorem getElem?_childrenFrom (c : Cursor) (k i : Nat) (ts : List Tree) :
    (c.childrenFrom k ts)[i]? = ts[i]?.map fun t => ⟨t, (c.focus, k + i) :: c.above⟩ := by
  induction ts generalizing k i with
  | nil => rfl
  | cons t ts ih =>
    cases i with
    | zero => rfl
    | succ i =>
      rw [childrenFrom, List.getElem?_cons_succ, List.getElem?_cons_succ, ih, Nat.add_right_comm]
      rfl

theorem getElem?_children (c : Cursor) (i : Nat) :
    c.children[i]? = c.focus.children[i]?.map fun t => ⟨t, (c.focus, i) :: c.above⟩ := by
  rw [children, getElem?_childrenFrom, Nat.zero_add]

/-- A child stands on the tree at its position. -/
theorem focus_of_getElem? {c d : Cursor} {i : Nat} (h : c.children[i]? = some d) :
    c.focus.children[i]? = some d.focus := by
  rw [getElem?_children] at h
  obtain ⟨t, ht, rfl⟩ := Option.map_eq_some_iff.1 h
  exact ht

theorem exists_child {c : Cursor} {i : Nat} {t : Tree} (h : c.focus.children[i]? = some t) :
    ∃ d, c.children[i]? = some d ∧ d.focus = t := by
  rw [getElem?_children, h]
  exact ⟨_, rfl, rfl⟩

theorem length_children (c : Cursor) : c.children.length = c.focus.children.length := by
  rw [children]
  generalize c.focus.children = ts
  generalize 0 = k
  induction ts generalizing k with
  | nil => rfl
  | cons t ts ih => rw [childrenFrom, List.length_cons, List.length_cons, ih]

/-! ## Positions -/

theorem width_append (ps qs : List (Nat × Cursor)) : width (ps ++ qs) = width ps + width qs :=
  total_append _ ps qs

theorem shifts_append (plan : Cursor → Option Cursor) (n : Nat)
    (ss ts : List (Cursor × Option Cursor)) :
    shifts plan n (ss ++ ts) =
      shifts plan n ss ++ shifts plan (n + width (ss.flatMap (slotInserts plan))) ts := by
  induction ss generalizing n with
  | nil => rfl
  | cons s ss ih =>
    rw [List.cons_append, shifts, ih, shifts, List.flatMap_cons, width_append, Nat.add_assoc,
      List.cons_append]

theorem length_shifts (plan : Cursor → Option Cursor) (n : Nat)
    (ss : List (Cursor × Option Cursor)) : (shifts plan n ss).length = ss.length := by
  rw [← List.length_map (f := fun s : (Cursor × Option Cursor) × Nat => s.1), map_fst_shifts]

/-- What stands in the place of a slot. -/
theorem getElem?_patch {plan : Cursor → Option Cursor} {n : Nat} {c : Cursor}
    {s : Cursor × Option Cursor} {before after : List (Cursor × Option Cursor)}
    (h : slots (plan c) c.children = before ++ s :: after) :
    (patch plan n c).children[before.length]? =
      some (patchSlot plan (s, n + width (before.flatMap (slotInserts plan)))) := by
  rw [patch_eq, h, shifts_append]
  show (List.map _ _)[before.length]? = _
  rw [List.map_append,
    List.getElem?_append_right (Nat.le_of_eq (by rw [List.length_map, length_shifts])),
    List.length_map, length_shifts, Nat.sub_self]
  rfl

/-- What is inserted before a node and behind it, when `x` is put right behind. -/
structure Around (plan : Cursor → Option Cursor) (root c : Cursor) (x : Option Cursor)
    (before after : List (Nat × Cursor)) : Prop where
  split : inserts plan root =
    before ++ (inserts plan c ++ ((x.map (c.stop, ·)).toList ++ after))
  before_le : ∀ p ∈ before, p.1 ≤ c.start
  le_after : ∀ p ∈ after, c.stop ≤ p.1

theorem Around.le_rest {plan : Cursor → Option Cursor} {root c : Cursor} {x : Option Cursor}
    {before after : List (Nat × Cursor)} (h : Around plan root c x before after)
    {p : Nat × Cursor} (hp : p ∈ (x.map (c.stop, ·)).toList ++ after) : c.stop ≤ p.1 := by
  rcases List.mem_append.1 hp with hp | hp
  · rw [Option.mem_toList, Option.map_eq_some_iff] at hp
    obtain ⟨a, -, rfl⟩ := hp
    exact Nat.le_refl _
  · exact h.le_after p hp

section

variable {source : Bytes} {plan : Cursor → Option Cursor} {root : Cursor}
  (hroot : ∀ d, Below root d → d.Regular source) (hplan : ∀ c, Names plan c)

include hroot hplan

theorem span_of_mem_slotInserts {s : Cursor × Option Cursor} (hs : Below root s.1)
    {p : Nat × Cursor} (hp : p ∈ slotInserts plan s) : s.1.start ≤ p.1 ∧ p.1 ≤ s.1.stop := by
  rcases List.mem_append.1 hp with hp | hp
  · have hin := (inserts_ascend hplan fun d hd => hroot d (hs.trans hd)).2 p hp
    omega
  · rw [Option.mem_toList, Option.map_eq_some_iff] at hp
    obtain ⟨a, -, rfl⟩ := hp
    exact ⟨(hroot s.1 hs).ordered, Nat.le_refl _⟩

/-- From a node to one of its slots. -/
theorem Around.slot {c d : Cursor} {x y : Option Cursor} {before after : List (Nat × Cursor)}
    {bs ds : List (Cursor × Option Cursor)} (h : Around plan root c x before after)
    (hc : Below root c) (hs : slots (plan c) c.children = bs ++ (d, y) :: ds) :
    Around plan root d y (before ++ bs.flatMap (slotInserts plan))
      (ds.flatMap (slotInserts plan) ++ ((x.map (c.stop, ·)).toList ++ after)) := by
  have hreg := hroot c hc
  have hchild : ∀ s ∈ bs ++ (d, y) :: ds, s.1 ∈ c.children := by
    intro s hmem
    rw [← hs] at hmem
    exact fst_mem_of_mem_slots hmem
  have hd := hreg.inside d (hchild (d, y) (by simp))
  have hseq := hreg.siblings
  rw [← map_fst_slots (plan c) c.children, List.pairwise_map, hs, List.pairwise_append,
    List.pairwise_cons] at hseq
  obtain ⟨-, ⟨hafter, -⟩, hbefore⟩ := hseq
  refine ⟨?_, ?_, ?_⟩
  · rw [h.split, inserts_eq, hs, List.flatMap_append, List.flatMap_cons, slotInserts]
    simp only [List.append_assoc]
  · intro p hp
    rcases List.mem_append.1 hp with hp | hp
    · exact Nat.le_trans (h.before_le p hp) hd.1
    · obtain ⟨s, hmem, hp⟩ := List.mem_flatMap.1 hp
      have hspan := span_of_mem_slotInserts hroot hplan (hc.child (hchild s (by simp [hmem]))) hp
      exact Nat.le_trans hspan.2 (hbefore s hmem (d, y) List.mem_cons_self)
  · intro p hp
    rcases List.mem_append.1 hp with hp | hp
    · obtain ⟨s, hmem, hp⟩ := List.mem_flatMap.1 hp
      have hspan := span_of_mem_slotInserts hroot hplan (hc.child (hchild s (by simp [hmem]))) hp
      exact Nat.le_trans (hafter s hmem) hspan.1
    · exact Nat.le_trans hd.2 (h.le_rest hp)

/-- Where a kept node is, in terms of what is inserted before it. -/
theorem Kept.located {c c' : Cursor} (h : Kept plan root c c') :
    Below root c ∧ ∃ x before after, Around plan root c x before after ∧
      c'.focus = patch plan (width before) c := by
  induction h with
  | root =>
    refine ⟨Below.refl root, none, [], [], ⟨?_, by simp, by simp⟩, rfl⟩
    simp
  | child h hs hd ih =>
    obtain ⟨hc, x, before, after, hat, hfocus⟩ := ih
    have hmem := fst_mem_of_slots_eq hs
    have hd := focus_of_getElem? hd
    rw [hfocus, getElem?_patch hs, Option.some.injEq] at hd
    refine ⟨hc.child hmem, none, _, _, hat.slot hroot hplan hc hs, ?_⟩
    rw [← hd, width_append]
    rfl
  | receiver h hs ha hd ih =>
    obtain ⟨hc, x, before, after, hat, hfocus⟩ := ih
    have hmem := fst_mem_of_slots_eq hs
    have ha := focus_of_getElem? ha
    rw [hfocus, getElem?_patch hs, Option.some.injEq] at ha
    have hd := focus_of_getElem? hd
    rw [← ha] at hd
    refine ⟨hc.child hmem, _, _, _, hat.slot hroot hplan hc hs, ?_⟩
    rw [← Option.some.inj hd, width_append]

/-- Where an added call is. -/
theorem Added.located {c a added : Cursor} (h : Added plan root c a added) :
    ∃ d before after, plan c = some a ∧ c.object? = some d ∧ Below root c ∧
      Around plan root d (some a) before after ∧
      added.focus = addedCall (patch plan (width before) d) a := by
  obtain ⟨c', d, bs, ds, hkept, hs, hadded⟩ := h
  obtain ⟨hc, x, before, after, hat, hfocus⟩ := hkept.located hroot hplan
  obtain ⟨hplan', hobject⟩ :=
    find?_of_mem_slots (by rw [hs]; simp : (d, some a) ∈ slots (plan c) c.children)
  have hadded := focus_of_getElem? hadded
  rw [hfocus, getElem?_patch hs, Option.some.injEq] at hadded
  refine ⟨d, _, _, hplan', hobject, hc, hat.slot hroot hplan hc hs, ?_⟩
  rw [← hadded, width_append]
  rfl

end

/-! ## Labels and children -/

theorem split_of_getElem? {α : Type} {l : List α} {i : Nat} {a : α} (h : l[i]? = some a) :
    ∃ before after, l = before ++ a :: after ∧ before.length = i := by
  obtain ⟨hi, rfl⟩ := List.getElem?_eq_some_iff.1 h
  refine ⟨l.take i, l.drop (i + 1), ?_, ?_⟩
  · rw [← List.drop_eq_getElem_cons, List.take_append_drop]
  · rw [List.length_take]
    omega

section

variable {source : Bytes} {plan : Cursor → Option Cursor} {root : Cursor}
  (hroot : ∀ d, Below root d → d.Regular source) (hplan : ∀ c, Names plan c)

include hroot hplan

theorem Kept.label {c c' : Cursor} (h : Kept plan root c c') :
    c'.kind = c.kind ∧ c'.isNamed = c.isNamed ∧ c'.focus.label.field = c.focus.label.field := by
  obtain ⟨-, x, before, after, -, hfocus⟩ := h.located hroot hplan
  unfold kind isNamed Tree.kind
  rw [hfocus, patch_eq]
  exact ⟨rfl, rfl, rfl⟩

/-- A kept node has as many children as before. -/
theorem Kept.length_children {c c' : Cursor} (h : Kept plan root c c') :
    c'.children.length = (slots (plan c) c.children).length := by
  obtain ⟨-, x, before, after, -, hfocus⟩ := h.located hroot hplan
  rw [Cursor.length_children, hfocus, patch_eq]
  show (List.map _ _).length = _
  rw [List.length_map, length_shifts]

/-- The children of a kept node are kept, or added behind a receiver. -/
theorem Kept.child_cases {c c' d' : Cursor} (h : Kept plan root c c') (hd : d' ∈ c'.children) :
    (∃ d, Kept plan root d d') ∨ ∃ a, Added plan root c a d' := by
  obtain ⟨i, hi⟩ := List.mem_iff_getElem?.1 hd
  have hlen : i < (slots (plan c) c.children).length := by
    rw [← h.length_children hroot hplan]
    exact (List.getElem?_eq_some_iff.1 hi).1
  obtain ⟨before, after, hs, rfl⟩ := split_of_getElem? (List.getElem?_eq_getElem hlen)
  rcases hslot : (slots (plan c) c.children)[before.length] with ⟨d, _ | a⟩
  · rw [hslot] at hs
    exact .inl ⟨d, .child h hs hi⟩
  · rw [hslot] at hs
    exact .inr ⟨a, c', d, before, after, h, hs, hi⟩

/-- Where nothing is put behind a receiver, the children are kept. -/
theorem Kept.forall₂_children {c c' : Cursor} (h : Kept plan root c c') (hc : plan c = none) :
    List.Forall₂ (Kept plan root) c.children c'.children := by
  have hlen := h.length_children hroot hplan
  rw [hc, slots_none, List.length_map] at hlen
  refine List.forall₂_iff_get.2 ⟨hlen.symm, ?_⟩
  intro i hi hi'
  have hslot : (slots (plan c) c.children)[i]? = some (c.children[i], none) := by
    rw [hc, slots_none, List.getElem?_map, List.getElem?_eq_getElem hi]
    rfl
  obtain ⟨before, after, hs, rfl⟩ := split_of_getElem? hslot
  exact .child h hs (List.getElem?_eq_getElem hi')

/-- A copied node is its original, moved to where the argument is written again. -/
theorem Copied.located {c c' : Cursor} (h : Copied plan root c c') :
    ∃ k a d before after, plan k = some a ∧ k.object? = some d ∧ Below root k ∧
      Around plan root d (some a) before after ∧ Below a c ∧
      c'.focus = c.focus.moved a.start ((patch plan (width before) d).stop + 11) := by
  induction h with
  | argument h hl ha =>
    obtain ⟨d, before, after, hp, hobject, hk, hat, hfocus⟩ := h.located hroot hplan
    have hl := focus_of_getElem? hl
    rw [hfocus] at hl
    have ha := focus_of_getElem? ha
    rw [← Option.some.inj hl] at ha
    exact ⟨_, _, d, before, after, hp, hobject, hk, hat, Below.refl _, (Option.some.inj ha).symm⟩
  | child h hd hd' ih =>
    obtain ⟨k, a, d, before, after, hp, hobject, hk, hat, hbelow, hfocus⟩ := ih
    refine ⟨k, a, d, before, after, hp, hobject, hk, hat,
      hbelow.child (List.mem_of_getElem? hd), ?_⟩
    have hd' := focus_of_getElem? hd'
    rw [hfocus, Tree.children_moved, List.getElem?_map, focus_of_getElem? hd] at hd'
    exact (Option.some.inj hd').symm

theorem Copied.label {c c' : Cursor} (h : Copied plan root c c') :
    c'.kind = c.kind ∧ c'.isNamed = c.isNamed ∧ c'.focus.label.field = c.focus.label.field := by
  obtain ⟨k, a, d, before, after, -, -, -, -, -, hfocus⟩ := h.located hroot hplan
  unfold kind isNamed Tree.kind
  rw [hfocus, Tree.label_moved]
  exact ⟨rfl, rfl, rfl⟩

theorem Copied.forall₂_children {c c' : Cursor} (h : Copied plan root c c') :
    List.Forall₂ (Copied plan root) c.children c'.children := by
  obtain ⟨k, a, d, before, after, -, -, -, -, -, hfocus⟩ := h.located hroot hplan
  refine List.forall₂_iff_get.2 ⟨?_, ?_⟩
  · rw [length_children, length_children, hfocus, Tree.children_moved, List.length_map]
  · intro i hi hi'
    exact .child h (List.getElem?_eq_getElem hi) (List.getElem?_eq_getElem hi')

/-- The receiver of an added call is the receiver it was put behind. -/
theorem Added.object? {c a added : Cursor} (h : Added plan root c a added) :
    ∃ d d', c.object? = some d ∧ added.object? = some d' ∧ Kept plan root d d' := by
  obtain ⟨c', d₁, bs, ds, hkept, hs, hadded⟩ := id h
  obtain ⟨d, before, after, -, hobject, -, -, hfocus⟩ := h.located hroot hplan
  obtain ⟨-, hobject'⟩ :=
    find?_of_mem_slots (by rw [hs]; simp : (d₁, some a) ∈ slots (plan c) c.children)
  obtain rfl : d = d₁ := Option.some.inj (hobject.symm.trans hobject')
  obtain ⟨d', hd', hfocus'⟩ := exists_child (c := added) (i := 0) (by rw [hfocus]; rfl)
  refine ⟨d, d', hobject, ?_, .receiver hkept hs hadded hd'⟩
  have hfield : (d'.focus.label.field == some "object") = true := by
    rw [hfocus', patch_eq]
    exact beq_iff_eq.2 (field_of_childByField? hobject)
  rw [Cursor.object?, childByField?]
  obtain ⟨rest, hrest⟩ : ∃ rest, added.children = d' :: rest := by
    cases hc : added.children with
    | nil => rw [hc] at hd'; cases hd'
    | cons e rest =>
      rw [hc] at hd'
      exact ⟨rest, by rw [Option.some.inj hd']⟩
  rw [hrest, List.find?_cons_of_pos (by exact hfield)]

/-! ## All nodes -/

theorem Added.origin_of_mem {c a added d' : Cursor} (h : Added plan root c a added)
    (hd : d' ∈ added.children) : Origin plan root d' := by
  obtain ⟨c', d, bs, ds, hkept, hs, hadded⟩ := id h
  obtain ⟨d₀, before, after, -, -, -, -, hfocus⟩ := h.located hroot hplan
  obtain ⟨i, hi⟩ := List.mem_iff_getElem?.1 hd
  have ht := focus_of_getElem? hi
  rw [hfocus] at ht
  match i with
  | 0 => exact .kept (.receiver hkept hs hadded hi)
  | 1 => exact .token (Option.some.inj ht).symm (by simp)
  | 2 => exact .token (Option.some.inj ht).symm (by simp)
  | 3 => exact .list h hi
  | _ + 4 => cases ht

theorem Added.origin_of_mem_list {c a added list d' : Cursor} (h : Added plan root c a added)
    (hl : added.children[3]? = some list) (hd : d' ∈ list.children) : Origin plan root d' := by
  obtain ⟨d₀, before, after, -, -, -, -, hfocus⟩ := h.located hroot hplan
  have hlist := focus_of_getElem? hl
  rw [hfocus] at hlist
  obtain ⟨i, hi⟩ := List.mem_iff_getElem?.1 hd
  have ht := focus_of_getElem? hi
  rw [← Option.some.inj hlist] at ht
  match i with
  | 0 => exact .token (Option.some.inj ht).symm (by simp)
  | 1 => exact .copied (.argument h hl hi)
  | 2 => exact .token (Option.some.inj ht).symm (by simp)
  | _ + 3 => cases ht

/-- Every node of the new tree comes from somewhere. -/
theorem origin_of_below {c' : Cursor} (h : Below (patched plan root) c') :
    Origin plan root c' := by
  induction h with
  | refl => exact .kept .root
  | tail _ hd ih =>
    cases ih with
    | kept h =>
      rcases h.child_cases hroot hplan hd with ⟨d, hd⟩ | ⟨a, ha⟩
      · exact .kept hd
      · exact .added ha
    | copied h =>
      obtain ⟨i, hi⟩ := List.mem_iff_getElem?.1 hd
      have hlen := (h.forall₂_children hroot hplan).length_eq
      have hi' : i < _ := hlen.symm ▸ (List.getElem?_eq_some_iff.1 hi).1
      exact .copied (.child h (List.getElem?_eq_getElem hi') hi)
    | added h => exact h.origin_of_mem hroot hplan hd
    | list h hl => exact h.origin_of_mem_list hroot hplan hl hd
    | token h hk =>
      rw [children, h] at hd
      cases hd

/-- Every node of the old tree is kept. -/
theorem exists_kept {c : Cursor} (h : Below root c) :
    ∃ c', Kept plan root c c' ∧ Below (patched plan root) c' := by
  induction h with
  | refl => exact ⟨_, .root, Below.refl _⟩
  | @tail c d _ hd ih =>
    obtain ⟨c', hkept, hbelow⟩ := ih
    rw [← map_fst_slots (plan c) c.children] at hd
    obtain ⟨⟨d, x⟩, hmem, rfl⟩ := List.mem_map.1 hd
    obtain ⟨before, after, hs⟩ := List.append_of_mem hmem
    have hlen : before.length < c'.children.length := by
      rw [hkept.length_children hroot hplan, hs, List.length_append, List.length_cons]
      omega
    have hat := List.getElem?_eq_getElem hlen
    cases x with
    | none => exact ⟨_, .child hkept hs hat, hbelow.child (List.getElem_mem hlen)⟩
    | some a =>
      have hadded : Added plan root c a _ := ⟨c', d, before, after, hkept, hs, hat⟩
      obtain ⟨d₀, _, _, -, -, -, -, hfocus⟩ := hadded.located hroot hplan
      obtain ⟨d', hd', -⟩ := exists_child (i := 0) (by rw [hfocus]; rfl)
      exact ⟨d', .receiver hkept hs hat hd',
        (hbelow.child (List.getElem_mem hlen)).child (List.mem_of_getElem? hd')⟩

/-- A planned call gets a call put in, in the place of its receiver. -/
theorem exists_added {c c' a d : Cursor} (h : Kept plan root c c')
    (hbelow : Below (patched plan root) c') (ha : plan c = some a) (hd : c.object? = some d) :
    ∃ added, Added plan root c a added ∧ Below (patched plan root) added ∧
      c'.object? = some added := by
  obtain ⟨before, after, hslots, hfirst⟩ := slots_of_find? (a := a) hd
  have hs : slots (plan c) c.children =
      before.map (·, none) ++ (d, some a) :: after.map (·, none) := by rw [ha, hslots]
  have hlen : (before.map ((·, none) : Cursor → Cursor × Option Cursor)).length <
      c'.children.length := by
    rw [h.length_children hroot hplan, hs, List.length_append, List.length_cons]
    omega
  have hat := List.getElem?_eq_getElem hlen
  have hadded : Added plan root c a _ := ⟨c', d, _, _, h, hs, hat⟩
  refine ⟨_, hadded, hbelow.child (List.getElem_mem hlen), ?_⟩
  -- no child before it fills the field
  rw [object?, childByField?, List.find?_eq_some_iff_getElem]
  obtain ⟨d₀, _, _, -, -, -, -, hfocus⟩ := hadded.located hroot hplan
  refine ⟨by rw [hfocus]; rfl, _, hlen, rfl, ?_⟩
  intro j hj
  have hj' : j < before.length := by simpa using hj
  have hslot : (slots (plan c) c.children)[j]? = some (before[j], none) := by
    rw [hs, List.getElem?_append_left hj, List.getElem?_map, List.getElem?_eq_getElem hj']
    rfl
  obtain ⟨bs, ds, hsplit, rfl⟩ := split_of_getElem? hslot
  have hkept := Kept.child h hsplit (List.getElem?_eq_getElem (Nat.lt_trans hj hlen))
  rw [(hkept.label hroot hplan).2.2, hfirst _ (List.getElem_mem hj')]
  rfl

/-- What lies in a planned argument is copied. -/
theorem exists_copied {c a added d : Cursor} (h : Added plan root c a added)
    (hbelow : Below (patched plan root) added) (hd : Below a d) :
    ∃ d', Copied plan root d d' ∧ Below (patched plan root) d' := by
  induction hd with
  | refl =>
    obtain ⟨d₀, _, _, -, -, -, -, hfocus⟩ := h.located hroot hplan
    obtain ⟨list, hl, hlist⟩ := exists_child (c := added) (i := 3) (by rw [hfocus]; rfl)
    obtain ⟨a', ha', -⟩ := exists_child (c := list) (i := 1) (by rw [hlist]; rfl)
    exact ⟨a', .argument h hl ha',
      (hbelow.child (List.mem_of_getElem? hl)).child (List.mem_of_getElem? ha')⟩
  | tail _ hd ih =>
    obtain ⟨c', hcopied, hbelow'⟩ := ih
    obtain ⟨i, hi⟩ := List.mem_iff_getElem?.1 hd
    have hlen := (hcopied.forall₂_children hroot hplan).length_eq
    have hi' : i < _ := hlen ▸ (List.getElem?_eq_some_iff.1 hi).1
    exact ⟨_, .child hcopied hi (List.getElem?_eq_getElem hi'),
      hbelow'.child (List.getElem_mem hi')⟩

end

end Cursor

end CauseLint
