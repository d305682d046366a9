import CauseLint.Proofs.Types.Bounds
import CauseLint.Proofs.Types.Room

/-!
# Sums

The typing of a sum asks for the type of its left side first. A sum of many terms nests to the left,
so its typings wait for one another, one for each term, and whatever room an index has, some sum has
more terms. No type is written here that could lead back to itself: it is the length alone that
counts.

Results:

* `Index.outcome_zeros_of_le`: the typing of a sum with too many terms finds no room.
* `Index.exists_endless_of_room`: there is such a sum for every room.
-/

namespace CauseLint

/-- The rows of a child stand among the rows of its parent. -/
theorem Tree.rows_subset_of_mem {t u : Tree} (h : u ∈ t.children) : u.rows ⊆ t.rows := by
  obtain ⟨l, ts⟩ := t
  refine List.Subset.trans ?_ (List.subset_cons_self _ _)
  change u ∈ ts at h
  induction ts with
  | nil => cases h
  | cons t ts ih =>
    rw [Tree.forestRows]
    rcases List.mem_cons.1 h with rfl | h
    · exact List.subset_append_left _ _
    · exact List.Subset.trans (ih h) (List.subset_append_right _ _)

/-- What holds of all rows of a tree holds of the label of each node below. -/
theorem Cursor.label_of_below {p : Label → Prop} {c d : Cursor} (h : ∀ r ∈ c.focus.rows, p r.1)
    (hd : Cursor.Below c d) : p d.focus.label := by
  have hrows : d.focus.rows ⊆ c.focus.rows := by
    induction hd with
    | refl => exact List.Subset.refl _
    | tail _ he ih =>
      exact List.Subset.trans (Tree.rows_subset_of_mem (focus_mem_of_mem_childrenFrom he)) ih
  refine h (d.focus.label, d.focus.children.length) (hrows ?_)
  cases d.focus
  exact List.mem_cons_self

namespace Index

/-! ## Sums of zeros -/

/-- A sum of `n + 1` zeros that fills a field of its parent. -/
def zeros (field : Option String) : Nat → Tree
  | 0 => .node { kind := "decimal_integer_literal", start := 0, stop := 1, field } []
  | n + 1 =>
    .node { kind := "binary_expression", start := 0, stop := 2 * n + 3, field } [
      zeros (some "left") n,
      .node { kind := "+", isNamed := false, start := 2 * n + 1, stop := 2 * n + 2,
              field := some "operator" } [],
      .node { kind := "decimal_integer_literal", start := 2 * n + 2, stop := 2 * n + 3,
              field := some "right" } []]

/-- The statement that is a sum of `n + 1` zeros. -/
def zerosStatement (n : Nat) : Tree :=
  .node { kind := "expression_statement", start := 0, stop := 2 * n + 2 } [
    zeros none n,
    .node { kind := ";", isNamed := false, start := 2 * n + 1, stop := 2 * n + 2 } []]

/-- The unit of that statement. -/
def zerosUnit (n : Nat) : SourceUnit where
  path := "A.java"
  source := Utf8.ofText ("0" ++ String.join (List.replicate n "+0") ++ ";")
  tree := .node { kind := "program", start := 0, stop := 2 * n + 2 } [zerosStatement n]

/-- The sum in its unit. -/
def zerosNode (n : Nat) : Cursor := ⟨zeros none n, [(zerosStatement n, 0), ((zerosUnit n).tree, 0)]⟩

/-- The kinds of nodes in such a unit. -/
def zerosKinds : List String :=
  ["program", "expression_statement", ";", "binary_expression", "+", "decimal_integer_literal"]

theorem kind_mem_rows_zeros (field : Option String) (n : Nat) :
    ∀ r ∈ (zeros field n).rows, r.1.kind ∈ zerosKinds := by
  induction n generalizing field with
  | zero => simp [zeros, Tree.rows, Tree.forestRows, zerosKinds]
  | succ n ih =>
    have hleft := ih (some "left")
    simp only [zeros, Tree.rows, Tree.forestRows, List.forall_mem_cons, List.forall_mem_append]
    exact ⟨by simp [zerosKinds], hleft, by simp [zerosKinds]⟩

theorem kind_mem_of_below_zerosUnit {n : Nat} {c : Cursor}
    (hc : Cursor.Below (zerosUnit n).root c) : c.kind ∈ zerosKinds := by
  refine Cursor.label_of_below (p := fun l => l.kind ∈ zerosKinds) ?_ hc
  have hsum := kind_mem_rows_zeros none n
  show ∀ r ∈ (zerosUnit n).tree.rows, r.1.kind ∈ zerosKinds
  simp only [zerosUnit, zerosStatement, Tree.rows, Tree.forestRows, List.forall_mem_cons,
    List.forall_mem_append]
  exact ⟨by simp [zerosKinds], ⟨by simp [zerosKinds], hsum, by simp [zerosKinds]⟩, by simp⟩

theorem reads_eq_nil {u : SourceUnit} {c : Cursor} (h : c.kind ∈ zerosKinds) : reads u c = [] := by
  simp only [zerosKinds, List.mem_cons, List.not_mem_nil, or_false] at h
  rcases h with h | h | h | h | h | h <;> simp [reads, h]

/-- No type is read in such a unit. -/
theorem boundsAcyclic_zerosUnit (n : Nat) : BoundsAcyclic (zerosUnit n) := by
  refine boundsAcyclic_iff.2 fun c hc hcirc => ?_
  obtain ⟨r, hr, -⟩ := hcirc.step
  rw [reads_eq_nil (kind_mem_of_below_zerosUnit hc)] at hr
  cases hr

/-- Nothing is declared in such a unit, so it is indexed in any room. -/
theorem build_zerosUnit (n : Nat) (parent : Hierarchy) (room : Nat) :
    build (zerosUnit n) parent room =
      .ok { unit := zerosUnit n, hierarchy := parent.child, room } := by
  have hkinds : ∀ c ∈ (zerosUnit n).root.preorder, c.kind ∈ zerosKinds := fun c hc =>
    kind_mem_of_below_zerosUnit (Cursor.mem_preorder_iff.1 hc)
  have hdeclared : declarations (zerosUnit n) = [] := by
    rw [declarations, List.filter_eq_nil_iff.2, List.filterMap_nil]
    intro c hc
    have hdisjoint : ∀ k ∈ zerosKinds, ¬ classKinds.contains k = true := by decide
    exact hdisjoint _ (hkinds c hc)
  have hthrown : thrownNodes (zerosUnit n) = [] := by
    rw [thrownNodes, List.filter_eq_nil_iff.2, List.flatMap_nil]
    intro c hc
    have hdisjoint : ∀ k ∈ zerosKinds, ¬ decide (k = "catch_type" ∨ k = "throws") = true := by
      decide
    simpa using hdisjoint _ (hkinds c hc)
  simp only [build, ofNames, hdeclared, hthrown]
  rfl

/-! ## Typing a sum -/

theorem key_zeros (field : Option String) (n : Nat) (above : List (Tree × Nat)) :
    (Cursor.mk (zeros field n) above).key.stop = 2 * n + 1 := by
  cases n <;> rfl

theorem childByField?_zeros (field : Option String) (n : Nat) (above : List (Tree × Nat)) :
    let c : Cursor := ⟨zeros field (n + 1), above⟩
    (c.childByField? "operator").map Cursor.kind = some "+" ∧
      c.childByField? "left" = some ⟨zeros (some "left") n, (zeros field (n + 1), 0) :: above⟩ := by
  cases n <;> exact ⟨rfl, rfl⟩

/-- The typing of a sum with too many terms finds no room: the left side of each sum waits for that
of the next. -/
theorem outcome_zeros_of_le {stage : Nat → Index} {room n : Nat} (h : room ≤ n)
    {field : Option String} {above : List (Tree × Nat)} {memo : Memo}
    (hnew : ∀ k ≤ n, ∀ field above, memo.get? (Cursor.mk (zeros field k) above).key = none) :
    outcome (typeOfBy stage room ⟨zeros field n, above⟩) memo = .error .endless := by
  induction room generalizing n field above memo with
  | zero => exact outcome_typeOfBy_zero (hnew n (Nat.le_refl _) _ _)
  | succ room ih =>
    obtain ⟨n, rfl⟩ : ∃ m, n = m + 1 := ⟨n - 1, by omega⟩
    obtain ⟨hoperator, hleft⟩ := childByField?_zeros field n above
    have hfull : outcome (typeOfBy stage room
        ⟨zeros (some "left") n, (zeros field (n + 1), 0) :: above⟩)
        (memo.insert (Cursor.mk (zeros field (n + 1)) above).key .errorType) = .error .endless := by
      refine ih (Nat.le_of_succ_le_succ h) fun k hk field' above' => ?_
      rw [Table.get?_insert, if_neg]
      · exact hnew k (Nat.le_succ_of_le hk) _ _
      · intro heq
        have hstop := congrArg NodeKey.stop (eq_of_beq heq)
        rw [key_zeros, key_zeros] at hstop
        omega
    rw [outcome_typeOfBy_succ (hnew _ (Nat.le_refl _) _ _)]
    show outcome (binaryType (typeOfBy stage room) ⟨zeros field (n + 1), above⟩) _ = _
    rw [binaryType, hoperator, hleft]
    show outcome (typeOfBy stage room _ >>= _) _ = _
    rw [outcome_bind, hfull]

/-- Whatever the room, some unit can be indexed in which an expression finds no room, though its
bounds are acyclic. -/
theorem exists_endless_of_room (parent : Hierarchy) (room : Nat) :
    ∃ u q, BoundsAcyclic u ∧ Cursor.Below u.root q.node ∧
      ∃ x, build u parent room = .ok x ∧ x.answersInRoom [q] = [.error .endless] := by
  refine ⟨zerosUnit room, .type (zerosNode room), boundsAcyclic_zerosUnit room, ?_, _,
    build_zerosUnit room parent room, ?_⟩
  · have hstatement : (zerosUnit room).root.Below
        ⟨zerosStatement room, [((zerosUnit room).tree, 0)]⟩ :=
      (Cursor.Below.refl _).child List.mem_cons_self
    exact hstatement.child List.mem_cons_self
  · refine congrArg (· :: []) ?_
    show outcome (some <$> typeOfBy _ room (zerosNode room)) {} = _
    rw [map_eq_pure_bind, outcome_bind, zerosNode,
      outcome_zeros_of_le (Nat.le_refl room) fun _ _ _ _ => rfl]

end Index

end CauseLint
