import CauseLint.Proofs.Types.Joins

/-!
# The types of choices

A choice between two values has a type that both belong to. For two classes it is one of them when
the other descends from it, and else the first ancestor of the first one that the second one
descends from, which may be a name that nothing declares; when there is none it is
`java.lang.Object`, which every class descends from. A branch that is null leaves the type to the
other one, and a branch without a type leaves the choice without one.

Results:

* `Index.leastUpperBound_above`: the join of classes is above all of them.
* `Index.joinTypes_above`, `Index.joinTypes_of_isNull_left`, `Index.joinTypes_of_isNull_right`,
  `Index.joinTypes_of_not_isClass`: the join of the types of two branches, case by case.
* `Index.choice_sound`: the type of a choice is sound for both branches.
-/

namespace CauseLint

variable {h : Hierarchy} {s t : StaticType}

theorem StaticType.isNull_of_isClass (hs : s.isClass = true) : s.isNull = false := by
  obtain ⟨name, args, flag, rfl⟩ := s.eq_cls_of_isClass hs
  rfl

theorem StaticType.isClass_of_isError (hs : s.isError = true) : s.isClass = false := by
  cases s with
  | error flag => rfl
  | _ => cases hs

namespace Index

/-- The join of classes is above all of them. -/
theorem leastUpperBound_above {first : StaticType} {others : List StaticType}
    (hall : ∀ t ∈ first :: others, t.isClass = true) :
    ∃ c, leastUpperBound h (first :: others) objectClass = .ofClass c ∧
      ∀ t ∈ first :: others, h.subtyping t.name c = .yes := by
  obtain ⟨hfirst, hothers⟩ := List.forall_mem_cons.1 hall
  obtain ⟨name, args, flag, rfl⟩ := first.eq_cls_of_isClass hfirst
  unfold leastUpperBound
  dsimp only
  rw [if_pos (List.all_eq_true.2 hothers)]
  split
  · rename_i c hfound
    have habove : h.Descends name c :=
      Hierarchy.mem_ancestors_iff.1 (List.mem_of_find?_eq_some hfound)
    have hshared : others.all (fun t => h.subtyping t.name c = .yes) = true :=
      List.find?_some (p := fun n => others.all fun t => h.subtyping t.name n = .yes) hfound
    rw [List.all_eq_true] at hshared
    refine ⟨c, rfl, List.forall_mem_cons.2 ⟨?_, fun t ht => of_decide_eq_true (hshared t ht)⟩⟩
    exact Hierarchy.subtyping_eq_yes_iff.2 (.inr habove)
  · exact ⟨objectClass, rfl, fun t _ => Hierarchy.subtyping_objectClass t.name⟩

/-- The join of two classes is above both. -/
theorem joinTypes_above (hs : s.isClass = true) (ht : t.isClass = true) :
    (joinTypes h s t).isClass = true ∧ h.subtyping s.name (joinTypes h s t).name = .yes ∧
      h.subtyping t.name (joinTypes h s t).name = .yes := by
  have hself : ∀ c, h.subtyping c c = .yes := fun c => Hierarchy.subtyping_eq_yes_iff.2 (.inr .refl)
  have hall : ∀ other ∈ [s, t], other.isClass = true := by simp [hs, ht]
  obtain ⟨c, hjoin, habove⟩ := leastUpperBound_above (h := h) hall
  obtain ⟨hsc, htc⟩ : h.subtyping s.name c = .yes ∧ h.subtyping t.name c = .yes := by
    simpa using habove
  unfold joinTypes
  rw [StaticType.isNull_of_isClass hs, StaticType.isNull_of_isClass ht]
  split
  · contradiction
  split
  · rename_i hsame
    obtain rfl : s = t := by simpa using hsame
    exact ⟨hs, hself _, hself _⟩
  obtain ⟨m, margs, mflag, rfl⟩ := s.eq_cls_of_isClass hs
  obtain ⟨n, nargs, nflag, rfl⟩ := t.eq_cls_of_isClass ht
  dsimp only
  split
  · rename_i hmn
    exact ⟨rfl, hmn, hself _⟩
  split
  · rename_i hnm
    exact ⟨rfl, hself _, hnm⟩
  · rw [hjoin]
    exact ⟨rfl, hsc, htc⟩

theorem joinTypes_of_isNull_left (hs : s.isNull = true) : joinTypes h s t = t := by
  unfold joinTypes
  rw [if_pos hs]

theorem joinTypes_of_isNull_right (hs : s.isNull = false) (ht : t.isNull = true) :
    joinTypes h s t = s := by
  unfold joinTypes
  rw [hs, ht]
  rfl

/-- Different types have no join unless both are classes or one is null. -/
theorem joinTypes_of_not_isClass (hs : s.isNull = false) (ht : t.isNull = false) (hne : s ≠ t)
    (hclasses : (s.isClass && t.isClass) = false) : joinTypes h s t = .errorType := by
  have hdiffer : (t.isNull || s == t) = false := by
    rw [ht, Bool.false_or, beq_eq_false_iff_ne]
    exact hne
  unfold joinTypes
  rw [hs, hdiffer]
  cases s with
  | cls m margs mflag =>
    cases t with
    | cls n nargs nflag => cases hclasses
    | _ => rfl
  | _ => rfl

/-- Whatever types the branches of a choice have, the choice has a type. For two classes it is a
class that both descend from. It is the type of the other branch when one branch is null. It is no
type when one branch has none and the other one is neither null nor the same. -/
theorem choice_sound (x : Index) (typeOf : Cursor → Typing StaticType) (c : Cursor) {memo : Memo}
    (hs : outcome (typeOf? typeOf (c.childByField? "consequence")) memo = .ok s)
    (ht : outcome (typeOf? typeOf (c.childByField? "alternative"))
      (memoAfter (typeOf? typeOf (c.childByField? "consequence")) memo) = .ok t) :
    ∃ r, outcome (choiceType x typeOf c) memo = .ok r ∧
      (s.isClass = true → t.isClass = true → r.isClass = true ∧
        x.hierarchy.subtyping s.name r.name = .yes ∧ x.hierarchy.subtyping t.name r.name = .yes) ∧
      (s.isNull = true → r = t) ∧
      (s.isNull = false → t.isNull = true → r = s) ∧
      (s.isError = true ∨ t.isError = true → s.isNull = false → t.isNull = false → s ≠ t →
        r = .errorType) := by
  refine ⟨joinTypes x.hierarchy s t, ?_, joinTypes_above, joinTypes_of_isNull_left,
    joinTypes_of_isNull_right, fun herror hs ht hne => ?_⟩
  · rw [choiceType, outcome_bind, hs]
    dsimp only
    rw [outcome_bind, ht]
    rfl
  · refine joinTypes_of_not_isClass hs ht hne (Bool.and_eq_false_iff.2 ?_)
    exact herror.imp StaticType.isClass_of_isError StaticType.isClass_of_isError

/-- A choice between two new objects. -/
def newObjects : SourceUnit where
  path := "A.java"
  source := Utf8.ofText "b ? new A() : new B();"
  tree :=
    .node { kind := "program", start := 0, stop := 22 } [
      .node { kind := "expression_statement", start := 0, stop := 22 } [
        .node { kind := "ternary_expression", start := 0, stop := 21 } [
          .node { kind := "identifier", start := 0, stop := 1, field := some "condition" } [],
          .node { kind := "?", isNamed := false, start := 2, stop := 3 } [],
          .node { kind := "object_creation_expression", start := 4, stop := 11,
                  field := some "consequence" } [
            .node { kind := "new", isNamed := false, start := 4, stop := 7 } [],
            .node { kind := "type_identifier", start := 8, stop := 9, field := some "type" } [],
            .node { kind := "argument_list", start := 9, stop := 11, field := some "arguments" } [
              .node { kind := "(", isNamed := false, start := 9, stop := 10 } [],
              .node { kind := ")", isNamed := false, start := 10, stop := 11 } []]],
          .node { kind := ":", isNamed := false, start := 12, stop := 13 } [],
          .node { kind := "object_creation_expression", start := 14, stop := 21,
                  field := some "alternative" } [
            .node { kind := "new", isNamed := false, start := 14, stop := 17 } [],
            .node { kind := "type_identifier", start := 18, stop := 19, field := some "type" } [],
            .node { kind := "argument_list", start := 19, stop := 21, field := some "arguments" } [
              .node { kind := "(", isNamed := false, start := 19, stop := 20 } [],
              .node { kind := ")", isNamed := false, start := 20, stop := 21 } []]]],
        .node { kind := ";", isNamed := false, start := 21, stop := 22 } []]]

/-- The two classes of the objects meet at an interface on a circle, behind a name that nothing
declares. -/
def newObjectsIndex : Index where
  unit := newObjects
  hierarchy :=
    [{ name := "A", supertypes := ["Gone", "Turn"] }, { name := "B", supertypes := ["Turn"] },
     { name := "Turn", supertypes := ["Back"] },
     { name := "Back", supertypes := ["Turn"] : ClassInfo }].foldl Hierarchy.declare {}

/-- The choice between the objects. -/
def objectChoice : Cursor :=
  (newObjects.root.preorder.find? (·.kind = "ternary_expression")).getD newObjects.root

/-- The choice has the type of the interface. -/
theorem choice_sound_newObjects :
    let x := newObjectsIndex
    outcome (choiceType x x.typeOf objectChoice) {} = .ok (.ofClass "Turn") ∧
      x.hierarchy.subtyping "A" "Turn" = .yes ∧ x.hierarchy.subtyping "B" "Turn" = .yes ∧
      x.hierarchy.subtyping "A" "B" = .unknown := by
  intro x
  have hevaluated :
      (outcome (typeOf? x.typeOf (objectChoice.childByField? "consequence")) {}).toOption =
        some (.ofClass "A") ∧
      (outcome (typeOf? x.typeOf (objectChoice.childByField? "alternative"))
        (memoAfter (typeOf? x.typeOf (objectChoice.childByField? "consequence")) {})).toOption =
        some (.ofClass "B") ∧
      (outcome (choiceType x x.typeOf objectChoice) {}).toOption = some (.ofClass "Turn") ∧
      x.hierarchy.subtyping "A" "B" = .unknown := by
    decide +kernel
  obtain ⟨hs, ht, hchoice, hdoubt⟩ := hevaluated
  obtain ⟨r, hr, hclasses, -⟩ := choice_sound x x.typeOf objectChoice (eq_ok_of_toOption hs)
    (eq_ok_of_toOption ht)
  have hchoice := eq_ok_of_toOption hchoice
  obtain rfl : r = .ofClass "Turn" := Except.ok.inj (hr.symm.trans hchoice)
  obtain ⟨-, ha, hb⟩ := hclasses rfl rfl
  exact ⟨hchoice, ha, hb, hdoubt⟩

end Index

end CauseLint
