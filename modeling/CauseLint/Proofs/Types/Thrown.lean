import CauseLint.Proofs.Types.Circular

/-!
# Classes that are caught or thrown

The third pass of an index declares each class that is caught or declared as thrown, and of which
nothing is known, below `java.lang.Throwable`. A class that is known already is left alone, even
when what it extends is not known. So a class of the unit whose superclass is missing can be caught
and still not be known as throwable. The pass also makes names known that mean something else at the
nodes before: such a node is read as one class at its turn and as another one in the end.

Results:

* `Index.descends_addThrown`, `Index.descends_of_unmarked`: what the pass changes of descent.
* `Index.unknown_addThrown_iff`: the doubts about throwability that it leaves.
* `Index.thrown_unknown_iff`: what the finished oracle does not know of caught and thrown classes.
-/

namespace CauseLint.Index

/-- A class that becomes known between two stages of an index. -/
def Marked (y x : Index) (name : String) : Prop :=
  y.hierarchy.knows name = false ∧ x.hierarchy.knows name = true

/-! ## What the third pass leaves -/

section

variable {x y : Index} {cs : List Cursor} (h : addThrown cs y = .ok x) {a b m : String}

include h

theorem extends_addThrown : x.hierarchy.Extends a b ↔
    y.hierarchy.Extends a b ∨ Marked y x a ∧ b = throwableClass := by
  unfold Hierarchy.Extends
  rcases get?_addThrown h a with hget | ⟨hunknown, hget⟩
  · have hnot : ¬ Marked y x a := by
      rintro ⟨hunknown, hknown⟩
      rw [Hierarchy.knows, hget, ← Hierarchy.knows, hunknown] at hknown
      cases hknown
    rw [hget, or_iff_left fun hmarked => hnot hmarked.1]
  · have hnone : y.hierarchy.get? a = none := by simpa [Hierarchy.knows] using hunknown
    have hmarked : Marked y x a := ⟨hunknown, by rw [Hierarchy.knows, hget]; rfl⟩
    simp [hget, hnone, hmarked]

/-- What is not known in the end was not known before and is not declared by the pass. -/
theorem unknown_iff_of_addThrown :
    x.hierarchy.knows a = false ↔ y.hierarchy.knows a = false ∧ ¬ Marked y x a := by
  constructor
  · intro hunknown
    refine ⟨?_, fun hmarked => ?_⟩
    · cases hy : y.hierarchy.knows a with
      | false => rfl
      | true => rw [← knows_addThrown h hy, hunknown]
    · rw [hmarked.2] at hunknown
      cases hunknown
  · rintro ⟨hunknown, hnot⟩
    cases hx : x.hierarchy.knows a with
    | false => rfl
    | true => exact absurd ⟨hunknown, hx⟩ hnot

/-- Descent is kept. -/
theorem descends_addThrown (hab : y.hierarchy.Descends a b) : x.hierarchy.Descends a b :=
  Relation.ReflTransGen.mono (fun _ _ hstep => (extends_addThrown h).2 (.inl hstep)) _ _ hab

/-- A class that descends from none that the pass declares descends from nothing new. -/
theorem descends_of_unmarked (hnone : ∀ m, Marked y x m → ¬ y.hierarchy.Descends a m)
    (hab : x.hierarchy.Descends a b) : y.hierarchy.Descends a b := by
  induction hab with
  | refl => exact .refl
  | tail _ hstep ih =>
    rcases (extends_addThrown h).1 hstep with hstep | ⟨hmarked, -⟩
    · exact ih.tail hstep
    · exact absurd ih (hnone _ hmarked)

/-- A class that descends from one that the pass declares is throwable. -/
theorem subtyping_of_marked (hm : Marked y x m) (ham : y.hierarchy.Descends a m) :
    x.hierarchy.subtyping a throwableClass = .yes :=
  Hierarchy.subtyping_eq_yes_iff.2 (.inr ((descends_addThrown h ham).tail
    ((extends_addThrown h).2 (.inr ⟨hm, rfl⟩))))

/-- Whether a class is throwable is unknown behind the third pass when it was so before, and the
class descends from none that the pass declares. -/
theorem unknown_addThrown_iff : x.hierarchy.subtyping a throwableClass = .unknown ↔
    y.hierarchy.subtyping a throwableClass = .unknown ∧
      ∀ m, Marked y x m → ¬ y.hierarchy.Descends a m := by
  have htop : throwableClass ≠ objectClass := by decide
  constructor
  · intro hdoubt
    have hnone : ∀ m, Marked y x m → ¬ y.hierarchy.Descends a m := by
      intro m hm ham
      rw [subtyping_of_marked h hm ham] at hdoubt
      cases hdoubt
    obtain ⟨hnot, n, han, hn⟩ := (Hierarchy.subtyping_eq_unknown_iff htop).1 hdoubt
    refine ⟨(Hierarchy.subtyping_eq_unknown_iff htop).2 ⟨?_, n, ?_, ?_⟩, hnone⟩
    · exact fun hyes => hnot (descends_addThrown h hyes)
    · exact descends_of_unmarked h hnone han
    · exact ((unknown_iff_of_addThrown h).1 hn).1
  · rintro ⟨hdoubt, hnone⟩
    obtain ⟨hnot, n, han, hn⟩ := (Hierarchy.subtyping_eq_unknown_iff htop).1 hdoubt
    refine (Hierarchy.subtyping_eq_unknown_iff htop).2 ⟨?_, n, ?_, ?_⟩
    · exact fun hyes => hnot (descends_of_unmarked h hnone hyes)
    · exact descends_addThrown h han
    · exact (unknown_iff_of_addThrown h).2 ⟨hn, fun hm => hnone n hm han⟩

end

/-! ## Caught and thrown classes -/

/-- Each node that is caught or thrown is read once at its turn in the third pass and again by the
finished oracle. The class that it is read as at its turn is known ever after, and throwable if it
was not known before the pass. Of the class that it is read as in the end it is unknown whether it
is throwable exactly when this was unknown before the pass and the class descends from none that the
pass declares. Such a class was known before the pass, unless the node was read as another one at
its turn. -/
theorem thrown_unknown_iff {u : SourceUnit} {parent : Hierarchy} {x : Index}
    (hx : build u parent = .ok x) :
    ∃ y, addDeclarations (declarations u) (ofNames u parent) = .ok y ∧
      ∀ before c after, thrownNodes u = before ++ c :: after →
        ∃ z t s, addThrown before y = .ok z ∧ z.writtenType c = .ok t ∧ x.writtenType c = .ok s ∧
          (t.isClass = true → x.hierarchy.knows t.name = true ∧
            (y.hierarchy.knows t.name = false →
              x.hierarchy.subtyping t.name throwableClass = .yes)) ∧
          (s.isClass = true →
            (x.hierarchy.subtyping s.name throwableClass = .unknown ↔
              y.hierarchy.subtyping s.name throwableClass = .unknown ∧
                ∀ m, Marked y x m → ¬ y.hierarchy.Descends s.name m) ∧
            (x.hierarchy.subtyping s.name throwableClass = .unknown →
              y.hierarchy.knows s.name = true ∨ s ≠ t)) := by
  obtain ⟨y, hy, hthrown⟩ := exists_declared_of_build hx
  refine ⟨y, hy, fun before c after hnodes => ?_⟩
  obtain ⟨z, t, hz, ht, hafter⟩ := exists_turn_of_addThrown (hnodes ▸ hthrown)
  have hunit : z.unit = u := ((sameNames_turn (fun _ hd => hd) hy).trans
    (sameNames_addThrown hz)).unit.trans (unit_ofNames u parent)
  have hbelow : Cursor.Below z.unit.root c := by
    rw [hunit]
    exact below_of_mem_thrownNodes (hnodes ▸ List.mem_append_right _ List.mem_cons_self)
  obtain ⟨s, hs⟩ := exists_writtenType_of_unit (roomy_of_build hx)
    ((sameNames_addThrown hafter).unit.trans (sameNames_mark z t).unit) hbelow ht
  have hknown : t.isClass = true → x.hierarchy.knows t.name = true :=
    fun hclass => knows_addThrown hafter (knows_mark hclass)
  have hmarked : t.isClass = true → y.hierarchy.knows t.name = false → Marked y x t.name :=
    fun hclass hunknown => ⟨hunknown, hknown hclass⟩
  refine ⟨z, t, s, hz, ht, hs, fun hclass => ⟨hknown hclass, fun hunknown => ?_⟩,
    fun hclass => ⟨unknown_addThrown_iff hthrown, fun hdoubt => ?_⟩⟩
  · exact subtyping_of_marked hthrown (hmarked hclass hunknown) .refl
  · by_cases hsame : s = t
    · left
      cases hunknown : y.hierarchy.knows s.name with
      | true => rfl
      | false =>
        subst hsame
        have hnone := ((unknown_addThrown_iff hthrown).1 hdoubt).2
        exact absurd .refl (hnone _ (hmarked hclass hunknown))
    · exact .inr hsame

/-- A method that throws a class of the unit whose superclass is missing, a class of which nothing
is known, and a class of a package whose first part is thrown as a class behind it. -/
def thrower : SourceUnit where
  path := "A.java"
  source := Utf8.ofText
    "class M extends B \x7b\x7d class A \x7b void f() throws M, X, P.Q, java.lang.P \x7b\x7d \x7d"
  tree :=
    .node { kind := "program", start := 0, stop := 74 } [
      .node { kind := "class_declaration", start := 0, stop := 20 } [
        .node { kind := "class", isNamed := false, start := 0, stop := 5 } [],
        .node { kind := "identifier", start := 6, stop := 7, field := some "name" } [],
        .node { kind := "superclass", start := 8, stop := 17, field := some "superclass" } [
          .node { kind := "extends", isNamed := false, start := 8, stop := 15 } [],
          .node { kind := "type_identifier", start := 16, stop := 17 } []],
        .node { kind := "class_body", start := 18, stop := 20, field := some "body" } [
          .node { kind := "\x7b", isNamed := false, start := 18, stop := 19 } [],
          .node { kind := "\x7d", isNamed := false, start := 19, stop := 20 } []]],
      .node { kind := "class_declaration", start := 21, stop := 74 } [
        .node { kind := "class", isNamed := false, start := 21, stop := 26 } [],
        .node { kind := "identifier", start := 27, stop := 28, field := some "name" } [],
        .node { kind := "class_body", start := 29, stop := 74, field := some "body" } [
          .node { kind := "\x7b", isNamed := false, start := 29, stop := 30 } [],
          .node { kind := "method_declaration", start := 31, stop := 72 } [
            .node { kind := "void_type", start := 31, stop := 35, field := some "type" } [],
            .node { kind := "identifier", start := 36, stop := 37, field := some "name" } [],
            .node { kind := "formal_parameters", start := 37, stop := 39,
                    field := some "parameters" } [
              .node { kind := "(", isNamed := false, start := 37, stop := 38 } [],
              .node { kind := ")", isNamed := false, start := 38, stop := 39 } []],
            .node { kind := "throws", start := 40, stop := 69 } [
              .node { kind := "throws", isNamed := false, start := 40, stop := 46 } [],
              .node { kind := "type_identifier", start := 47, stop := 48 } [],
              .node { kind := ",", isNamed := false, start := 48, stop := 49 } [],
              .node { kind := "type_identifier", start := 50, stop := 51 } [],
              .node { kind := ",", isNamed := false, start := 51, stop := 52 } [],
              .node { kind := "scoped_type_identifier", start := 53, stop := 56 } [
                .node { kind := "type_identifier", start := 53, stop := 54 } [],
                .node { kind := ".", isNamed := false, start := 54, stop := 55 } [],
                .node { kind := "type_identifier", start := 55, stop := 56 } []],
              .node { kind := ",", isNamed := false, start := 56, stop := 57 } [],
              .node { kind := "scoped_type_identifier", start := 58, stop := 69 } [
                .node { kind := "scoped_type_identifier", start := 58, stop := 67 } [
                  .node { kind := "type_identifier", start := 58, stop := 62 } [],
                  .node { kind := ".", isNamed := false, start := 62, stop := 63 } [],
                  .node { kind := "type_identifier", start := 63, stop := 67 } []],
                .node { kind := ".", isNamed := false, start := 67, stop := 68 } [],
                .node { kind := "type_identifier", start := 68, stop := 69 } []]],
            .node { kind := "block", start := 70, stop := 72, field := some "body" } [
              .node { kind := "\x7b", isNamed := false, start := 70, stop := 71 } [],
              .node { kind := "\x7d", isNamed := false, start := 71, stop := 72 } []]],
          .node { kind := "\x7d", isNamed := false, start := 73, stop := 74 } []]]]

/-- Of the first and the third class it is unknown whether they are throwable: `M` descends from
none that the third pass declares, and `P.Q` means another class in the end. -/
theorem thrown_unknown_iff_thrower : ∃ x y,
    build thrower {} = .ok x ∧ addDeclarations (declarations thrower) (ofNames thrower {}) = .ok y ∧
      (thrownNodes thrower).map (fun c =>
        ((x.writtenType c).toOption.filter StaticType.isClass).map fun t =>
          (t.name, x.hierarchy.subtyping t.name throwableClass)) =
        [some ("M", .unknown), some ("X", .yes), some ("java.lang.P.Q", .unknown),
          some ("java.lang.P", .yes)] ∧
      y.hierarchy.knows "M" = true ∧ ∀ m, Marked y x m → ¬ y.hierarchy.Descends "M" m := by
  have hanswers : (build thrower {}).toOption.map (fun x => (thrownNodes thrower).map fun c =>
      ((x.writtenType c).toOption.filter StaticType.isClass).map fun t =>
        (t.name, x.hierarchy.subtyping t.name throwableClass)) =
      some [some ("M", .unknown), some ("X", .yes), some ("java.lang.P.Q", .unknown),
        some ("java.lang.P", .yes)] := by
    decide +kernel
  obtain ⟨x, hx, hanswers⟩ := Option.map_eq_some_iff.1 hanswers
  replace hx : build thrower {} = .ok x := eq_ok_of_toOption hx
  obtain ⟨y, hy, hthrown⟩ := thrown_unknown_iff hx
  obtain ⟨c, after, hnodes, hc, -⟩ := List.map_eq_cons_iff.1 hanswers
  obtain ⟨z, t, s, -, -, hs, -, hfinal⟩ := hthrown [] c after hnodes
  obtain ⟨s', hs', hM⟩ := Option.map_eq_some_iff.1 hc
  obtain ⟨hs', hclass⟩ := Option.filter_eq_some_iff.1 hs'
  obtain rfl : s = s' := Except.ok.inj (hs.symm.trans (eq_ok_of_toOption hs'))
  obtain ⟨hname, hdoubt⟩ := Prod.mk.inj hM
  obtain ⟨hiff, -⟩ := hfinal hclass
  have hknown : y.hierarchy.knows "M" = true := by
    have hall : (addDeclarations (declarations thrower) (ofNames thrower {})).toOption.map
        (fun y => y.hierarchy.knows "M") = some true := by
      decide +kernel
    rw [hy] at hall
    exact Option.some.inj hall
  exact ⟨x, y, hx, hy, hanswers, hknown, hname ▸ (hiff.1 hdoubt).2⟩

end CauseLint.Index
