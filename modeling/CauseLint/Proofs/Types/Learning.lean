import CauseLint.Proofs.Types.Passes

/-!
# What is learned about classes

A hierarchy learns a class when the class is declared and nothing was known of it before, neither in
the own layer nor in any other. The name of the class may stand among the supertypes of others long
before, and its own supertypes may lead back to these. A definite answer about two classes does not
rest on the class that is learned: a path that is found consists of declared classes up to its last
name, and a path is missed for certain only where all ancestors are declared.

Results:

* `Hierarchy.subtyping_of_grown`: a hierarchy that knows more keeps the definite answers.
* `Hierarchy.doubt_of_changed`: an answer that changes was in doubt over a class that is learned.
* `Index.hierarchy_addThrown`: the third pass of an index learns classes and does nothing else.
* `Index.learning_resolves_doubts`: only doubts are resolved when classes are learned.
-/

namespace CauseLint

namespace Hierarchy

/-- A hierarchy grows into another one that knows all that it knows, and the same of it. -/
def GrowsInto (h k : Hierarchy) : Prop := ∀ a info, h.get? a = some info → k.get? a = some info

/-- Declare several classes one after another. -/
def declareAll (h : Hierarchy) (infos : List ClassInfo) : Hierarchy := infos.foldl declare h

/-- At the turn of each class nothing is known of it. -/
def Fresh : Hierarchy → List ClassInfo → Prop
  | _, [] => True
  | h, info :: infos => h.knows info.name = false ∧ Fresh (h.declare info) infos

variable {h k l : Hierarchy} {a b sub sup : String}

/-! ## Growing -/

theorem GrowsInto.refl (h : Hierarchy) : h.GrowsInto h := fun _ _ hinfo => hinfo

theorem GrowsInto.trans (hk : h.GrowsInto k) (hl : k.GrowsInto l) : h.GrowsInto l :=
  fun a info hinfo => hl a info (hk a info hinfo)

theorem knows_iff_exists : h.knows a = true ↔ ∃ info, h.get? a = some info :=
  Option.isSome_iff_exists

theorem knows_declare {info : ClassInfo} :
    (h.declare info).knows a = true ↔ a = info.name ∨ h.knows a = true := by
  rw [knows, get?_declare]
  split
  · rename_i heq
    exact iff_of_true rfl (.inl heq)
  · rename_i hne
    exact (or_iff_right hne).symm

/-- A hierarchy grows when it learns a class. -/
theorem growsInto_declare {info : ClassInfo} (hnew : h.knows info.name = false) :
    h.GrowsInto (h.declare info) := by
  intro a old hold
  rw [get?_declare, if_neg]
  · exact hold
  · rintro rfl
    have hknown : h.knows info.name = true := knows_iff_exists.2 ⟨old, hold⟩
    rw [hnew] at hknown
    cases hknown

theorem growsInto_declareAll {infos : List ClassInfo} (hfresh : h.Fresh infos) :
    h.GrowsInto (h.declareAll infos) := by
  induction infos generalizing h with
  | nil => exact .refl h
  | cons info infos ih => exact (growsInto_declare hfresh.1).trans (ih hfresh.2)

/-- What is known in the end was known before or is declared on the way. -/
theorem knows_declareAll {infos : List ClassInfo} (hknown : (h.declareAll infos).knows a = true) :
    h.knows a = true ∨ ∃ info ∈ infos, info.name = a := by
  induction infos generalizing h with
  | nil => exact .inl hknown
  | cons info infos ih =>
    rcases ih hknown with hknown | ⟨other, hmem, hname⟩
    · rcases knows_declare.1 hknown with heq | hknown
      · exact .inr ⟨info, List.mem_cons_self, heq.symm⟩
      · exact .inl hknown
    · exact .inr ⟨other, List.mem_cons_of_mem _ hmem, hname⟩

theorem declareAll_concat (h : Hierarchy) (infos : List ClassInfo) (info : ClassInfo) :
    h.declareAll (infos ++ [info]) = (h.declareAll infos).declare info := by
  rw [declareAll, List.foldl_append]
  rfl

theorem fresh_concat {infos : List ClassInfo} {info : ClassInfo} :
    h.Fresh (infos ++ [info]) ↔
      h.Fresh infos ∧ (h.declareAll infos).knows info.name = false := by
  induction infos generalizing h with
  | nil => simp [Fresh, declareAll]
  | cons first infos ih =>
    rw [List.cons_append, Fresh, Fresh, ih, and_assoc]
    rfl

/-! ## Paths -/

theorem GrowsInto.extends (hk : h.GrowsInto k) (hab : h.Extends a b) : k.Extends a b := by
  obtain ⟨info, hinfo, hb⟩ := hab
  exact ⟨info, hk a info hinfo, hb⟩

/-- Descent is kept. -/
theorem GrowsInto.descends (hk : h.GrowsInto k) (hab : h.Descends a b) : k.Descends a b :=
  Relation.ReflTransGen.mono (fun _ _ hstep => hk.extends hstep) _ _ hab

/-- A path was there before unless it goes through a name that is learned. -/
theorem GrowsInto.descends_or_learned (hk : h.GrowsInto k) (hab : k.Descends a b) :
    h.Descends a b ∨ ∃ n, h.Descends a n ∧ h.knows n = false ∧ k.knows n = true := by
  induction hab with
  | refl => exact .inl .refl
  | @tail b c _ hstep ih =>
    rcases ih with hab | hlearned
    · obtain ⟨info, hinfo, hc⟩ := hstep
      cases hb : h.get? b with
      | none => exact .inr ⟨b, hab, by rw [knows, hb]; rfl, knows_iff_exists.2 ⟨info, hinfo⟩⟩
      | some old =>
        obtain rfl : old = info := Option.some.inj ((hk b old hb).symm.trans hinfo)
        exact .inl (hab.tail ⟨old, hb, hc⟩)
    · exact .inr hlearned

/-! ## Answers -/

/-- A hierarchy that knows more keeps the definite answers. -/
theorem subtyping_of_grown (hk : h.GrowsInto k) (hdefinite : h.subtyping sub sup ≠ .unknown) :
    k.subtyping sub sup = h.subtyping sub sup := by
  by_cases htop : sup = objectClass
  · rw [htop, subtyping_objectClass, subtyping_objectClass]
  have hold : h.Answers sub sup (h.subtyping sub sup) := answers_subtyping htop
  have hnew : k.Answers sub sup (k.subtyping sub sup) := answers_subtyping htop
  refine hnew.unique ?_
  cases hanswer : h.subtyping sub sup with
  | yes =>
    rw [hanswer] at hold
    exact hk.descends hold
  | no =>
    rw [hanswer] at hold
    obtain ⟨hnot, hall⟩ := hold
    -- All ancestors were known, so no path goes through a name that is learned.
    have hback : ∀ n, k.Descends sub n → h.Descends sub n := by
      intro n hn
      refine (hk.descends_or_learned hn).resolve_right ?_
      rintro ⟨m, hm, hunknown, -⟩
      rw [hall m hm] at hunknown
      cases hunknown
    refine ⟨fun hsup => hnot (hback sup hsup), fun n hn => ?_⟩
    obtain ⟨info, hinfo⟩ := knows_iff_exists.1 (hall n (hback n hn))
    exact knows_iff_exists.2 ⟨info, hk n info hinfo⟩
  | unknown => exact absurd hanswer hdefinite

/-- An answer that changes was in doubt, and a class is learned that the first one descends from. -/
theorem doubt_of_changed (hk : h.GrowsInto k)
    (hchanged : k.subtyping sub sup ≠ h.subtyping sub sup) :
    h.subtyping sub sup = .unknown ∧
      ∃ n, h.Descends sub n ∧ h.knows n = false ∧ k.knows n = true := by
  have hdoubt : h.subtyping sub sup = .unknown :=
    Decidable.byContradiction fun hdefinite => hchanged (subtyping_of_grown hk hdefinite)
  refine ⟨hdoubt, Classical.byContradiction fun hnone => ?_⟩
  have htop : sup ≠ objectClass := by
    rintro rfl
    rw [subtyping_objectClass] at hdoubt
    cases hdoubt
  obtain ⟨hnot, n, hn, hunknown⟩ := (subtyping_eq_unknown_iff htop).1 hdoubt
  refine hchanged (hdoubt ▸ (subtyping_eq_unknown_iff htop).2 ⟨fun hsup => ?_, n, ?_, ?_⟩)
  · exact (hk.descends_or_learned hsup).elim hnot hnone
  · exact hk.descends hn
  · exact Bool.eq_false_iff.2 fun hknown => hnone ⟨n, hn, hunknown, hknown⟩

end Hierarchy

/-! ## Caught and thrown classes -/

namespace Index

/-- The third pass learns classes below `java.lang.Throwable` one after another and leaves the rest
of the hierarchy. -/
theorem hierarchy_addThrown {x y : Index} {cs : List Cursor} (hx : addThrown cs y = .ok x) :
    ∃ infos, y.hierarchy.Fresh infos ∧ (∀ info ∈ infos, info.supertypes = [throwableClass]) ∧
      x.hierarchy = y.hierarchy.declareAll infos := by
  refine addThrown_induction (p := fun z => ∃ infos, y.hierarchy.Fresh infos ∧
    (∀ info ∈ infos, info.supertypes = [throwableClass]) ∧
      z.hierarchy = y.hierarchy.declareAll infos) ?_ ⟨[], trivial, by simp, rfl⟩ hx
  rintro z t ⟨infos, hfresh, hsupers, hz⟩
  unfold mark
  split
  · rename_i hnew
    have hunknown : z.hierarchy.knows t.name = false := by
      simpa using (Bool.and_eq_true_iff.1 hnew).2
    refine ⟨infos ++ [{ name := t.name, supertypes := [throwableClass] }], ?_, ?_, ?_⟩
    · exact Hierarchy.fresh_concat.2 ⟨hfresh, hz ▸ hunknown⟩
    · intro info hinfo
      rcases List.mem_append.1 hinfo with hinfo | hinfo
      · exact hsupers info hinfo
      · rw [List.mem_singleton.1 hinfo]
    · rw [Hierarchy.declareAll_concat, ← hz]
  · exact ⟨infos, hfresh, hsupers, hz⟩

/-- Learning classes, one or several, leaves every definite answer as it was. An answer can change
only if it was in doubt, and only where the first class descends from one that is learned. The
classes that an index declares because they are caught or thrown are learned in this way. -/
theorem learning_resolves_doubts :
    (∀ (h : Hierarchy) (infos : List ClassInfo), h.Fresh infos → ∀ sub sup,
      (h.subtyping sub sup ≠ .unknown →
        (h.declareAll infos).subtyping sub sup = h.subtyping sub sup) ∧
      ((h.declareAll infos).subtyping sub sup ≠ h.subtyping sub sup →
        h.subtyping sub sup = .unknown ∧ ∃ info ∈ infos, h.Descends sub info.name)) ∧
    ∀ (y x : Index) (cs : List Cursor), addThrown cs y = .ok x →
      (∃ infos, y.hierarchy.Fresh infos ∧ (∀ info ∈ infos, info.supertypes = [throwableClass]) ∧
        x.hierarchy = y.hierarchy.declareAll infos) ∧
      ∀ sub sup, y.hierarchy.subtyping sub sup ≠ .unknown →
        x.hierarchy.subtyping sub sup = y.hierarchy.subtyping sub sup := by
  constructor
  · intro h infos hfresh sub sup
    have hgrown : h.GrowsInto (h.declareAll infos) := Hierarchy.growsInto_declareAll hfresh
    refine ⟨Hierarchy.subtyping_of_grown hgrown, fun hchanged => ?_⟩
    obtain ⟨hdoubt, n, hn, hunknown, hknown⟩ := Hierarchy.doubt_of_changed hgrown hchanged
    refine ⟨hdoubt, ?_⟩
    rcases Hierarchy.knows_declareAll hknown with hold | ⟨info, hinfo, rfl⟩
    · rw [hunknown] at hold
      cases hold
    · exact ⟨info, hinfo, hn⟩
  · intro y x cs hx
    obtain ⟨infos, hfresh, hsupers, hhierarchy⟩ := hierarchy_addThrown hx
    refine ⟨⟨infos, hfresh, hsupers, hhierarchy⟩, fun sub sup hdefinite => ?_⟩
    rw [hhierarchy]
    exact Hierarchy.subtyping_of_grown (Hierarchy.growsInto_declareAll hfresh) hdefinite

/-- A class below another one that nothing declares, and a clause that catches the other one. -/
def orphaned : Index where
  unit :=
    { path := "A.java"
      source := Utf8.ofText "X"
      tree :=
        .node { kind := "catch_type", start := 0, stop := 1 } [
          .node { kind := "type_identifier", start := 0, stop := 1 } []] }
  hierarchy := Hierarchy.declare {} { name := "A", supertypes := ["X"] }

/-- The class above leads back to the one below when it is declared, and to a further one, which is
declared behind it. -/
def circleBack : List ClassInfo := [{ name := "X", supertypes := ["A", "Y"] }, { name := "Y" }]

/-- That `A` descends from `X` stays, whether `X` is declared or caught. That it does not descend
from `Z`, and that it is throwable, was in doubt before. -/
theorem learning_resolves_doubts_orphaned :
    let h := orphaned.hierarchy
    h.Fresh circleBack ∧ h.subtyping "A" "X" = .yes ∧
      (h.declareAll circleBack).subtyping "A" "X" = .yes ∧
      (h.declareAll circleBack).subtyping "A" "Z" = .no ∧
      h.subtyping "A" "Z" = .unknown ∧ (∃ info ∈ circleBack, h.Descends "A" info.name) ∧
    ∃ x, addThrown (thrownNodes orphaned.unit) orphaned = .ok x ∧
      x.hierarchy.subtyping "A" "X" = .yes ∧
      h.subtyping "A" throwableClass = .unknown ∧
      x.hierarchy.subtyping "A" throwableClass = .yes := by
  intro h
  obtain ⟨hlearned, hcaught⟩ := learning_resolves_doubts
  have hfresh : h.Fresh circleBack :=
    ⟨by decide +kernel, by decide +kernel, trivial⟩
  have hyes : h.subtyping "A" "X" = .yes := by decide +kernel
  have hdefinite : h.subtyping "A" "X" ≠ .unknown := by rw [hyes]; decide
  have hno : (h.declareAll circleBack).subtyping "A" "Z" = .no := by decide +kernel
  have hopen : h.subtyping "A" "Z" = .unknown := by decide +kernel
  obtain ⟨hkept, -⟩ := hlearned h circleBack hfresh "A" "X"
  obtain ⟨-, hchanged⟩ := hlearned h circleBack hfresh "A" "Z"
  obtain ⟨-, hwhere⟩ := hchanged (by rw [hno, hopen]; decide)
  have hpass : (addThrown (thrownNodes orphaned.unit) orphaned).toOption.map (fun x =>
      x.hierarchy.subtyping "A" throwableClass) = some .yes := by
    decide +kernel
  obtain ⟨x, hx, hthrown⟩ := Option.map_eq_some_iff.1 hpass
  replace hx := eq_ok_of_toOption hx
  obtain ⟨-, hstays⟩ := hcaught orphaned x _ hx
  exact ⟨hfresh, hyes, (hkept hdefinite).trans hyes, hno, hopen, hwhere, x, hx,
    (hstays "A" "X" hdefinite).trans hyes, by decide +kernel, hthrown⟩

end Index

end CauseLint
