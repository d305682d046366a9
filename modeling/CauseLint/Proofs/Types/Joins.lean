import CauseLint.Proofs.Hierarchy.Distance
import CauseLint.Proofs.Types.Memory

/-!
# Joins of throwables

The least class above several throwables is the first one, in the order of the ancestors of the
first throwable, that all of them descend from. Classes and interfaces stand mixed in this order, so
an interface that all of them implement can come before the throwable class that they have in
common, and then the join is no throwable. A parameter that catches several throwables and a choice
between two are typed by such joins.

Results:

* `Hierarchy.throws_leastUpperBound`: the join of throwables is above all of them, and when it is a
  throwable.
* `Hierarchy.MeetsThrown.of_nearer`, `Hierarchy.not_meetsThrown`: what distances say about it.
* `Index.hasType_of_caught`: the type of a use of a caught parameter.
* `Index.subtyping_joinTypes_iff`: when the join of the types of a choice is a throwable.
-/

namespace CauseLint

theorem StaticType.eq_cls_of_isClass (t : StaticType) (ht : t.isClass = true) :
    ∃ name args flag, t = .cls name args flag := by
  cases t with
  | cls name args flag => exact ⟨name, args, flag, rfl⟩
  | _ => cases ht

/-- A list in front of one of its entries and behind it. -/
theorem eq_take_append_cons {α : Type} {l : List α} {i : Nat} {a : α} (h : l[i]? = some a) :
    l = l.take i ++ a :: l.drop (i + 1) := by
  obtain ⟨hlt, hget⟩ := List.getElem?_eq_some_iff.1 h
  rw [← hget, ← List.drop_eq_getElem_cons hlt, List.take_append_drop]

/-- Among different things, what comes before one of them stands in front of it. -/
theorem mem_front_of_sublist {α : Type} {front back : List α} {d r : α}
    (hnodup : (front ++ r :: back).Nodup) (hsub : [d, r].Sublist (front ++ r :: back)) :
    d ∈ front := by
  obtain ⟨l₁, l₂, hl, hfront, hback⟩ := List.sublist_append_iff.1 hsub
  cases l₁ with
  | nil =>
    -- Both would be taken from `r :: back`, where `r` is the head and does not come again.
    rw [List.nil_append] at hl
    subst hl
    have hr : r ∈ back := by
      cases hback with
      | cons _ hsub => exact hsub.subset (by simp)
      | cons_cons _ hsub => exact hsub.subset (by simp)
    exact absurd hr (List.nodup_cons.1 (List.nodup_append.1 hnodup).2.1).1
  | cons e l₁ =>
    obtain ⟨rfl, -⟩ := List.cons.inj hl
    exact hfront.subset List.mem_cons_self

/-- What is found first among different things has a property when each other candidate without it
stands behind a candidate that has it. -/
theorem find?_judge {α : Type} {l : List α} (hnodup : l.Nodup) {p : α → Bool} {q : α → Prop} {r : α}
    (hr : l.find? p = some r) :
    q r ↔ ∀ c ∈ l, p c = true → ¬ q c → ∃ d, q d ∧ p d = true ∧ [d, c].Sublist l := by
  obtain ⟨hp, front, back, rfl, hfront⟩ := List.find?_eq_some_iff_append.1 hr
  have hbefore : ∀ d, p d = true → d ∉ front := fun d hd hmem => by simpa [hd] using hfront d hmem
  constructor
  · intro hq c hc hpc hqc
    have hne : c ≠ r := by
      rintro rfl
      exact hqc hq
    have hback : c ∈ back :=
      (List.mem_cons.1 ((List.mem_append.1 hc).resolve_left (hbefore c hpc))).resolve_left hne
    exact ⟨r, hq, hp, ((List.singleton_sublist.2 hback).cons_cons r).trans
      (List.sublist_append_right front _)⟩
  · intro hall
    by_contra hq
    obtain ⟨d, -, hpd, hsub⟩ := hall r (by simp) hp hq
    exact hbefore d hpd (mem_front_of_sublist hnodup hsub)

namespace Hierarchy

/-- A class is known to be throwable. -/
def Throws (h : Hierarchy) (c : String) : Prop := h.subtyping c throwableClass = .yes

/-- A class is above several others. -/
def Shared (h : Hierarchy) (first : String) (others : List String) (c : String) : Prop :=
  h.Descends first c ∧ ∀ n ∈ others, h.subtyping n c = .yes

/-- Going up from the first of several classes, a throwable that they share is met before everything
else that they share. -/
def MeetsThrown (h : Hierarchy) (first : String) (others : List String) : Prop :=
  ∀ c, h.Shared first others c → ¬ h.Throws c →
    ∃ d, h.Throws d ∧ h.Shared first others d ∧ h.Precedes first d c

variable {h : Hierarchy} {first : String} {others : List String}

theorem throws_iff {c : String} : h.Throws c ↔ h.Descends c throwableClass := by
  rw [Throws, subtyping_eq_yes_iff]
  exact or_iff_right (by decide)

/-- It is enough that a shared throwable is nearer. -/
theorem MeetsThrown.of_nearer (hnearer : ∀ c, h.Shared first others c → ¬ h.Throws c →
    ∃ d, h.Throws d ∧ h.Shared first others d ∧ h.Nearer first d c) :
    h.MeetsThrown first others := by
  intro c hc hthrows
  obtain ⟨d, hd, hshared, hdc⟩ := hnearer c hc hthrows
  exact ⟨d, hd, hshared, .of_nearer hdc hc.1⟩

/-- It fails when something else is nearer than every shared throwable. -/
theorem not_meetsThrown {c : String} (hc : h.Shared first others c) (hthrows : ¬ h.Throws c)
    (hnearer : ∀ d, h.Throws d → h.Shared first others d → h.Nearer first c d) :
    ¬ h.MeetsThrown first others := by
  intro hmeets
  obtain ⟨d, hd, hshared, hdc⟩ := hmeets c hc hthrows
  obtain ⟨m, hm, hless⟩ := hnearer d hd hshared
  obtain ⟨n, hle, hn⟩ := hdc.steps hm
  exact Nat.lt_irrefl n (Nat.lt_of_le_of_lt hle (hless n hn))

/-- A throwable alone meets itself. -/
theorem MeetsThrown.single (hfirst : h.Throws first) : h.MeetsThrown first [] := by
  refine .of_nearer fun c _ hthrows => ⟨first, hfirst, ⟨.refl, by simp⟩, 0, .refl, fun n hn => ?_⟩
  cases hn with
  | refl => exact absurd hfirst hthrows
  | tail => exact Nat.succ_pos _

/-- The join of throwables is above all of them. It is a throwable when they meet at one. -/
theorem throws_leastUpperBound {first : StaticType} {others : List StaticType}
    (hall : ∀ t ∈ first :: others, t.isClass = true ∧ h.Throws t.name) (default : String) :
    ∃ c, Index.leastUpperBound h (first :: others) default = .ofClass c ∧
      h.Shared first.name (others.map StaticType.name) c ∧
      (h.Throws c ↔ h.MeetsThrown first.name (others.map StaticType.name)) := by
  obtain ⟨⟨hclass, hthrows⟩, hothers⟩ := List.forall_mem_cons.1 hall
  obtain ⟨name, args, flag, rfl⟩ := first.eq_cls_of_isClass hclass
  have hclasses : others.all StaticType.isClass = true :=
    List.all_eq_true.2 fun t ht => (hothers t ht).1
  let above (c : String) : Bool := others.all fun t => h.subtyping t.name c = .yes
  have hshared : ∀ c, c ∈ h.ancestors name ∧ above c = true ↔
      h.Shared name (others.map StaticType.name) c := by
    intro c
    simp [above, Shared, mem_ancestors_iff]
  have hsome : ((h.ancestors name).find? above).isSome := by
    refine List.find?_isSome.2 ⟨throwableClass, mem_ancestors_iff.2 (throws_iff.1 hthrows), ?_⟩
    exact List.all_eq_true.2 fun t ht => decide_eq_true (hothers t ht).2
  obtain ⟨c, hc⟩ := Option.isSome_iff_exists.1 hsome
  refine ⟨c, ?_, (hshared c).1 ⟨List.mem_of_find?_eq_some hc, List.find?_some hc⟩, ?_⟩
  · have hc : ((h.ancestors name).find? fun candidate =>
        others.all fun t => h.subtyping t.name candidate = .yes) = some c := hc
    unfold Index.leastUpperBound
    dsimp only
    rw [if_pos hclasses, hc]
  · rw [find?_judge (nodup_ancestors h name) (q := h.Throws) hc]
    constructor
    · intro hjudge e he hnot
      obtain ⟨hmem, habove⟩ := (hshared e).2 he
      obtain ⟨d, hd, hdabove, hde⟩ := hjudge e hmem habove hnot
      exact ⟨d, hd, (hshared d).1 ⟨hde.subset List.mem_cons_self, hdabove⟩, hde⟩
    · intro hmeets e hmem habove hnot
      obtain ⟨d, hd, hdshared, hde⟩ := hmeets e ((hshared e).1 ⟨hmem, habove⟩) hnot
      exact ⟨d, hd, ((hshared d).2 hdshared).2, hde⟩

end Hierarchy

namespace Index

/-! ## Caught parameters -/

/-- The type of a parameter that catches several types. -/
def caughtType (h : Hierarchy) : List StaticType → StaticType
  | [single] => single
  | types => leastUpperBound h types throwableClass

/-- A parameter that catches throwables is a throwable when they meet at one. -/
theorem subtyping_caughtType {h : Hierarchy} {first : StaticType} {others : List StaticType}
    (hall : ∀ t ∈ first :: others, t.isClass = true ∧ h.Throws t.name) :
    (caughtType h (first :: others)).isClass = true ∧
      (h.Throws (caughtType h (first :: others)).name ↔
        h.MeetsThrown first.name (others.map StaticType.name)) := by
  cases others with
  | nil =>
    obtain ⟨hclass, hthrows⟩ := hall first List.mem_cons_self
    exact ⟨hclass, iff_of_true hthrows (.single hthrows)⟩
  | cons second others =>
    obtain ⟨c, hjoin, -, hiff⟩ := Hierarchy.throws_leastUpperBound hall throwableClass
    rw [caughtType, hjoin]
    · exact ⟨rfl, hiff⟩
    · simp

/-- The nodes of the types that a clause catches under a name. -/
def alternatives? (x : Index) (clause : Cursor) (name : String) : Option (List Cursor) :=
  (firstOfKind ["catch_formal_parameter"] clause.parts).bind fun parameter =>
    if x.unit.textOf? (parameter.childByField? "name") = name then
      (firstOfKind ["catch_type"] parameter.parts).map Cursor.parts
    else none

/-- A clause catches values of several written types under a name. -/
def Catches (x : Index) (clause : Cursor) (name : String) (types : List StaticType) : Prop :=
  clause.kind = "catch_clause" ∧ ∃ cs, x.alternatives? clause name = some cs ∧
    List.Forall₂ (fun c t => x.writtenType c = .ok t) cs types

/-- An identifier means the parameter of a clause around it: no node between the two binds its
name. -/
structure MeansCaught (x : Index) (use : Cursor) (types : List StaticType) : Prop where
  kind : use.kind = "identifier"
  bound : ∃ inner clause outer, use.parents = inner ++ clause :: outer ∧
    x.Catches clause (x.unit.textOf use) types ∧
    ∃ depth, ∀ scope ∈ inner,
      outcome (boundBy x (x.plainWithin depth) (x.unit.textOf use) use scope) {} = .ok none

section

variable {x : Index} {c use clause : Cursor} {name : String} {types : List StaticType}

/-- Types are read off the tree one by one. -/
theorem outcome_writtenTypes_iff {cs : List Cursor} {memo : Memo} :
    outcome (writtenTypes x cs) memo = .ok types ↔
      List.Forall₂ (fun c t => x.writtenType c = .ok t) cs types := by
  induction cs generalizing types with
  | nil =>
    rw [List.forall₂_nil_left_iff]
    exact ⟨fun h => (Except.ok.inj h).symm, fun h => h ▸ rfl⟩
  | cons c cs ih =>
    rw [List.forall₂_cons_left_iff]
    constructor
    · intro h
      obtain ⟨t, ht, h⟩ := outcome_bind_eq_ok h
      obtain ⟨ts, hts, h⟩ := outcome_bind_eq_ok h
      exact ⟨t, ts, ht, ih.1 hts, (Except.ok.inj h).symm⟩
    · rintro ⟨t, ts, ht, hts, rfl⟩
      rw [writtenTypes, written, writtenType?, ht, outcome_bind]
      dsimp only [outcome_read, memoAfter_read]
      rw [outcome_bind, ih.2 hts]
      rfl

/-- The type under which a clause catches. -/
theorem outcome_caughtVariable (h : x.Catches clause name types) (memo : Memo) :
    outcome (caughtVariable x name clause) memo = .ok (some (caughtType x.hierarchy types)) := by
  obtain ⟨-, cs, hcs, hwritten⟩ := h
  obtain ⟨parameter, hparameter, hcs⟩ := Option.bind_eq_some_iff.1 hcs
  split at hcs
  · rename_i hname
    obtain ⟨alternatives, halternatives, rfl⟩ := Option.map_eq_some_iff.1 hcs
    rw [caughtVariable, hparameter]
    dsimp only
    rw [if_pos hname, halternatives]
    dsimp only
    rw [outcome_bind, outcome_writtenTypes_iff.2 hwritten]
    rcases types with _ | ⟨first, _ | ⟨second, others⟩⟩ <;> rfl
  · cases hcs

/-- The innermost node that binds a name decides. -/
theorem outcome_variableIn {f : Cursor → Typing StaticType} {inner outer : List Cursor}
    {t : StaticType} {memo : Memo}
    (hbound : outcome (boundBy x f name use clause) memo = .ok (some t))
    (hinner : ∀ scope ∈ inner, outcome (boundBy x f name use scope) memo = .ok none ∧
      memoAfter (boundBy x f name use scope) memo = memo) :
    outcome (variableIn x f name use (inner ++ clause :: outer)) memo = .ok (some t) := by
  induction inner with
  | nil =>
    rw [List.nil_append, variableIn, orElse, outcome_bind, hbound]
    rfl
  | cons scope inner ih =>
    obtain ⟨⟨hnone, hmemo⟩, hinner⟩ := List.forall_mem_cons.1 hinner
    rw [List.cons_append, variableIn, orElse, outcome_bind, hnone, hmemo]
    exact ih hinner

/-- A use has the type of the variable that it means. -/
theorem hasType_of_variable (hkind : c.kind = "identifier") (depth : Nat) {t : StaticType}
    (h : outcome (variableIn x (x.plainWithin depth) (x.unit.textOf c) c c.parents) {} =
      .ok (some t)) : x.HasType c t := by
  refine ⟨depth + 1, ?_⟩
  rw [plainWithin, compute, hkind]
  show outcome (identifierType x (x.plainWithin depth) c) {} = _
  rw [identifierType, outcome_bind, h]
  rfl

/-- A use of a caught parameter has the type under which the clause catches. -/
theorem hasType_of_caught (hx : x.Rooted) (hc : Cursor.Below x.unit.root c)
    (hcaught : x.MeansCaught c types) :
    x.HasType c (caughtType x.hierarchy types) := by
  obtain ⟨hkind, inner, clause, outer, hparents, hcatches, depth, hinner⟩ := hcaught
  have hbound : outcome (boundBy x (x.plainWithin depth) (x.unit.textOf c) c clause) {} =
      .ok (some (caughtType x.hierarchy types)) := by
    rw [boundBy, hcatches.1]
    exact outcome_caughtVariable hcatches {}
  have hsteady : ∀ scope ∈ inner,
      memoAfter (boundBy x (x.plainWithin depth) (x.unit.textOf c) c scope) {} = {} := by
    intro scope hscope
    have hbelow : Cursor.Below x.unit.root scope :=
      Cursor.parents_below rfl hc (hparents ▸ List.mem_append_left _ hscope)
    exact ((respected_steady x).boundBy (g := x.plainWithin depth) (steady_plainWithin hx depth) hx _
      c hbelow {}).2
  have hvariable : outcome (variableIn x (x.plainWithin depth) (x.unit.textOf c) c
      (inner ++ clause :: outer)) {} = .ok (some (caughtType x.hierarchy types)) :=
    outcome_variableIn hbound fun scope hscope => ⟨hinner scope hscope, hsteady scope hscope⟩
  exact hasType_of_variable hkind depth (hparents ▸ hvariable)

/-! ## Choices -/

/-- The type of a choice between two typed expressions. -/
theorem hasType_of_choice (hx : x.Rooted) (hc : Cursor.Below x.unit.root c)
    (hkind : c.kind = "ternary_expression") {a b : Cursor} {s t : StaticType}
    (ha : c.childByField? "consequence" = some a) (hb : c.childByField? "alternative" = some b)
    (hs : x.HasType a s) (ht : x.HasType b t) :
    x.HasType c (joinTypes x.hierarchy s t) := by
  obtain ⟨m, hs⟩ := hs
  obtain ⟨n, ht⟩ := ht
  have hbelow : Cursor.Below x.unit.root a := hc.trans (Cursor.below_of_childByField? ha)
  have hbelow' : Cursor.Below x.unit.root b := hc.trans (Cursor.below_of_childByField? hb)
  refine ⟨max m n + 1, ?_⟩
  have hs := outcome_plainWithin_mono hx hbelow (Nat.le_max_left m n) hs
  have ht := outcome_plainWithin_mono hx hbelow' (Nat.le_max_right m n) ht
  have hmemo := (steady_plainWithin hx (max m n) a hbelow {}).2
  rw [plainWithin, compute, hkind]
  show outcome (choiceType x (x.plainWithin (max m n)) c) {} = _
  rw [choiceType, ha, hb, typeOf?, typeOf?, outcome_bind, hs, hmemo]
  dsimp only
  rw [outcome_bind, ht]
  rfl

/-- A choice is always null when both branches are. -/
theorem isNull_joinTypes (h : Hierarchy) (s t : StaticType) :
    (joinTypes h s t).isNull = (s.isNull && t.isNull) := by
  have hlub : (leastUpperBound h [s, t] objectClass).isNull = false := by
    unfold leastUpperBound
    split
    · split
      · split <;> rfl
      · rfl
    · rfl
  unfold joinTypes
  split
  · rename_i hs
    rw [hs, Bool.true_and]
  rename_i hs
  rw [Bool.not_eq_true] at hs
  rw [hs, Bool.false_and]
  split
  · exact hs
  split
  · split
    · rfl
    split
    · rfl
    · exact hlub
  · rfl

/-- A throwable type other than the null type is a throwable class. -/
theorem class_of_subtyping {t : StaticType} (ht : x.subtyping t throwableClass = .yes)
    (hnull : ¬ t.isNull = true) : t.isClass = true ∧ x.hierarchy.Throws t.name := by
  cases t with
  | cls name args flag => exact ⟨rfl, ht⟩
  | null flag => exact absurd rfl hnull
  | primitive name flag => cases ht
  | array element flag => cases ht
  | void flag => cases ht
  | error flag => cases ht

/-- A choice between throwables is one when a branch is null, when one descends from the other, and
else when they meet at a throwable. -/
theorem subtyping_joinTypes_iff {s t : StaticType} (hs : x.subtyping s throwableClass = .yes)
    (ht : x.subtyping t throwableClass = .yes) :
    x.subtyping (joinTypes x.hierarchy s t) throwableClass = .yes ↔
      s.isNull ∨ t.isNull ∨ x.hierarchy.subtyping s.name t.name = .yes ∨
        x.hierarchy.subtyping t.name s.name = .yes ∨
        x.hierarchy.MeetsThrown s.name [t.name] := by
  unfold joinTypes
  split
  · rename_i hnull
    exact iff_of_true ht (.inl hnull)
  rename_i hsnull
  rw [or_iff_right hsnull]
  split
  · rename_i hsame
    rw [Bool.or_eq_true, beq_iff_eq] at hsame
    refine iff_of_true hs (hsame.imp_right ?_)
    rintro rfl
    exact .inl (Hierarchy.subtyping_eq_yes_iff.2 (.inr .refl))
  rename_i hdiffer
  rw [Bool.or_eq_true, not_or] at hdiffer
  rw [or_iff_right hdiffer.1]
  have hsclass := class_of_subtyping hs hsnull
  have htclass := class_of_subtyping ht hdiffer.1
  have hall : ∀ r ∈ [s, t], r.isClass = true ∧ x.hierarchy.Throws r.name := by
    simp [hsclass, htclass]
  obtain ⟨c, hjoin, -, hiff⟩ := Hierarchy.throws_leastUpperBound hall objectClass
  obtain ⟨m, margs, mflag, rfl⟩ := s.eq_cls_of_isClass hsclass.1
  obtain ⟨n, nargs, nflag, rfl⟩ := t.eq_cls_of_isClass htclass.1
  dsimp only [StaticType.name]
  split
  · rename_i hmn
    exact iff_of_true ht (.inl hmn)
  rename_i hmn
  rw [or_iff_right hmn]
  split
  · rename_i hnm
    exact iff_of_true hs (.inl hnm)
  rename_i hnm
  rw [or_iff_right hnm, hjoin]
  exact hiff

end

end Index

end CauseLint
