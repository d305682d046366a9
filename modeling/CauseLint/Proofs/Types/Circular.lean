import CauseLint.Proofs.Syntax.Traversal
import CauseLint.Proofs.Types.Passes

/-!
# Types that lead back to themselves

Reading a type node asks for the types of other nodes: the element of an array, the parts of a
generic type, the bound of a type variable. A node is circular when this leads to some node a second
time. As a unit has finitely many nodes, the depth that readings are given is enough for all others,
so a written type is found exactly when its node is not circular.

Results:

* `Index.isOk_typeWithin_succ`: a reading succeeds when the readings it asks for do.
* `Index.isOk_writtenType_iff`: the nodes that have a type.
* `Index.isOk_build_iff`: the units that can be indexed.
-/

namespace CauseLint

theorem isOk_bind_iff {ε α β : Type} {x : Except ε α} {f : α → Except ε β} :
    (x >>= f).isOk ↔ ∃ a, x = .ok a ∧ (f a).isOk := by
  cases x with
  | error e =>
    constructor
    · intro h
      cases h
    · rintro ⟨a, h, -⟩
      cases h
  | ok a =>
    constructor
    · intro h
      exact ⟨a, rfl, h⟩
    · rintro ⟨b, h, hb⟩
      obtain rfl := Except.ok.inj h
      exact hb

theorem isOk_iff_exists {ε α : Type} {x : Except ε α} : x.isOk ↔ ∃ a, x = .ok a := by
  cases x with
  | error e =>
    constructor
    · intro h
      cases h
    · rintro ⟨a, h⟩
      cases h
  | ok a => exact iff_of_true rfl ⟨a, rfl⟩

/-- Two parts succeed one after the other, where the second does not depend on the first. -/
theorem isOk_bind_and {ε α β : Type} {x : Except ε α} {f : α → Except ε β} {q : Prop}
    (h : ∀ a, (f a).isOk ↔ q) : (x >>= f).isOk ↔ x.isOk ∧ q := by
  rw [isOk_bind_iff, isOk_iff_exists]
  constructor
  · rintro ⟨a, ha, hf⟩
    exact ⟨⟨a, ha⟩, (h a).1 hf⟩
  · rintro ⟨⟨a, ha⟩, hq⟩
    exact ⟨a, ha, (h a).2 hq⟩

theorem isOk_bind_ok {ε α β : Type} {x : Except ε α} {f : α → Except ε β}
    (h : ∀ a, (f a).isOk) : (x >>= f).isOk ↔ x.isOk := by
  rw [isOk_bind_and fun a => iff_true_intro (h a), and_true]

namespace Index

/-! ## What a reading asks for -/

/-- The type nodes that the reading of a type node asks for. -/
def reads (u : SourceUnit) (c : Cursor) : List Cursor :=
  if c.kind = "annotated_type" then c.parts.getLast?.toList
  else if c.kind = "array_type" then (c.childByField? "element").toList
  else if c.kind = "generic_type" then
    (c.parts.find? (·.kind ≠ "type_arguments")).toList ++
      (((firstOfKind ["type_arguments"] c.parts).map Cursor.parts).getD []).filter
        (·.kind ≠ "wildcard")
  else if c.kind = "type_identifier" then
    ((typeParameter? u (u.textOf c) c).bind firstBound?).toList
  else []

theorem isOk_argumentTypes_iff {read : Cursor → Except Endless StaticType} {cs : List Cursor} :
    (argumentTypes read cs).isOk ↔ ∀ c ∈ cs.filter (·.kind ≠ "wildcard"), (read c).isOk := by
  induction cs with
  | nil => exact iff_of_true rfl (by simp)
  | cons c cs ih =>
    have hrest : ∀ t : StaticType,
        (argumentTypes read cs >>= fun ts => (pure (t :: ts) : Except Endless _)).isOk ↔
          (argumentTypes read cs).isOk := fun t => isOk_bind_ok fun ts => rfl
    by_cases hk : c.kind = "wildcard"
    · rw [List.filter_cons_of_neg (by simpa using hk), ← ih]
      simp only [argumentTypes, hk, if_true]
      exact hrest _
    · rw [List.filter_cons_of_pos (by simpa using hk), List.forall_mem_cons, ← ih]
      simp only [argumentTypes, hk, if_false]
      exact isOk_bind_and hrest

/-- A reading succeeds when the readings it asks for do. -/
theorem isOk_typeWithin_succ (x : Index) (depth : Nat) (c : Cursor) :
    (x.typeWithin (depth + 1) c).isOk ↔ ∀ r ∈ reads x.unit c, (x.typeWithin depth r).isOk := by
  rw [typeWithin]
  split
  · rename_i hk
    refine iff_of_true rfl ?_
    have hk : c.kind = "integral_type" ∨ c.kind = "floating_point_type" ∨
        c.kind = "boolean_type" := by simpa using hk
    rcases hk with hk | hk | hk <;> simp [reads, hk]
  split
  · rename_i hk
    exact iff_of_true rfl (by simp [reads, hk])
  split
  · rename_i hk
    simp only [reads, hk, if_true, Option.mem_toList]
    cases c.parts.getLast? with
    | none => exact iff_of_true rfl (by simp)
    | some inner => simp
  split
  · rename_i hk
    have hreads : reads x.unit c = (c.childByField? "element").toList := by simp [reads, hk]
    rw [hreads]
    cases c.childByField? "element" with
    | none => exact iff_of_true rfl (by simp)
    | some e =>
      simp only [Option.toList_some, List.mem_singleton, forall_eq]
      exact isOk_bind_ok fun t => rfl
  split
  · rename_i hk
    have hreads : reads x.unit c = (c.parts.find? (·.kind ≠ "type_arguments")).toList ++
        (((firstOfKind ["type_arguments"] c.parts).map Cursor.parts).getD []).filter
          (·.kind ≠ "wildcard") := by simp [reads, hk]
    have hargs : ∀ f : List StaticType → Except Endless StaticType, (∀ args, (f args).isOk) →
        ((argumentTypes (x.typeWithin depth)
          (((firstOfKind ["type_arguments"] c.parts).map Cursor.parts).getD []) >>= f).isOk ↔ _) :=
      fun f hf => (isOk_bind_ok hf).trans isOk_argumentTypes_iff
    rw [hreads, List.forall_mem_append]
    cases c.parts.find? (·.kind ≠ "type_arguments") with
    | none =>
      simp only [Option.toList_none, List.not_mem_nil, false_imp_iff, implies_true, true_and]
      exact hargs _ fun args => rfl
    | some base =>
      simp only [Option.toList_some, List.mem_singleton, forall_eq]
      refine isOk_bind_and fun t => hargs _ ?_
      intro args
      cases t <;> rfl
  split
  · rename_i hk
    have hreads : reads x.unit c =
        ((typeParameter? x.unit (x.unit.textOf c) c).bind firstBound?).toList := by
      simp [reads, hk]
    rw [hreads]
    dsimp only
    cases typeParameter? x.unit (x.unit.textOf c) c with
    | none => exact iff_of_true rfl (by simp)
    | some parameter =>
      rw [Option.bind_some]
      dsimp only
      cases firstBound? parameter with
      | none => exact iff_of_true rfl (by simp)
      | some bound => simp
  split
  · rename_i hk
    exact iff_of_true rfl (by simp [reads, hk])
  · rename_i hk1 hk2 hk3 hk4 hk5 hk6
    exact iff_of_true rfl (by simp [reads, *])

/-! ## The nodes that are read -/

theorem below_of_firstBound? {p d : Cursor} (h : firstBound? p = some d) : Cursor.Below p d := by
  obtain ⟨bound, hb, hd⟩ := Option.bind_eq_some_iff.1 h
  exact (Cursor.below_of_mem_parts (List.mem_of_find?_eq_some hb)).trans
    (Cursor.below_of_mem_parts (List.mem_of_head? hd))

theorem below_of_mem_partsOf {c d : Cursor} {x : Option Cursor}
    (hx : ∀ e, x = some e → Cursor.Below c e) (h : d ∈ (x.map Cursor.parts).getD []) :
    Cursor.Below c d := by
  cases x with
  | none => cases h
  | some e => exact (hx e rfl).trans (Cursor.below_of_mem_parts h)

/-- A type parameter in scope at a node is declared at a node above it. -/
theorem below_of_typeParameter? {u : SourceUnit} {name : String} {c p : Cursor}
    (h : typeParameter? u name c = some p) : ∃ outer ∈ c.parents, Cursor.Below outer p := by
  obtain ⟨outer, houter, hp⟩ := List.exists_of_findSome?_eq_some h
  exact ⟨outer, houter, below_of_mem_partsOf (fun e he => Cursor.below_of_childByField? he)
    (List.mem_of_find?_eq_some hp)⟩

/-- What is read in a unit are nodes of the unit. -/
theorem below_of_mem_reads {u : SourceUnit} {c r : Cursor} (hc : Cursor.Below u.root c)
    (h : r ∈ reads u c) : Cursor.Below u.root r := by
  unfold reads at h
  split at h
  · exact hc.trans (Cursor.below_of_mem_parts (List.mem_of_getLast? (Option.mem_toList.1 h)))
  split at h
  · exact hc.trans (Cursor.below_of_childByField? (Option.mem_toList.1 h))
  split at h
  · rcases List.mem_append.1 h with h | h
    · exact hc.trans (Cursor.below_of_mem_parts
        (List.mem_of_find?_eq_some (Option.mem_toList.1 h)))
    · exact hc.trans (below_of_mem_partsOf
        (fun e he => Cursor.below_of_mem_parts (List.mem_of_find?_eq_some he))
        (List.mem_filter.1 h).1)
  split at h
  · obtain ⟨p, hp, hbound⟩ := Option.bind_eq_some_iff.1 (Option.mem_toList.1 h)
    obtain ⟨outer, houter, hbelow⟩ := below_of_typeParameter? hp
    exact ((Cursor.parents_below rfl hc houter).trans hbelow).trans (below_of_firstBound? hbound)
  · cases h

/-! ## Circles -/

/-- The reading of a node asks for another. -/
def Reads (u : SourceUnit) (c r : Cursor) : Prop := r ∈ reads u c

/-- A node whose reading meets some node a second time. -/
def Circular (u : SourceUnit) (c : Cursor) : Prop :=
  ∃ d, Relation.ReflTransGen (Reads u) c d ∧ Relation.TransGen (Reads u) d d

/-- A circular node asks for a circular node. -/
theorem Circular.step {u : SourceUnit} {c : Cursor} (h : Circular u c) :
    ∃ r ∈ reads u c, Circular u r := by
  obtain ⟨d, hcd, hdd⟩ := h
  rcases Relation.ReflTransGen.cases_head hcd with rfl | ⟨r, hr, hrd⟩
  · obtain ⟨r, hr, hrc⟩ := Relation.TransGen.head'_iff.1 hdd
    exact ⟨r, hr, c, hrc, hdd⟩
  · exact ⟨r, hr, d, hrd, hdd⟩

/-- A circular node has no type, however deep its reading may go. -/
theorem not_circular_of_isOk {x : Index} {depth : Nat} {c : Cursor}
    (h : (x.typeWithin depth c).isOk) : ¬ Circular x.unit c := by
  induction depth generalizing c with
  | zero => cases h
  | succ depth ih =>
    intro hc
    obtain ⟨r, hr, hcirc⟩ := hc.step
    exact ih ((isOk_typeWithin_succ x depth c).1 h r hr) hcirc

open Classical in
/-- How many nodes of the unit the reading of a node can meet. -/
noncomputable def reachCount (u : SourceUnit) (c : Cursor) : Nat :=
  total (fun _ => 1)
    (u.root.preorder.filter fun d => decide (Relation.ReflTransGen (Reads u) c d))

/-- What a node asks for meets fewer nodes, unless the node is circular. -/
theorem reachCount_lt {u : SourceUnit} {c r : Cursor} (hc : Cursor.Below u.root c)
    (hr : r ∈ reads u c) (hcirc : ¬ Circular u c) : reachCount u r < reachCount u c := by
  classical
  refine total_filter_add_le (fun _ => 1) _ _ _ c ?_ ?_ ?_ (Cursor.mem_preorder_iff.2 hc)
  · intro d _ hd
    exact decide_eq_true (Relation.ReflTransGen.head hr (of_decide_eq_true hd))
  · refine decide_eq_false fun hrc => hcirc ⟨c, .refl, ?_⟩
    exact Relation.TransGen.head' hr hrc
  · exact decide_eq_true .refl

theorem reachCount_pos {u : SourceUnit} {c : Cursor} (hc : Cursor.Below u.root c) :
    0 < reachCount u c := by
  classical
  refine Nat.lt_of_lt_of_le (Nat.lt_add_left _ Nat.one_pos)
    (total_filter_add_le (fun _ => 1) (fun _ => false) _ _ c ?_ rfl ?_
      (Cursor.mem_preorder_iff.2 hc))
  · intro d _ hd
    cases hd
  · exact decide_eq_true .refl

theorem total_one {α : Type} (l : List α) : total (fun _ => 1) l = l.length := by
  induction l with
  | nil => rfl
  | cons a l ih => rw [total_cons, ih, List.length_cons, Nat.add_comm]

theorem reachCount_le (u : SourceUnit) (c : Cursor) : reachCount u c ≤ u.tree.size := by
  rw [reachCount, total_one]
  exact Nat.le_trans (List.length_filter_le _ _) (Nat.le_of_eq (Cursor.length_preorder u.root))

/-- A node that is not circular has a type within as many readings as it can meet nodes. -/
theorem isOk_of_not_circular {x : Index} {depth : Nat} {c : Cursor}
    (hc : Cursor.Below x.unit.root c) (hcirc : ¬ Circular x.unit c)
    (hdepth : reachCount x.unit c ≤ depth) : (x.typeWithin depth c).isOk := by
  induction depth generalizing c with
  | zero => exact absurd (reachCount_pos hc) (by omega)
  | succ depth ih =>
    refine (isOk_typeWithin_succ x depth c).2 ?_
    intro r hr
    refine ih (below_of_mem_reads hc hr) ?_ ?_
    · rintro ⟨d, hrd, hdd⟩
      exact hcirc ⟨d, Relation.ReflTransGen.head hr hrd, hdd⟩
    · have hlt := reachCount_lt hc hr hcirc
      omega

/-- There is room for all readings that end. -/
def Roomy (x : Index) : Prop := x.unit.tree.size ≤ x.room

/-- Where there is room, a written type is found unless its node is circular. -/
theorem isOk_writtenType_iff {x : Index} (hroom : x.Roomy) {c : Cursor}
    (hc : Cursor.Below x.unit.root c) : (x.writtenType c).isOk ↔ ¬ Circular x.unit c :=
  ⟨not_circular_of_isOk, fun h =>
    isOk_of_not_circular hc h (Nat.le_trans (reachCount_le x.unit c) hroom)⟩

/-- A node that was read once can be read at every stage of the index of its unit. -/
theorem exists_writtenType_of_unit {x z : Index} (hroom : x.Roomy) (hunit : x.unit = z.unit)
    {c : Cursor} (hc : Cursor.Below z.unit.root c) {t : StaticType} (ht : z.writtenType c = .ok t) :
    ∃ s, x.writtenType c = .ok s := by
  have hends : ¬ Circular z.unit c := not_circular_of_isOk (isOk_iff_exists.2 ⟨t, ht⟩)
  rw [← hunit] at hc hends
  exact isOk_iff_exists.1 ((isOk_writtenType_iff hroom hc).2 hends)

/-! ## Indexing -/

theorem isOk_classNames_iff {x : Index} {cs : List Cursor} :
    (classNames x cs).isOk ↔ ∀ c ∈ cs, (x.writtenType c).isOk := by
  induction cs with
  | nil => exact iff_of_true rfl (by simp)
  | cons c cs ih =>
    rw [List.forall_mem_cons, ← ih, classNames]
    refine isOk_bind_and fun t => isOk_bind_ok ?_
    intro rest
    cases t <;> rfl

theorem isOk_declaredSupertypes_iff {x : Index} {decl : Cursor} :
    (declaredSupertypes x decl).isOk ↔ ∀ c ∈ supertypeNodes decl, (x.writtenType c).isOk := by
  unfold declaredSupertypes
  rw [isOk_bind_ok fun named => rfl, isOk_classNames_iff]

/-- The written types that the index of a unit needs. -/
def neededTypes (u : SourceUnit) : List Cursor :=
  (declarations u).flatMap (fun d => supertypeNodes d.1) ++ thrownNodes u

theorem below_of_mem_supertypeNodes {decl c : Cursor} (h : c ∈ supertypeNodes decl) :
    Cursor.Below decl c := by
  obtain ⟨clause, hclause, hc⟩ := List.mem_flatMap.1 h
  refine ((Cursor.Below.refl decl).child hclause).trans ?_
  split at hc
  · exact Cursor.below_of_mem_parts hc
  split at hc
  · obtain ⟨list, hlist, hc⟩ := List.mem_flatMap.1 hc
    refine (Cursor.below_of_mem_parts hlist).trans ?_
    split at hc
    · exact Cursor.below_of_mem_parts hc
    · rw [List.mem_singleton.1 hc]
      exact Cursor.Below.refl list
  · cases hc

theorem below_of_mem_declarations {u : SourceUnit} {d : Cursor × String}
    (h : d ∈ declarations u) : Cursor.Below u.root d.1 := by
  obtain ⟨c, hc, hd⟩ := List.mem_filterMap.1 h
  obtain ⟨name, -, rfl⟩ := Option.map_eq_some_iff.1 hd
  exact Cursor.mem_preorder_iff.1 (List.mem_filter.1 hc).1

theorem below_of_mem_thrownNodes {u : SourceUnit} {c : Cursor} (h : c ∈ thrownNodes u) :
    Cursor.Below u.root c := by
  obtain ⟨clause, hclause, hc⟩ := List.mem_flatMap.1 h
  exact (Cursor.mem_preorder_iff.1 (List.mem_filter.1 hclause).1).trans
    (Cursor.below_of_mem_parts hc)

/-- The first pass is about its unit, in the room that it is given. -/
theorem fields_ofNames (u : SourceUnit) (parent : Hierarchy) (room : Nat) :
    (ofNames u parent room).unit = u ∧ (ofNames u parent room).room = room := by
  unfold ofNames
  generalize declarations u = ds
  suffices ∀ x : Index, x.unit = u ∧ x.room = room →
      let y := ds.foldl (fun x d =>
        { x with
          classes := x.classes.insert d.2 { node := d.1 }
          classAt := x.classAt.insert d.1.key d.2 }) x
      y.unit = u ∧ y.room = room from this _ ⟨rfl, rfl⟩
  induction ds with
  | nil => exact fun x hx => hx
  | cons d ds ih => exact fun x hx => ih _ hx

theorem unit_ofNames (u : SourceUnit) (parent : Hierarchy) (room : Nat := u.tree.size) :
    (ofNames u parent room).unit = u := (fields_ofNames u parent room).1

theorem roomy_ofNames (u : SourceUnit) (parent : Hierarchy) : (ofNames u parent).Roomy := by
  obtain ⟨hunit, hroom⟩ := fields_ofNames u parent u.tree.size
  exact Nat.le_of_eq (by rw [hunit, hroom])

theorem SameNames.roomy {x y : Index} (h : SameNames x y) (hx : x.Roomy) : y.Roomy := by
  rwa [Roomy, h.unit, h.room]

/-- There is room in a finished index. -/
theorem roomy_of_build {u : SourceUnit} {parent : Hierarchy} {x : Index}
    (h : build u parent = .ok x) : x.Roomy := (sameNames_of_build h).roomy (roomy_ofNames u parent)

theorem unit_addDeclarations {ds : List (Cursor × String)} {x y : Index}
    (h : addDeclarations ds x = .ok y) : y.unit = x.unit :=
  addDeclarations_induction (p := fun z => z.unit = x.unit) (fun _ _ _ _ hz => hz) rfl h

theorem isOk_addDeclarations_iff {ds : List (Cursor × String)} {x : Index} (hroom : x.Roomy)
    (hds : ∀ d ∈ ds, Cursor.Below x.unit.root d.1) :
    (addDeclarations ds x).isOk ↔ ∀ d ∈ ds, ∀ c ∈ supertypeNodes d.1, ¬ Circular x.unit c := by
  induction ds generalizing x with
  | nil => exact iff_of_true rfl (by simp)
  | cons d ds ih =>
    obtain ⟨hd, hds⟩ := List.forall_mem_cons.1 hds
    have hsupers : (declaredSupertypes x d.1).isOk ↔
        ∀ c ∈ supertypeNodes d.1, ¬ Circular x.unit c := by
      rw [isOk_declaredSupertypes_iff]
      exact forall₂_congr fun c hc =>
        isOk_writtenType_iff hroom (hd.trans (below_of_mem_supertypeNodes hc))
    rw [List.forall_mem_cons, ← hsupers, addDeclarations]
    exact isOk_bind_and fun supers => ih hroom hds

theorem isOk_addThrown_iff {cs : List Cursor} {x : Index} (hroom : x.Roomy)
    (hcs : ∀ c ∈ cs, Cursor.Below x.unit.root c) :
    (addThrown cs x).isOk ↔ ∀ c ∈ cs, ¬ Circular x.unit c := by
  induction cs generalizing x with
  | nil => exact iff_of_true rfl (by simp)
  | cons c cs ih =>
    obtain ⟨hc, hcs⟩ := List.forall_mem_cons.1 hcs
    rw [List.forall_mem_cons, ← isOk_writtenType_iff hroom hc, addThrown]
    refine isOk_bind_and fun t => ?_
    split
    · split
      · exact ih hroom hcs
      · exact ih hroom hcs
    · exact ih hroom hcs

/-- A unit in which no type that its index needs leads back to itself. -/
def Settles (u : SourceUnit) : Prop := ∀ c ∈ neededTypes u, ¬ Circular u c

/-- A unit can be indexed unless one of the types it needs is circular. -/
theorem isOk_build_iff (u : SourceUnit) (parent : Hierarchy) :
    (build u parent).isOk ↔ Settles u := by
  have hunit := unit_ofNames u parent
  have hdecl : (addDeclarations (declarations u) (ofNames u parent)).isOk ↔
      ∀ d ∈ declarations u, ∀ c ∈ supertypeNodes d.1, ¬ Circular u c := by
    have hbelow : ∀ d ∈ declarations u, Cursor.Below (ofNames u parent).unit.root d.1 := by
      rw [hunit]
      exact fun d hd => below_of_mem_declarations hd
    have h := isOk_addDeclarations_iff (roomy_ofNames u parent) hbelow
    rwa [hunit] at h
  have hthrown : ∀ y, addDeclarations (declarations u) (ofNames u parent) = .ok y →
      ((addThrown (thrownNodes u) y).isOk ↔ ∀ c ∈ thrownNodes u, ¬ Circular u c) := by
    intro y hy
    have hroom : y.Roomy := (sameNames_turn (fun _ hd => hd) hy).roomy (roomy_ofNames u parent)
    have hy : y.unit = u := (unit_addDeclarations hy).trans hunit
    have hbelow : ∀ c ∈ thrownNodes u, Cursor.Below y.unit.root c := by
      rw [hy]
      exact fun c hc => below_of_mem_thrownNodes hc
    have h := isOk_addThrown_iff hroom hbelow
    rwa [hy] at h
  have hsettles : Settles u ↔
      (∀ d ∈ declarations u, ∀ c ∈ supertypeNodes d.1, ¬ Circular u c) ∧
        ∀ c ∈ thrownNodes u, ¬ Circular u c := by
    rw [Settles, neededTypes, List.forall_mem_append, List.forall_mem_flatMap]
  rw [hsettles, ← hdecl]
  refine isOk_bind_iff.trans ?_
  rw [isOk_iff_exists]
  constructor
  · rintro ⟨y, hy, hok⟩
    exact ⟨⟨y, hy⟩, (hthrown y hy).1 hok⟩
  · rintro ⟨⟨y, hy⟩, hcirc⟩
    exact ⟨y, hy, (hthrown y hy).2 hcirc⟩

end Index

end CauseLint
