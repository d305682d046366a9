import CauseLint.Proofs.Types.Circular

/-!
# Where members are declared

The index of a unit remembers each field of a class with the node of its type and the node that
declares it, and each method with its declarations. These nodes belong to the unit, as the index
reads nothing else.

Results:

* `Index.rooted_of_build`: the members that the index of a unit knows are nodes of the unit.
-/

namespace CauseLint

/-- The nodes that are remembered of the members of a class lie below a root. -/
structure DeclaredClass.Rooted (root : Cursor) (d : DeclaredClass) : Prop where
  type : ∀ e ∈ d.fields.entries, ∀ t, e.2.1 = some t → Cursor.Below root t
  declarator : ∀ e ∈ d.fields.entries, Cursor.Below root e.2.2
  method : ∀ e ∈ d.methods.entries, ∀ m ∈ e.2, Cursor.Below root m

namespace Index

/-- The nodes that are remembered of the members of all classes lie in the unit. -/
def Rooted (x : Index) : Prop := ∀ e ∈ x.classes.entries, e.2.Rooted x.unit.root

section

variable {u : SourceUnit} {root member decl : Cursor} {d : DeclaredClass}

/-- A class without members. -/
theorem rooted_bare (root node : Cursor) : DeclaredClass.Rooted root { node } where
  type _ he := nomatch he
  declarator _ he := nomatch he
  method _ he := nomatch he

theorem rooted_insert (hd : d.Rooted root) {name : String} {type : Option Cursor} {v : Cursor}
    (htype : ∀ t, type = some t → Cursor.Below root t) (hv : Cursor.Below root v) :
    DeclaredClass.Rooted root { d with fields := d.fields.insert name (type, v) } where
  type e he := by
    rcases Table.mem_put he with rfl | he
    · exact htype
    · exact hd.type e he
  declarator e he := by
    rcases Table.mem_put he with rfl | he
    · exact hv
    · exact hd.declarator e he
  method := hd.method

theorem rooted_addFields (hd : d.Rooted root) (hm : Cursor.Below root member) :
    (addFields u d member).Rooted root := by
  unfold addFields
  split
  · exact hd
  · rename_i type htype
    refine List.foldlRecOn (motive := DeclaredClass.Rooted root) _ _ hd ?_
    intro d hd v hv
    dsimp only
    split
    · exact hd
    · refine rooted_insert hd ?_ (hm.child (List.mem_filter.1 hv).1)
      rintro t ⟨⟩
      exact hm.trans (Cursor.below_of_childByField? htype)

theorem rooted_addMethod (hd : d.Rooted root) (hm : Cursor.Below root member) :
    (addMethod u d member).Rooted root where
  type := hd.type
  declarator := hd.declarator
  method e he m hmem := by
    rcases Table.mem_put he with rfl | he
    · rcases List.mem_append.1 hmem with hmem | hmem
      · cases hget : d.methods.get? (u.textOf? (member.childByField? "name")) with
        | none =>
          rw [hget] at hmem
          cases hmem
        | some old =>
          rw [hget] at hmem
          exact hd.method _ (Table.mem_entries_of_get? hget) m hmem
      · rwa [List.mem_singleton.1 hmem]
    · exact hd.method e he m hmem

theorem rooted_addBodyMember (hd : d.Rooted root) (hm : Cursor.Below root member) :
    (addBodyMember u d member).Rooted root := by
  unfold addBodyMember
  split
  · exact rooted_addFields hd hm
  split
  · exact rooted_addMethod hd hm
  · exact hd

theorem rooted_addMember (hd : d.Rooted root) (hm : Cursor.Below root member) :
    (addMember u d member).Rooted root := by
  unfold addMember
  split
  · exact rooted_addFields hd hm
  split
  · exact rooted_addMethod hd hm
  split
  · refine List.foldlRecOn (motive := DeclaredClass.Rooted root) _ _ hd ?_
    intro d hd v hv
    exact rooted_addBodyMember hd (hm.trans (Cursor.below_of_mem_parts hv))
  · exact hd

theorem rooted_addConstants (hd : d.Rooted root) (hdecl : Cursor.Below root decl)
    {body : List Cursor} (hbody : ∀ c ∈ body, Cursor.Below root c) :
    (addConstants u decl body d).Rooted root := by
  unfold addConstants
  split
  · refine List.foldlRecOn (motive := DeclaredClass.Rooted root) _ _ hd ?_
    intro d hd c hc
    refine rooted_insert hd ?_ (hbody c (List.mem_filter.1 hc).1)
    rintro t ⟨⟩
    exact hdecl
  · exact hd

theorem rooted_addComponents (hd : d.Rooted root) (hdecl : Cursor.Below root decl) :
    (addComponents u decl d).Rooted root := by
  unfold addComponents
  split
  · refine List.foldlRecOn (motive := DeclaredClass.Rooted root) _ _ hd ?_
    intro d hd c hc
    have hbelow : Cursor.Below root c := hdecl.trans (below_of_mem_partsOf
      (fun e he => Cursor.below_of_childByField? he) (List.mem_filter.1 hc).1)
    exact rooted_insert hd (fun t ht => hbelow.trans (Cursor.below_of_childByField? ht)) hbelow
  · exact hd

theorem rooted_addMembers (hd : d.Rooted root) (hdecl : Cursor.Below root decl) :
    (addMembers u decl d).Rooted root := by
  have hbody : ∀ c ∈ ((decl.childByField? "body").map Cursor.parts).getD [],
      Cursor.Below root c := fun c hc =>
    hdecl.trans (below_of_mem_partsOf (fun e he => Cursor.below_of_childByField? he) hc)
  refine rooted_addComponents (rooted_addConstants ?_ hdecl hbody) hdecl
  refine List.foldlRecOn (motive := DeclaredClass.Rooted root) _ _ hd ?_
  intro d hd c hc
  exact rooted_addMember hd (hbody c hc)

end

theorem rooted_ofNames (u : SourceUnit) (parent : Hierarchy) (room : Nat) :
    (ofNames u parent room).Rooted := by
  unfold ofNames
  refine List.foldlRecOn (motive := Rooted) _ _ ?_ ?_
  · intro e he
    cases he
  · rintro x hx ⟨c, name⟩ - e he
    rcases Table.mem_put he with rfl | he
    · exact rooted_bare _ c
    · exact hx e he

theorem rooted_addDeclarations {ds : List (Cursor × String)} {x y : Index}
    (hds : ∀ d ∈ ds, Cursor.Below x.unit.root d.1) (hx : x.Rooted)
    (h : addDeclarations ds x = .ok y) : y.Rooted := by
  refine (addDeclarations_induction (p := fun z => z.unit = x.unit ∧ z.Rooted) ?_ ⟨rfl, hx⟩ h).2
  rintro z d hd s ⟨hunit, hz⟩
  refine ⟨hunit, fun e he => ?_⟩
  show e.2.Rooted z.unit.root
  rcases Table.mem_put he with rfl | he
  · refine rooted_addMembers ?_ (hunit ▸ hds d hd)
    cases hget : z.classes.get? d.2 with
    | none => exact rooted_bare _ d.1
    | some old => exact hz _ (Table.mem_entries_of_get? hget)
  · exact hz e he

/-- Declaring thrown classes changes the hierarchy only. -/
theorem addThrown_keeps {cs : List Cursor} {x y : Index} (h : addThrown cs x = .ok y) :
    y.unit = x.unit ∧ y.classes = x.classes := by
  refine addThrown_induction (p := fun z => z.unit = x.unit ∧ z.classes = x.classes) ?_
    ⟨rfl, rfl⟩ h
  intro z t hz
  unfold mark
  split <;> exact hz

/-- The index of a unit is about the unit, and the members that it knows are nodes of it. -/
theorem rooted_of_build {u : SourceUnit} {parent : Hierarchy} {room : Nat} {x : Index}
    (h : build u parent room = .ok x) : x.unit = u ∧ x.Rooted := by
  unfold build at h
  cases hy : addDeclarations (declarations u) (ofNames u parent room) with
  | error e =>
    simp only [hy] at h
    cases h
  | ok y =>
    simp only [hy] at h
    obtain ⟨hunit, hclasses⟩ := addThrown_keeps h
    have hyu : y.unit = u := (unit_addDeclarations hy).trans (unit_ofNames u parent room)
    have hbelow : ∀ d ∈ declarations u, Cursor.Below (ofNames u parent room).unit.root d.1 := by
      rw [unit_ofNames u parent room]
      exact fun d hd => below_of_mem_declarations hd
    refine ⟨hunit.trans hyu, ?_⟩
    intro e he
    rw [hclasses] at he
    rw [hunit]
    exact rooted_addDeclarations hbelow (rooted_ofNames u parent room) hy e he

end Index

end CauseLint
