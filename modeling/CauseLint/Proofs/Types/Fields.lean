import CauseLint.Proofs.Types.Memory
import CauseLint.Proofs.Types.Passes

/-!
# The fields that an index knows

The index of a unit keeps one table of fields for each qualified name. The declarations of that name
add their fields one after another, and a later field takes the place of an earlier one. A class
without a qualified name, because it is local to a method, to a lambda or to an anonymous class,
adds nothing.

Results:

* `Index.fields_addMembers`: the fields that a declaration adds, in order.
* `Index.field?_of_build`: the field of a name is the last one among all declarations of its class.
* `Index.lastField?_of_unique`: that is a field of the class, if its qualified name is its own.
* `Index.classAt_of_classesApart`: a declaration is known by its qualified name, if it has one.
-/

namespace CauseLint

namespace Index

/-! ## Fields of one declaration -/

/-- A field with its name, the node of its type and the node that declares it. -/
abbrev FieldEntry := String × (Option Cursor × Cursor)

/-- The fields of a field declaration. -/
def fieldsOfVariables (u : SourceUnit) (member : Cursor) : List FieldEntry :=
  match member.childByField? "type" with
  | none => []
  | some type =>
    (member.childrenByField "declarator").flatMap fun v =>
      let name := u.textOf? (v.childByField? "name")
      if name = "" then [] else [(name, some type, v)]

/-- The fields of a member from behind the constants of an enumeration. -/
def fieldsOfBodyMember (u : SourceUnit) (member : Cursor) : List FieldEntry :=
  if member.kind = "field_declaration" then fieldsOfVariables u member else []

/-- The fields of a member of a class body. -/
def fieldsOfMember (u : SourceUnit) (member : Cursor) : List FieldEntry :=
  if member.kind = "field_declaration" || member.kind = "constant_declaration" then
    fieldsOfVariables u member
  else if member.kind = "enum_body_declarations" then
    member.parts.flatMap (fieldsOfBodyMember u)
  else []

/-- The constants of an enumeration. -/
def constantFields (u : SourceUnit) (decl : Cursor) (body : List Cursor) : List FieldEntry :=
  if decl.kind = "enum_declaration" then
    (body.filter (·.kind = "enum_constant")).map fun c =>
      (u.textOf? (c.childByField? "name"), some decl, c)
  else []

/-- The components of a record. -/
def componentFields (u : SourceUnit) (decl : Cursor) : List FieldEntry :=
  if decl.kind = "record_declaration" then
    ((((decl.childByField? "parameters").map Cursor.parts).getD []).filter
      (·.kind = "formal_parameter")).map fun p =>
        (u.textOf? (p.childByField? "name"), p.childByField? "type", p)
  else []

/-- The fields that a class declares, in the order in which they are added. -/
def fieldsOf (u : SourceUnit) (decl : Cursor) : List FieldEntry :=
  let body := ((decl.childByField? "body").map Cursor.parts).getD []
  body.flatMap (fieldsOfMember u) ++ constantFields u decl body ++ componentFields u decl

section

variable {u : SourceUnit}

/-- Steps that add fields add them one after another. -/
theorem fields_foldl {α : Type} {step : DeclaredClass → α → DeclaredClass}
    {entries : α → List FieldEntry}
    (hstep : ∀ d a, (step d a).fields = d.fields.insertAll (entries a)) (l : List α)
    (d : DeclaredClass) : (l.foldl step d).fields = d.fields.insertAll (l.flatMap entries) := by
  induction l generalizing d with
  | nil => rfl
  | cons a l ih => rw [List.foldl_cons, ih, hstep, List.flatMap_cons, Table.insertAll_append]

theorem fields_addFields (d : DeclaredClass) (member : Cursor) :
    (addFields u d member).fields = d.fields.insertAll (fieldsOfVariables u member) := by
  unfold addFields fieldsOfVariables
  cases member.childByField? "type" with
  | none => rfl
  | some type =>
    refine fields_foldl (fun d v => ?_) _ d
    dsimp only
    split <;> rfl

theorem fields_addBodyMember (d : DeclaredClass) (member : Cursor) :
    (addBodyMember u d member).fields = d.fields.insertAll (fieldsOfBodyMember u member) := by
  unfold addBodyMember fieldsOfBodyMember
  split
  · exact fields_addFields d member
  · split <;> rfl

theorem fields_addMember (d : DeclaredClass) (member : Cursor) :
    (addMember u d member).fields = d.fields.insertAll (fieldsOfMember u member) := by
  unfold addMember fieldsOfMember
  split
  · exact fields_addFields d member
  split
  · rename_i hmethod
    rw [if_neg (by rw [hmethod]; decide)]
    rfl
  split
  · exact fields_foldl fields_addBodyMember _ d
  · rfl

theorem fields_addConstants (decl : Cursor) (body : List Cursor) (d : DeclaredClass) :
    (addConstants u decl body d).fields = d.fields.insertAll (constantFields u decl body) := by
  unfold addConstants constantFields
  split
  · rw [List.map_eq_flatMap]
    exact fields_foldl (fun d c => rfl) _ d
  · rfl

theorem fields_addComponents (decl : Cursor) (d : DeclaredClass) :
    (addComponents u decl d).fields = d.fields.insertAll (componentFields u decl) := by
  unfold addComponents componentFields
  split
  · rw [List.map_eq_flatMap]
    exact fields_foldl (fun d c => rfl) _ d
  · rfl

/-- The fields that a declaration adds, in order. -/
theorem fields_addMembers (decl : Cursor) (d : DeclaredClass) :
    (addMembers u decl d).fields = d.fields.insertAll (fieldsOf u decl) := by
  unfold addMembers fieldsOf
  dsimp only
  rw [fields_addComponents, fields_addConstants, fields_foldl fields_addMember,
    Table.insertAll_append, Table.insertAll_append]

end

/-! ## Fields of all declarations -/

/-- The field of a name in the table of a class. -/
def field? (x : Index) (cls name : String) : Option (Option Cursor × Cursor) :=
  (x.classes.get? cls).bind fun d => d.fields.get? name

/-- The last field of a name that some declarations add to a class. -/
def lastField? (u : SourceUnit) (ds : List (Cursor × String)) (cls name : String) :
    Option (Option Cursor × Cursor) :=
  ((ds.filter (·.2 = cls)).flatMap fun d => fieldsOf u d.1).reverse.lookup name

variable {u : SourceUnit} {parent : Hierarchy} {x y : Index}

/-- A turn adds its fields to those of its class. -/
theorem field?_record (d : Cursor × String) (supers : List String) (cls name : String) :
    (x.record d supers).field? cls name =
      (lastField? x.unit [d] cls name).or (x.field? cls name) := by
  unfold field? lastField?
  show ((x.classes.insert d.2 _).get? cls).bind _ = _
  rw [Table.get?_insert]
  by_cases heq : d.2 = cls
  · subst heq
    rw [if_pos BEq.rfl, Option.bind_some, fields_addMembers, Table.get?_insertAll]
    simp only [List.filter_cons, decide_true, if_true, List.filter_nil, List.flatMap_cons,
      List.flatMap_nil, List.append_nil]
    congr 1
    cases x.classes.get? d.2 <;> rfl
  · rw [if_neg (by simpa using Ne.symm heq)]
    simp [heq]

theorem field?_addDeclarations {ds : List (Cursor × String)} (h : addDeclarations ds x = .ok y)
    (cls name : String) :
    y.field? cls name = (lastField? x.unit ds cls name).or (x.field? cls name) := by
  induction ds generalizing x with
  | nil =>
    obtain rfl := Except.ok.inj h
    rfl
  | cons d ds ih =>
    obtain ⟨s, -, h⟩ := exists_of_bind_eq_ok (addDeclarations_cons d ds x ▸ h)
    rw [ih h, field?_record, ← Option.or_assoc]
    congr 1
    show (lastField? x.unit ds cls name).or (lastField? x.unit [d] cls name) = _
    rw [lastField?, lastField?, ← List.lookup_append, ← List.reverse_append, ← List.flatMap_append,
      ← List.filter_append, List.singleton_append]
    rfl

/-- The first pass knows no fields. -/
theorem field?_ofNames (cls name : String) : (ofNames u parent).field? cls name = none := by
  unfold ofNames
  refine List.foldlRecOn (motive := fun x : Index => x.field? cls name = none) _ _ rfl ?_
  rintro x hx ⟨c, n⟩ -
  show ((x.classes.insert n { node := c }).get? cls).bind _ = none
  rw [Table.get?_insert]
  split
  · rfl
  · exact hx

/-- The field of a name is the last one among all declarations of its class. -/
theorem field?_of_build (h : build u parent = .ok x) (cls name : String) :
    x.field? cls name = lastField? u (declarations u) cls name := by
  obtain ⟨y, hy, hx⟩ := exists_declared_of_build h
  have hclasses : x.field? cls name = y.field? cls name := by
    rw [field?, field?, (addThrown_keeps hx).2]
  rw [hclasses, field?_addDeclarations hy, field?_ofNames, Option.or_none, unit_ofNames]

/-! ## Names of declarations -/

theorem mem_declarations_iff {c : Cursor} {name : String} :
    (c, name) ∈ declarations u ↔
      Cursor.Below u.root c ∧ c.declaresClass = true ∧ qualifiedName u c = some name := by
  unfold declarations
  rw [List.mem_filterMap]
  constructor
  · rintro ⟨d, hd, h⟩
    obtain ⟨hd, hclass⟩ := List.mem_filter.1 hd
    obtain ⟨n, hn, heq⟩ := Option.map_eq_some_iff.1 h
    obtain ⟨rfl, rfl⟩ := Prod.mk.inj heq
    exact ⟨Cursor.mem_preorder_iff.1 hd, hclass, hn⟩
  · rintro ⟨hc, hclass, hname⟩
    exact ⟨c, List.mem_filter.2 ⟨Cursor.mem_preorder_iff.2 hc, hclass⟩, by rw [hname]; rfl⟩

/-- A qualified name that belongs to one declaration has the fields of that declaration. -/
theorem lastField?_of_unique (hkeys : (u.root.preorder.map Cursor.key).Nodup) {c : Cursor}
    (hc : Cursor.Below u.root c) (hclass : c.declaresClass = true) {cls : String}
    (hname : qualifiedName u c = some cls) (hunique : ∀ d ∈ declarations u, d.2 = cls → d.1 = c)
    (name : String) :
    lastField? u (declarations u) cls name = (fieldsOf u c).reverse.lookup name := by
  have hnodup : (declarations u).Nodup := by
    refine List.Nodup.filterMap ?_ ((List.Nodup.of_map _ hkeys).filter _)
    intro d e entry hd he
    obtain ⟨n, -, rfl⟩ := Option.map_eq_some_iff.1 hd
    obtain ⟨m, -, heq⟩ := Option.map_eq_some_iff.1 he
    exact (Prod.mk.inj heq).1.symm
  have hmem : (c, cls) ∈ (declarations u).filter (·.2 = cls) :=
    List.mem_filter.2 ⟨mem_declarations_iff.2 ⟨hc, hclass, hname⟩, by simp⟩
  have hall : ∀ d ∈ (declarations u).filter (·.2 = cls), d = (c, cls) := by
    intro d hd
    obtain ⟨hd, hcls⟩ := List.mem_filter.1 hd
    have hcls : d.2 = cls := by simpa using hcls
    exact Prod.ext (hunique d hd hcls) hcls
  have hone : (declarations u).filter (·.2 = cls) = [(c, cls)] := by
    by_contra hne
    rcases ((hnodup.filter _).ne_singleton_iff _).1 hne with hnil | ⟨d, hd, hother⟩
    · rw [hnil] at hmem
      cases hmem
    · exact hother (hall d hd)
  rw [lastField?, hone, List.flatMap_singleton]

theorem classAt_ofNames :
    (ofNames u parent).classAt =
      Table.insertAll {} ((declarations u).map fun d => (d.1.key, d.2)) := by
  unfold ofNames Table.insertAll
  rw [List.foldl_map]
  exact (List.foldl_hom Index.classAt (fun _ _ => rfl)).symm

/-- Keys tell the class declarations of a unit apart. -/
def ClassesApart (u : SourceUnit) : Prop :=
  ((u.root.preorder.filter Cursor.declaresClass).map Cursor.key).Nodup

theorem KeysApart.classesApart (h : x.KeysApart) : ClassesApart x.unit :=
  List.Nodup.sublist (List.filter_sublist.map _) h

theorem ClassesApart.eq_of_key (h : ClassesApart u) {c d : Cursor} (hc : Cursor.Below u.root c)
    (hcclass : c.declaresClass = true) (hd : Cursor.Below u.root d)
    (hdclass : d.declaresClass = true) (hkey : c.key = d.key) : c = d :=
  List.inj_on_of_nodup_map h (List.mem_filter.2 ⟨Cursor.mem_preorder_iff.2 hc, hcclass⟩)
    (List.mem_filter.2 ⟨Cursor.mem_preorder_iff.2 hd, hdclass⟩) hkey

/-- A declaration is known by its qualified name, if it has one. -/
theorem classAt_of_classesApart (h : build u parent = .ok x) (hkeys : ClassesApart u) {c : Cursor}
    (hc : Cursor.Below u.root c) (hclass : c.declaresClass = true) :
    x.classAt.get? c.key = qualifiedName u c := by
  rw [(sameNames_of_build h).classAt, classAt_ofNames, Table.get?_insertAll]
  cases hlookup : (((declarations u).map fun d => (d.1.key, d.2)).reverse.lookup c.key) with
  | none =>
    -- A declaration with a name would have been found.
    refine (Option.eq_none_iff_forall_ne_some.2 fun name hname => ?_).symm
    have hmem := List.mem_map_of_mem (f := fun d : Cursor × String => (d.1.key, d.2))
      (mem_declarations_iff.2 ⟨hc, hclass, hname⟩)
    have hne := List.lookup_eq_none_iff.1 hlookup _ (List.mem_reverse.2 hmem)
    simp at hne
  | some name =>
    obtain ⟨before, after, hsplit, -⟩ := List.lookup_eq_some_iff.1 hlookup
    have hmem : (c.key, name) ∈ (declarations u).map fun d => (d.1.key, d.2) :=
      List.mem_reverse.1 (hsplit ▸ by simp)
    obtain ⟨⟨d, n⟩, hd, heq⟩ := List.mem_map.1 hmem
    obtain ⟨hkey, rfl⟩ := Prod.mk.inj heq
    obtain ⟨hbelow, hdclass, hname⟩ := mem_declarations_iff.1 hd
    obtain rfl := hkeys.eq_of_key hbelow hdclass hc hclass hkey
    exact hname.symm

theorem classAt_of_build (h : build u parent = .ok x) (hkeys : x.KeysApart) {c : Cursor}
    (hc : Cursor.Below u.root c) (hclass : c.declaresClass = true) :
    x.classAt.get? c.key = qualifiedName u c := by
  obtain ⟨rfl, -⟩ := rooted_of_build h
  exact classAt_of_classesApart h hkeys.classesApart hc hclass

end Index

end CauseLint
