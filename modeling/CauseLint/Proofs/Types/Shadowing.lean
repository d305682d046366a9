import CauseLint.Proofs.Rule.Joined
import CauseLint.Proofs.Types.Fields

/-!
# Fields that shadow

A name in an expression means the variable of the innermost node around it that binds the name. What
binds a name can be read off the tree: a local variable declared before, a variable of a loop, a
caught parameter, a resource, a parameter, a pattern variable bound before, or a field of a class
that the index knows. Everything else passes the search on to the nodes around it.

So a field of a class with a qualified name shadows what is declared outside the class, as far as it
is the last field of that name among the declarations of that qualified name. The index leaves
classes out that are local or anonymous, and the search passes through these as if they declared
nothing: behind the field of such a class it finds what the name means outside of it.

Results:

* `Index.boundBy_eq_none`: what does not bind a name passes the search on.
* `Index.boundBy_of_field`: the variable that the field of a class with a name is.
* `Index.fields_shadow_by_name`: which fields shadow, for every history of questions.
-/

namespace CauseLint.Index

/-! ## What binds a name -/

/-- A node declares a local variable of a name. -/
def DeclaresVariable (u : SourceUnit) (name : String) (c : Cursor) : Prop :=
  c.kind = "local_variable_declaration" ∧
    ∃ d ∈ c.childrenByField "declarator", u.textOf? (d.childByField? "name") = name

/-- A parameter has a name. -/
def ParameterNamed (u : SourceUnit) (name : String) (p : Cursor) : Prop :=
  p.kind = "formal_parameter" ∧ u.textOf? (p.childByField? "name") = name ∨
  (p.kind = "spread_parameter" ∧ ∃ d ∈ firstOfKind ["variable_declarator"] p.parts,
    u.textOf? (d.childByField? "name") = name) ∨
  p.kind = "identifier" ∧ u.textOf p = name

/-- A node around a use binds a name: as a local variable of a block, of the head of a loop or of a
loop over a collection, as a caught parameter, as a resource, as a parameter, as a variable of a
pattern, or as a field, own or inherited, of a class with a qualified name. -/
def Binds (x : Index) (name : String) (use scope : Cursor) : Prop :=
  (blockKinds.contains scope.kind = true ∧
    ∃ s ∈ scope.parts, s.start < use.start ∧ DeclaresVariable x.unit name s) ∨
  (scope.kind = "for_statement" ∧
    ∃ init ∈ scope.childrenByField "init", DeclaresVariable x.unit name init) ∨
  (scope.kind = "enhanced_for_statement" ∧ x.unit.textOf? (scope.childByField? "name") = name) ∨
  (scope.kind = "catch_clause" ∧ ∃ p ∈ firstOfKind ["catch_formal_parameter"] scope.parts,
    x.unit.textOf? (p.childByField? "name") = name) ∨
  (scope.kind = "try_with_resources_statement" ∧
    ∃ resources ∈ scope.childByField? "resources", ∃ r ∈ resources.parts,
      r.kind = "resource" ∧ x.unit.textOf? (r.childByField? "name") = name) ∨
  (parameterisedKinds.contains scope.kind = true ∧
    ∃ parameters ∈ scope.childByField? "parameters",
      if parameters.kind = "identifier" then x.unit.textOf parameters = name
      else ∃ p ∈ parameters.parts, ParameterNamed x.unit name p) ∨
  (parameterisedKinds.contains scope.kind = true ∧ ∃ c ∈ scope.preorder, c.start < use.start ∧
    ∃ binding ∈ patternBinding? c, x.unit.textOf binding.1 = name) ∨
  (scope.declaresClass = true ∧ ∃ cls ∈ qualifiedName x.unit scope,
    ∃ owner ∈ x.hierarchy.ancestors cls,
      (lastField? x.unit (declarations x.unit) owner name).isSome = true)

instance (u : SourceUnit) (name : String) (c : Cursor) : Decidable (DeclaresVariable u name c) :=
  inferInstanceAs (Decidable (_ ∧ _))

instance (u : SourceUnit) (name : String) (p : Cursor) : Decidable (ParameterNamed u name p) :=
  inferInstanceAs (Decidable (_ ∨ _))

instance (x : Index) (name : String) (use scope : Cursor) : Decidable (Binds x name use scope) :=
  inferInstanceAs (Decidable (_ ∨ _))

/-! ## Passing the search on -/

section

variable {x : Index} {f : Cursor → Typing StaticType} {name : String}

theorem declaratorNamed_eq_none {c : Cursor} (hkind : c.kind = "local_variable_declaration")
    (h : ¬ DeclaresVariable x.unit name c) : declaratorNamed x c name = none := by
  refine List.find?_eq_none.2 fun d hd heq => h ⟨hkind, d, hd, ?_⟩
  simpa using heq

theorem localVariable_eq_none {offset : Nat} {cs : List Cursor}
    (h : ∀ c ∈ cs, c.start < offset → ¬ DeclaresVariable x.unit name c) :
    localVariable x f name offset cs none = pure none := by
  induction cs with
  | nil => rfl
  | cons c cs ih =>
    obtain ⟨hc, hcs⟩ := List.forall_mem_cons.1 h
    rw [localVariable]
    split
    · rfl
    rename_i hstart
    split
    · rename_i hkind
      rw [declaratorNamed_eq_none hkind (hc (Nat.lt_of_not_le hstart))]
      exact ih hcs
    · exact ih hcs

theorem loopVariable_eq_none {cs : List Cursor}
    (h : ∀ c ∈ cs, ¬ DeclaresVariable x.unit name c) : loopVariable x f name cs = pure none := by
  induction cs with
  | nil => rfl
  | cons c cs ih =>
    obtain ⟨hc, hcs⟩ := List.forall_mem_cons.1 h
    rw [loopVariable]
    split
    · rename_i hkind
      rw [declaratorNamed_eq_none hkind hc]
      exact ih hcs
    · exact ih hcs

theorem caughtVariable_eq_none {clause : Cursor}
    (h : ∀ p, firstOfKind ["catch_formal_parameter"] clause.parts = some p →
      x.unit.textOf? (p.childByField? "name") ≠ name) :
    caughtVariable x name clause = pure none := by
  unfold caughtVariable
  split
  · rfl
  · rename_i p hp
    exact if_neg (h p hp)

theorem resourceVariable_eq_none {resources : List Cursor}
    (h : ∀ r ∈ resources, r.kind = "resource" → x.unit.textOf? (r.childByField? "name") ≠ name) :
    resourceVariable x f name resources = pure none := by
  unfold resourceVariable
  rw [List.find?_eq_none.2]
  intro r hr heq
  obtain ⟨hkind, hname⟩ : r.kind = "resource" ∧ x.unit.textOf? (r.childByField? "name") = name := by
    simpa using heq
  exact h r hr hkind hname

theorem parameter_eq_none {ps : List Cursor} (h : ∀ p ∈ ps, ¬ ParameterNamed x.unit name p) :
    parameter x f name ps = pure none := by
  induction ps with
  | nil => rfl
  | cons p ps ih =>
    obtain ⟨hp, hps⟩ := List.forall_mem_cons.1 h
    rw [parameter]
    split
    · rename_i hkind
      rw [if_neg fun hname => hp (.inl ⟨hkind, hname⟩)]
      exact ih hps
    split
    · rename_i hkind
      split
      · rename_i d hd
        rw [if_neg fun hname => hp (.inr (.inl ⟨hkind, d, hd, hname⟩))]
        exact ih hps
      · exact ih hps
    split
    · rename_i heq
      obtain ⟨hkind, hname⟩ : p.kind = "identifier" ∧ x.unit.textOf p = name := by simpa using heq
      exact absurd (.inr (.inr ⟨hkind, hname⟩)) hp
    · exact ih hps

theorem patternVariable_eq_none {offset : Nat} {cs : List Cursor}
    (h : ∀ c ∈ cs, c.start < offset → ∀ ident type, patternBinding? c = some (ident, type) →
      x.unit.textOf ident ≠ name) :
    patternVariable x name offset cs none = pure none := by
  induction cs with
  | nil => rfl
  | cons c cs ih =>
    obtain ⟨hc, hcs⟩ := List.forall_mem_cons.1 h
    rw [patternVariable]
    split
    · exact ih hcs
    rename_i hstart
    split
    · rename_i ident type hbinding
      rw [if_neg (hc (Nat.lt_of_not_le hstart) ident type hbinding)]
      exact ih hcs
    · exact ih hcs

theorem fieldAmong_eq_none {classes : List String} (h : ∀ c ∈ classes, x.field? c name = none) :
    fieldAmong x f name classes = pure none := by
  induction classes with
  | nil => rfl
  | cons c classes ih =>
    obtain ⟨hc, hclasses⟩ := List.forall_mem_cons.1 h
    rw [fieldAmong]
    unfold field? at hc
    rw [hc]
    exact ih hclasses

end

section

variable {u : SourceUnit} {parent : Hierarchy} {x : Index} (hx : build u parent = .ok x)
  (hkeys : x.KeysApart) {f : Cursor → Typing StaticType} {name : String} {use scope : Cursor}

include hx hkeys

/-- What does not bind a name passes the search on. -/
theorem boundBy_eq_none (hscope : Cursor.Below u.root scope) (h : ¬ Binds x name use scope) :
    boundBy x f name use scope = pure none := by
  obtain ⟨rfl, -⟩ := rooted_of_build hx
  simp only [Binds, not_or] at h
  obtain ⟨hlocal, hloop, helement, hcaught, hresource, hparameter, hpattern, hfield⟩ := h
  rw [boundBy]
  by_cases hblock : blockKinds.contains scope.kind = true
  · rw [if_pos hblock]
    exact localVariable_eq_none fun s hs hstart hdecl => hlocal ⟨hblock, s, hs, hstart, hdecl⟩
  rw [if_neg hblock]
  by_cases hfor : scope.kind = "for_statement"
  · rw [if_pos hfor]
    exact loopVariable_eq_none fun init hinit hdecl => hloop ⟨hfor, init, hinit, hdecl⟩
  rw [if_neg hfor]
  by_cases henhanced : scope.kind = "enhanced_for_statement"
  · rw [if_pos henhanced, elementVariable]
    exact if_neg fun hname => helement ⟨henhanced, hname⟩
  rw [if_neg henhanced]
  by_cases hcatch : scope.kind = "catch_clause"
  · rw [if_pos hcatch]
    exact caughtVariable_eq_none fun p hp hname => hcaught ⟨hcatch, p, hp, hname⟩
  rw [if_neg hcatch]
  by_cases htry : scope.kind = "try_with_resources_statement"
  · rw [if_pos htry]
    refine resourceVariable_eq_none fun r hr hkind hname => ?_
    cases hresources : scope.childByField? "resources" with
    | none =>
      rw [hresources] at hr
      cases hr
    | some resources =>
      rw [hresources] at hr
      exact hresource ⟨htry, resources, hresources, r, hr, hkind, hname⟩
  rw [if_neg htry]
  by_cases hparameterised : parameterisedKinds.contains scope.kind = true
  · rw [if_pos hparameterised]
    have hpatterns : patternVariable x name use.start scope.preorder none = pure none :=
      patternVariable_eq_none fun c hc hstart ident type hbinding hname =>
        hpattern ⟨hparameterised, c, hc, hstart, (ident, type), hbinding, hname⟩
    dsimp only
    rw [hpatterns]
    cases hparameters : scope.childByField? "parameters" with
    | none => rfl
    | some parameters =>
      have hfree := fun hbinds => hparameter ⟨hparameterised, parameters, hparameters, hbinds⟩
      dsimp only
      by_cases hident : parameters.kind = "identifier"
      · rw [if_pos hident] at hfree ⊢
        rw [if_neg hfree]
        rfl
      · rw [if_neg hident] at hfree ⊢
        rw [parameter_eq_none fun p hp hnamed => hfree ⟨p, hp, hnamed⟩]
        rfl
  rw [if_neg hparameterised]
  by_cases hclass : scope.declaresClass = true
  · rw [if_pos hclass, classAt_of_build hx hkeys hscope hclass]
    cases hname : qualifiedName x.unit scope with
    | none => rfl
    | some cls =>
      refine fieldAmong_eq_none fun owner howner => ?_
      rw [field?_of_build hx, ← Option.not_isSome_iff_eq_none]
      exact fun hsome => hfield ⟨hclass, cls, hname, owner, howner, hsome⟩
  · rw [if_neg hclass]

/-- Nodes that do not bind a name do not change what it means. -/
theorem variableIn_append {inner outer : List Cursor}
    (hinner : ∀ scope ∈ inner, Cursor.Below u.root scope ∧ ¬ Binds x name use scope) :
    variableIn x f name use (inner ++ outer) = variableIn x f name use outer := by
  induction inner with
  | nil => rfl
  | cons scope inner ih =>
    obtain ⟨⟨hscope, hfree⟩, hinner⟩ := List.forall_mem_cons.1 hinner
    rw [List.cons_append, variableIn, boundBy_eq_none hx hkeys hscope hfree]
    exact ih hinner

end

/-! ## Fields -/

/-- The type that a declaration is written with, the brackets behind its name included. -/
def declaredAs (x : Index) (type declarator : Cursor) : Except Endless StaticType :=
  (x.writtenType type).map fun base =>
    match declarator.childByField? "dimensions" with
    | some dims => .arrayOf base (countBrackets (x.unit.textOf dims))
    | none => base

/-- A class that is left out of the index, because it is local or anonymous; a constant of an
enumeration can have such a class as its body. -/
def LeftOut (u : SourceUnit) (owner : Cursor) : Prop :=
  owner.declaresClass = true ∧ qualifiedName u owner = none ∨
    ["object_creation_expression", "enum_constant"].contains owner.kind = true

instance (u : SourceUnit) (owner : Cursor) : Decidable (LeftOut u owner) :=
  inferInstanceAs (Decidable (_ ∨ _))

section

variable {u : SourceUnit} {parent : Hierarchy} {x : Index} {f : Cursor → Typing StaticType}
  {name : String} {use owner : Cursor} {inner outer : List Cursor}

/-- A written type does not depend on how expressions are typed. -/
theorem declaredType_of_written {type declarator : Cursor}
    (hwritten : ¬ (type.kind = "type_identifier" ∧ x.unit.textOf type = "var")) :
    declaredType x f (some type) declarator = ExceptT.mk (pure (x.declaredAs type declarator)) := by
  have hvar : ¬ (type.kind = "type_identifier" && x.unit.textOf type = "var") = true := by
    simpa using hwritten
  unfold declaredType declaredAs
  dsimp only
  rw [if_neg hvar]
  show (ExceptT.mk (pure (x.writtenType type)) >>= _) = _
  cases declarator.childByField? "dimensions" <;> cases x.writtenType type <;> rfl

theorem orElse_map_some {a : Typing StaticType} {b : Typing (Option StaticType)} :
    orElse (some <$> a) b = some <$> a := by
  rw [orElse, map_eq_pure_bind, bind_assoc]
  rfl

/-- What is of none of the kinds that are looked at before classes can bind fields only. -/
theorem boundBy_of_kind {kinds : List String} (hkind : kinds.contains owner.kind = true)
    (hblock : ∀ kind ∈ kinds, blockKinds.contains kind = false)
    (hparameterised : ∀ kind ∈ kinds, parameterisedKinds.contains kind = false)
    (hhead : ∀ kind ∈ kinds, kind ∉ ["for_statement", "enhanced_for_statement", "catch_clause",
      "try_with_resources_statement"]) :
    boundBy x f name use owner =
      if owner.declaresClass then
        match x.classAt.get? owner.key with
        | some cls => fieldType x f cls name
        | none => pure none
      else pure none := by
  have hmem := List.contains_iff_mem.1 hkind
  have hhead := hhead _ hmem
  simp only [List.mem_cons, List.not_mem_nil, or_false, not_or] at hhead
  obtain ⟨hfor, henhanced, hcatch, hresources⟩ := hhead
  unfold boundBy
  exact (if_neg (Bool.eq_false_iff.1 (hblock _ hmem))).trans <| (if_neg hfor).trans <|
    (if_neg henhanced).trans <| (if_neg hcatch).trans <| (if_neg hresources).trans <|
    if_neg (Bool.eq_false_iff.1 (hparameterised _ hmem))

/-- A node that declares a class binds the fields of that class and nothing else. -/
theorem boundBy_of_declaresClass (hclass : owner.declaresClass = true) :
    boundBy x f name use owner =
      match x.classAt.get? owner.key with
      | some cls => fieldType x f cls name
      | none => pure none := by
  rw [boundBy_of_kind hclass (by decide) (by decide) (by decide), if_pos hclass]

/-- What creates an object binds nothing, also when it has a class body. -/
theorem boundBy_of_creation
    (hkind : ["object_creation_expression", "enum_constant"].contains owner.kind = true) :
    boundBy x f name use owner = pure none := by
  have hclass : ¬ owner.declaresClass = true := by
    have hnone : ∀ kind ∈ ["object_creation_expression", "enum_constant"],
        classKinds.contains kind = false := by decide
    exact Bool.eq_false_iff.1 (hnone _ (List.contains_iff_mem.1 hkind))
  rw [boundBy_of_kind hkind (by decide) (by decide) (by decide), if_neg hclass]

/-- A class comes before everything that it descends from. -/
theorem exists_ancestors_eq_cons (h : Hierarchy) (cls : String) :
    ∃ rest, h.ancestors cls = cls :: rest := by
  rw [Hierarchy.ancestors, Hierarchy.reach]
  exact ⟨_, rfl⟩

variable (hx : build u parent = .ok x) (hkeys : x.KeysApart) (howner : Cursor.Below u.root owner)

include hx hkeys howner

/-- The field of a class with a name is a variable of the written type. -/
theorem boundBy_of_field (hclass : owner.declaresClass = true) {cls : String}
    (hname : qualifiedName u owner = some cls) {type declarator : Cursor}
    (hfield : lastField? u (declarations u) cls name = some (some type, declarator))
    (hconstant : declarator.kind ≠ "enum_constant")
    (hwritten : ¬ (type.kind = "type_identifier" ∧ x.unit.textOf type = "var")) :
    boundBy x f name use owner = some <$> ExceptT.mk (pure (x.declaredAs type declarator)) := by
  rw [boundBy_of_declaresClass hclass, classAt_of_build hx hkeys howner hclass, hname]
  obtain ⟨rest, hrest⟩ := exists_ancestors_eq_cons x.hierarchy cls
  have hfound : (x.classes.get? cls).bind (fun d => d.fields.get? name) =
      some (some type, declarator) := (field?_of_build hx cls name).trans hfield
  dsimp only
  rw [fieldType, hrest, fieldAmong, hfound]
  dsimp only
  rw [if_neg hconstant, declaredType_of_written hwritten]

/-- A class that is left out binds nothing. -/
theorem boundBy_of_leftOut (hleft : LeftOut u owner) : boundBy x f name use owner = pure none := by
  rcases hleft with ⟨hclass, hname⟩ | hkind
  · rw [boundBy_of_declaresClass hclass, classAt_of_build hx hkeys howner hclass, hname]
  · exact boundBy_of_creation hkind

end

/-- Where nothing nearer binds a name, a use means the field of the class around it if the class has
a qualified name and the field is the last one among the declarations of that name, which is a field
of the class itself if no other class has its qualified name: the use has the type that the field is
written with, after every history of questions and verdicts. The fields of classes that are left out
are passed over: a use means what the name means outside of the class. -/
theorem fields_shadow_by_name {u : SourceUnit} {parent : Hierarchy} {x : Index}
    (hx : build u parent = .ok x) (hkeys : x.KeysApart) (render : Cursor → String)
    {use owner : Cursor} {inner outer : List Cursor} (huse : Cursor.Below u.root use)
    (hkind : use.kind = "identifier") (hparents : use.parents = inner ++ owner :: outer)
    (hinner : ∀ scope ∈ inner, ¬ Binds x (u.textOf use) use scope) :
    let s : Subject (StateM Memo) := { unit := u, oracle := x.oracle, render }
    let name := u.textOf use
    (∀ cls, owner.declaresClass = true → qualifiedName u owner = some cls →
      ((∀ d ∈ declarations u, d.2 = cls → d.1 = owner) →
        lastField? u (declarations u) cls name = (fieldsOf u owner).reverse.lookup name) ∧
      ∀ type declarator, lastField? u (declarations u) cls name = some (some type, declarator) →
        declarator.kind ≠ "enum_constant" →
        ¬ (type.kind = "type_identifier" ∧ u.textOf type = "var") →
          (∀ f, variableIn x f name use use.parents =
            some <$> ExceptT.mk (pure (x.declaredAs type declarator))) ∧
          ∀ t, x.declaredAs type declarator = .ok t → ∀ memo, Rule.After s {} memo →
            ((s.oracle.typeOf use).run memo).1 = .ok (.type t)) ∧
    (LeftOut u owner →
      (∀ f, variableIn x f name use use.parents = variableIn x f name use outer) ∧
      ∀ depth t, outcome (variableIn x (x.plainWithin depth) name use outer) {} = .ok (some t) →
        ∀ memo, Rule.After s {} memo → ((s.oracle.typeOf use).run memo).1 = .ok (.type t)) := by
  obtain ⟨rfl, hrooted⟩ := rooted_of_build hx
  intro s name
  have hbelow : ∀ scope ∈ use.parents, Cursor.Below x.unit.root scope := fun scope hscope =>
    Cursor.parents_below rfl huse hscope
  have howner : Cursor.Below x.unit.root owner := hbelow owner (by simp [hparents])
  have hsearch : ∀ f, variableIn x f name use use.parents =
      variableIn x f name use (owner :: outer) := fun f =>
    hparents ▸ variableIn_append hx hkeys fun scope hscope =>
      ⟨hbelow scope (hparents ▸ List.mem_append_left _ hscope), hinner scope hscope⟩
  have hgiven : ∀ t, x.HasType use t → ∀ memo, Rule.After s {} memo →
      ((s.oracle.typeOf use).run memo).1 = .ok (.type t) := by
    intro t ht memo hmemo
    rw [Rule.run_typeOf_of_hasType hrooted hkeys huse ht (hmemo.sound hrooted hkeys)]
  refine ⟨fun cls hclass hname => ⟨fun hunique =>
    lastField?_of_unique hkeys howner hclass hname hunique name,
    fun type declarator hfield hconstant hwritten => ?_⟩, fun hleft => ?_⟩
  · have hvariable : ∀ f, variableIn x f name use use.parents =
        some <$> ExceptT.mk (pure (x.declaredAs type declarator)) := by
      intro f
      rw [hsearch, variableIn,
        boundBy_of_field hx hkeys howner hclass hname hfield hconstant hwritten, orElse_map_some]
    refine ⟨hvariable, fun t ht => hgiven t (hasType_of_variable hkind 0 ?_)⟩
    rw [hvariable, ht]
    rfl
  · have hvariable : ∀ f, variableIn x f name use use.parents = variableIn x f name use outer := by
      intro f
      rw [hsearch, variableIn, boundBy_of_leftOut hx hkeys howner hleft]
      rfl
    refine ⟨hvariable, fun depth t ht => hgiven t (hasType_of_variable hkind depth ?_)⟩
    rw [hvariable]
    exact ht

/-- The unit of a class with a field, which one method reads, while another one has a parameter of
the same name and, inside an anonymous class, a field of that name again. -/
def shadowed : SourceUnit where
  path := "A.java"
  source := Utf8.ofText ("class A \x7b E x; void h() \x7b x.p(); \x7d void f(S x) \x7b " ++
    "new T() \x7b R x; void g() \x7b x.p(); \x7d \x7d; \x7d \x7d")
  tree :=
    .node { kind := "program", start := 0, stop := 90 } [
      .node { kind := "class_declaration", start := 0, stop := 90 } [
        .node { kind := "class", isNamed := false, start := 0, stop := 5 } [],
        .node { kind := "identifier", start := 6, stop := 7, field := some "name" } [],
        .node { kind := "class_body", start := 8, stop := 90, field := some "body" } [
          .node { kind := "\x7b", isNamed := false, start := 8, stop := 9 } [],
          .node { kind := "field_declaration", start := 10, stop := 14 } [
            .node { kind := "type_identifier", start := 10, stop := 11, field := some "type" } [],
            .node { kind := "variable_declarator", start := 12, stop := 13,
                    field := some "declarator" } [
              .node { kind := "identifier", start := 12, stop := 13, field := some "name" } []],
            .node { kind := ";", isNamed := false, start := 13, stop := 14 } []],
          .node { kind := "method_declaration", start := 15, stop := 34 } [
            .node { kind := "void_type", start := 15, stop := 19, field := some "type" } [],
            .node { kind := "identifier", start := 20, stop := 21, field := some "name" } [],
            .node { kind := "formal_parameters", start := 21, stop := 23,
                    field := some "parameters" } [
              .node { kind := "(", isNamed := false, start := 21, stop := 22 } [],
              .node { kind := ")", isNamed := false, start := 22, stop := 23 } []],
            .node { kind := "block", start := 24, stop := 34, field := some "body" } [
              .node { kind := "\x7b", isNamed := false, start := 24, stop := 25 } [],
              .node { kind := "expression_statement", start := 26, stop := 32 } [
                .node { kind := "method_invocation", start := 26, stop := 31 } [
                  .node { kind := "identifier", start := 26, stop := 27,
                          field := some "object" } [],
                  .node { kind := ".", isNamed := false, start := 27, stop := 28 } [],
                  .node { kind := "identifier", start := 28, stop := 29,
                          field := some "name" } [],
                  .node { kind := "argument_list", start := 29, stop := 31,
                          field := some "arguments" } [
                    .node { kind := "(", isNamed := false, start := 29, stop := 30 } [],
                    .node { kind := ")", isNamed := false, start := 30, stop := 31 } []]],
                .node { kind := ";", isNamed := false, start := 31, stop := 32 } []],
              .node { kind := "\x7d", isNamed := false, start := 33, stop := 34 } []]],
          .node { kind := "method_declaration", start := 35, stop := 88 } [
            .node { kind := "void_type", start := 35, stop := 39, field := some "type" } [],
            .node { kind := "identifier", start := 40, stop := 41, field := some "name" } [],
            .node { kind := "formal_parameters", start := 41, stop := 46,
                    field := some "parameters" } [
              .node { kind := "(", isNamed := false, start := 41, stop := 42 } [],
              .node { kind := "formal_parameter", start := 42, stop := 45 } [
                .node { kind := "type_identifier", start := 42, stop := 43,
                        field := some "type" } [],
                .node { kind := "identifier", start := 44, stop := 45, field := some "name" } []],
              .node { kind := ")", isNamed := false, start := 45, stop := 46 } []],
            .node { kind := "block", start := 47, stop := 88, field := some "body" } [
              .node { kind := "\x7b", isNamed := false, start := 47, stop := 48 } [],
              .node { kind := "expression_statement", start := 49, stop := 86 } [
                .node { kind := "object_creation_expression", start := 49, stop := 85 } [
                  .node { kind := "new", isNamed := false, start := 49, stop := 52 } [],
                  .node { kind := "type_identifier", start := 53, stop := 54,
                          field := some "type" } [],
                  .node { kind := "argument_list", start := 54, stop := 56,
                          field := some "arguments" } [
                    .node { kind := "(", isNamed := false, start := 54, stop := 55 } [],
                    .node { kind := ")", isNamed := false, start := 55, stop := 56 } []],
                  .node { kind := "class_body", start := 57, stop := 85 } [
                    .node { kind := "\x7b", isNamed := false, start := 57, stop := 58 } [],
                    .node { kind := "field_declaration", start := 59, stop := 63 } [
                      .node { kind := "type_identifier", start := 59, stop := 60,
                              field := some "type" } [],
                      .node { kind := "variable_declarator", start := 61, stop := 62,
                              field := some "declarator" } [
                        .node { kind := "identifier", start := 61, stop := 62,
                                field := some "name" } []],
                      .node { kind := ";", isNamed := false, start := 62, stop := 63 } []],
                    .node { kind := "method_declaration", start := 64, stop := 83 } [
                      .node { kind := "void_type", start := 64, stop := 68,
                              field := some "type" } [],
                      .node { kind := "identifier", start := 69, stop := 70,
                              field := some "name" } [],
                      .node { kind := "formal_parameters", start := 70, stop := 72,
                              field := some "parameters" } [
                        .node { kind := "(", isNamed := false, start := 70, stop := 71 } [],
                        .node { kind := ")", isNamed := false, start := 71, stop := 72 } []],
                      .node { kind := "block", start := 73, stop := 83, field := some "body" } [
                        .node { kind := "\x7b", isNamed := false, start := 73, stop := 74 } [],
                        .node { kind := "expression_statement", start := 75, stop := 81 } [
                          .node { kind := "method_invocation", start := 75, stop := 80 } [
                            .node { kind := "identifier", start := 75, stop := 76,
                                    field := some "object" } [],
                            .node { kind := ".", isNamed := false, start := 76, stop := 77 } [],
                            .node { kind := "identifier", start := 77, stop := 78,
                                    field := some "name" } [],
                            .node { kind := "argument_list", start := 78, stop := 80,
                                    field := some "arguments" } [
                              .node { kind := "(", isNamed := false, start := 78, stop := 79 } [],
                              .node { kind := ")", isNamed := false, start := 79, stop := 80 } []]],
                          .node { kind := ";", isNamed := false, start := 80, stop := 81 } []],
                        .node { kind := "\x7d", isNamed := false, start := 82, stop := 83 } []]],
                    .node { kind := "\x7d", isNamed := false, start := 84, stop := 85 } []]],
                .node { kind := ";", isNamed := false, start := 85, stop := 86 } []],
              .node { kind := "\x7d", isNamed := false, start := 87, stop := 88 } []]],
          .node { kind := "\x7d", isNamed := false, start := 89, stop := 90 } []]]]

/-- The index of the class over an empty hierarchy. -/
def shadowedIndex : Index :=
  (build shadowed {}).toOption.getD { unit := shadowed, hierarchy := {} }

/-- The two uses with the classes around them, nearer than which nothing binds the name. -/
theorem known_shadowed :
    let x := shadowedIndex
    let outside := Rule.nodeAt shadowed "identifier" 26
    let inside := Rule.nodeAt shadowed "identifier" 75
    (build shadowed {}).isOk = true ∧ (x.unit.root.preorder.map Cursor.key).Nodup ∧
    (outside.kind = "identifier" ∧ shadowed.textOf outside = "x" ∧
      (∀ scope ∈ outside.parents.take 5, ¬ Binds x "x" outside scope) ∧
      ∃ owner ∈ outside.parents[5]?, owner.declaresClass = true ∧
        qualifiedName shadowed owner = some "A" ∧
        ∃ field ∈ lastField? shadowed (declarations shadowed) "A" "x", ∃ type ∈ field.1,
          field.2.kind ≠ "enum_constant" ∧
          ¬ (type.kind = "type_identifier" ∧ shadowed.textOf type = "var") ∧
          (x.declaredAs type field.2).toOption = some (.ofClass "E")) ∧
    inside.kind = "identifier" ∧ shadowed.textOf inside = "x" ∧
      (∀ scope ∈ inside.parents.take 5, ¬ Binds x "x" inside scope) ∧
      (∃ body ∈ inside.parents[4]?, (body.parts.flatMap (fieldsOfMember shadowed)).map
        (fun field => (field.1, shadowed.textOf? field.2.1)) = [("x", "R")]) ∧
      (∃ owner ∈ inside.parents[5]?, LeftOut shadowed owner) ∧
      (outcome (variableIn x (x.plainWithin 0) "x" inside (inside.parents.drop 6)) {}).toOption =
        some (some (.ofClass "S")) := by
  decide +kernel

theorem build_shadowed : build shadowed {} = .ok shadowedIndex :=
  eq_ok_getD_of_isOk known_shadowed.1 _

/-- The field of the class has its type, and the field of the anonymous class has the type of the
parameter outside. -/
theorem fields_shadow_by_name_shadowed :
    let s : Subject (StateM Memo) := { unit := shadowed, oracle := shadowedIndex.oracle }
    let outside := Rule.nodeAt shadowed "identifier" 26
    let inside := Rule.nodeAt shadowed "identifier" 75
    ((s.oracle.typeOf outside).run {}).1 = .ok (.type (.ofClass "E")) ∧
    (∃ body ∈ inside.parents[4]?, (body.parts.flatMap (fieldsOfMember shadowed)).map
      (fun field => (field.1, shadowed.textOf? field.2.1)) = [("x", "R")]) ∧
    ((s.oracle.typeOf inside).run {}).1 = .ok (.type (.ofClass "S")) := by
  intro s outside inside
  obtain ⟨-, hkeys, ⟨hkind, htext, hfree, owner, howner, hclass, hname, ⟨type?, declarator⟩, hfield,
    type, rfl, hconstant, hwritten, htype⟩, hkind', htext', hfree', hbody, ⟨owner', howner', hleft⟩,
    hmeans⟩ := known_shadowed
  have hbelow : Cursor.Below shadowed.root outside := Rule.below_nodeAt _ _ _
  have hbelow' : Cursor.Below shadowed.root inside := Rule.below_nodeAt _ _ _
  obtain ⟨hshadows, -⟩ := fields_shadow_by_name build_shadowed hkeys shadowed.textOf hbelow hkind
    (eq_take_append_cons howner) (htext.symm ▸ hfree)
  obtain ⟨-, hpasses⟩ := fields_shadow_by_name build_shadowed hkeys shadowed.textOf hbelow' hkind'
    (eq_take_append_cons howner') (htext'.symm ▸ hfree')
  refine ⟨?_, hbody, ?_⟩
  · have hown := (hshadows "A" hclass hname).2 type declarator (htext.symm ▸ hfield) hconstant
      hwritten
    exact hown.2 _ (eq_ok_of_toOption htype) {} .start
  · exact (hpasses hleft).2 0 _ (htext'.symm ▸ eq_ok_of_toOption hmeans) {} .start

end CauseLint.Index
