import CauseLint.Proofs.Types.Members
import CauseLint.Types.Typing

/-!
# What a typing asks for

The typing of an expression is put together from the typings of others, from the types that are
written in the unit, and from nothing else. So a relation between typings that holds of what is
written and that goes through one step after another relates the typings of an expression whenever
it relates the typings of the nodes of the unit, since these are all that is ever asked for. The two
sides may type with one index in two rooms, since the room shows in what is written only.

Results:

* `Index.Respected.compute`: such a relation passes from the nodes of a unit to an expression.
-/

namespace CauseLint.Index

/-! ## Ways down -/

theorem below_of_firstOfKind {kinds : List String} {c d : Cursor}
    (h : firstOfKind kinds c.parts = some d) : Cursor.Below c d :=
  Cursor.below_of_mem_parts (List.mem_of_find?_eq_some h)

theorem mem_of_reverse_eq {parts rest : List Cursor} {ident type : Cursor}
    (h : parts.reverse = ident :: type :: rest) : type ∈ parts := by
  rw [← List.mem_reverse, h]
  exact List.mem_cons_of_mem _ List.mem_cons_self

theorem below_of_patternBinding? {c ident type : Cursor}
    (h : patternBinding? c = some (ident, type)) : Cursor.Below c type := by
  unfold patternBinding? at h
  dsimp only at h
  split at h
  · split at h
    · obtain ⟨t, ht, hpair⟩ := Option.map_eq_some_iff.1 h
      obtain ⟨rfl, rfl⟩ := Prod.mk.inj hpair
      exact Cursor.below_of_childByField? ht
    split at h
    · rename_i hreverse
      split at h
      · obtain ⟨rfl, rfl⟩ := Prod.mk.inj (Option.some.inj h)
        exact Cursor.below_of_mem_parts (mem_of_reverse_eq hreverse)
      · cases h
    · cases h
  split at h
  · split at h
    · rename_i hreverse
      split at h
      · obtain ⟨rfl, rfl⟩ := Prod.mk.inj (Option.some.inj h)
        exact Cursor.below_of_mem_parts (List.mem_filter.1 (mem_of_reverse_eq hreverse)).1
      · cases h
    · cases h
  · cases h

theorem mem_of_pickOverload {arity : Nat} {methods : List Cursor} {m : Cursor}
    (h : pickOverload arity methods = some m) : m ∈ methods := by
  unfold pickOverload at h
  dsimp only at h
  split at h
  · rename_i n hn
    obtain rfl := Option.some.inj h
    exact List.mem_of_find?_eq_some hn
  · exact List.mem_of_head? h

/-! ## One index in two rooms -/

section

variable (x : Index) (room : Nat)

@[simp] theorem within_unit : (x.within room).unit = x.unit := rfl

@[simp] theorem within_hierarchy : (x.within room).hierarchy = x.hierarchy := rfl

@[simp] theorem within_classes : (x.within room).classes = x.classes := rfl

@[simp] theorem within_classAt : (x.within room).classAt = x.classAt := rfl

@[simp] theorem within_room : (x.within room).room = room := rfl

@[simp] theorem declaratorNamed_within (decl : Cursor) (name : String) :
    declaratorNamed (x.within room) decl name = declaratorNamed x decl name := rfl

@[simp] theorem resolveSimple_within (name : String) (context : Option Cursor) :
    (x.within room).resolveSimple name context = x.resolveSimple name context := rfl

@[simp] theorem resolve_within (name : String) (context : Option Cursor) :
    (x.within room).resolve name context = x.resolve name context := rfl

@[simp] theorem endsIn_within (c : Cursor) (lower upper : Char) :
    endsIn (x.within room) c lower upper = endsIn x c lower upper := rfl

end

/-! ## Relations between typings -/

/-- A relation between typings that respects how typings in a unit are put together. -/
structure Respected (x y : Index) (R : {α : Type} → Typing α → Typing α → Prop) : Prop where
  /-- The two sides differ in their room only. -/
  same : y = x.within y.room
  pure : ∀ {α : Type} (a : α), R (pure a) (pure a)
  /-- What is written in the unit is related. -/
  written : ∀ c, (∀ d, c = some d → Cursor.Below x.unit.root d) → R (x.written c) (y.written c)
  bind : ∀ {α β : Type} {a b : Typing α} {f g : α → Typing β}, R a b → (∀ v, R (f v) (g v)) →
    R (a >>= f) (b >>= g)

namespace Respected

variable {x y : Index} {R : {α : Type} → Typing α → Typing α → Prop}

/-- Where the room is the same, it is enough to relate everything that can be read off a tree. -/
theorem of_read
    (read : ∀ {α : Type} (e : Except Endless α),
      R (ExceptT.mk (Pure.pure e)) (ExceptT.mk (Pure.pure e)))
    (bind : ∀ {α β : Type} {a b : Typing α} {f g : α → Typing β}, R a b → (∀ v, R (f v) (g v)) →
      R (a >>= f) (b >>= g)) : Respected x x R where
  same := rfl
  pure a := read (.ok a)
  written _ _ := read _
  bind := bind

/-- Choices by one condition are related when their branches are. -/
theorem branch {p : Prop} [Decidable p] {α : Type} {a b c d : Typing α} (hthen : p → R a b)
    (helse : ¬ p → R c d) : R (if p then a else c) (if p then b else d) := by
  split
  · exact hthen ‹p›
  · exact helse ‹¬ p›

variable (hR : Respected x y R)

include hR

theorem exists_within : ∃ room, y = x.within room := ⟨_, hR.same⟩

theorem map {α β : Type} {a b : Typing α} (φ : α → β) (h : R a b) : R (φ <$> a) (φ <$> b) := by
  rw [map_eq_pure_bind, map_eq_pure_bind]
  exact hR.bind h fun v => hR.pure (φ v)

theorem orElse {a b c d : Typing (Option StaticType)} (hab : R a b) (hcd : R c d) :
    R (Index.orElse a c) (Index.orElse b d) := by
  refine hR.bind hab ?_
  rintro (_ | t)
  · exact hcd
  · exact hR.pure _

/-! ## What asks for nothing -/

/-- The type that is written at a node. -/
theorem written_some {c : Cursor} (hc : Cursor.Below x.unit.root c) :
    R (x.written (some c)) (y.written (some c)) :=
  hR.written _ fun _ hd => Option.some.inj hd ▸ hc

/-- The type that is written in a field of a node. -/
theorem written_childByField? {c : Cursor} (hc : Cursor.Below x.unit.root c) (field : String) :
    R (x.written (c.childByField? field)) (y.written (c.childByField? field)) :=
  hR.written _ fun _ hd => hc.trans (Cursor.below_of_childByField? hd)

theorem writtenTypes {cs : List Cursor} (hcs : ∀ c ∈ cs, Cursor.Below x.unit.root c) :
    R (writtenTypes x cs) (writtenTypes y cs) := by
  induction cs with
  | nil => exact hR.pure _
  | cons c cs ih =>
    obtain ⟨hc, hcs⟩ := List.forall_mem_cons.1 hcs
    exact hR.bind (hR.written_some hc) fun t => hR.bind (ih hcs) fun ts => hR.pure _

theorem caughtVariable (name : String) {clause : Cursor}
    (hclause : Cursor.Below x.unit.root clause) :
    R (caughtVariable x name clause) (caughtVariable y name clause) := by
  obtain ⟨room, rfl⟩ := hR.exists_within
  unfold Index.caughtVariable
  dsimp +instances only [within_unit, within_hierarchy]
  split
  · exact hR.pure _
  rename_i parameter hparameter
  split
  · split
    · exact hR.pure _
    · rename_i alternatives halternatives
      have hbelow : ∀ c ∈ alternatives.parts, Cursor.Below x.unit.root c := fun c hc =>
        ((hclause.trans (below_of_firstOfKind hparameter)).trans
          (below_of_firstOfKind halternatives)).trans (Cursor.below_of_mem_parts hc)
      refine hR.bind (hR.writtenTypes hbelow) fun ts => ?_
      split <;> exact hR.pure _
  · exact hR.pure _

theorem patternVariable (name : String) (offset : Nat) {cs : List Cursor}
    (hcs : ∀ c ∈ cs, Cursor.Below x.unit.root c) (found : Option StaticType) :
    R (patternVariable x name offset cs found) (patternVariable y name offset cs found) := by
  obtain ⟨room, rfl⟩ := hR.exists_within
  induction cs generalizing found with
  | nil => exact hR.pure _
  | cons c cs ih =>
    obtain ⟨hc, hcs⟩ := List.forall_mem_cons.1 hcs
    unfold Index.patternVariable
    dsimp +instances only [within_unit]
    split
    · exact ih hcs _
    split
    · rename_i ident type hbinding
      split
      · exact hR.bind (hR.written_some (hc.trans (below_of_patternBinding? hbinding))) fun t =>
          ih hcs _
      · exact ih hcs _
    · exact ih hcs _

theorem castType {c : Cursor} (hc : Cursor.Below x.unit.root c) :
    R (castType x c) (castType y c) := by
  unfold Index.castType
  split
  · split
    · exact hR.pure _
    · exact hR.written_childByField? hc _
  · exact hR.written_childByField? hc _

theorem newArrayType {c : Cursor} (hc : Cursor.Below x.unit.root c) :
    R (newArrayType x c) (newArrayType y c) := by
  obtain ⟨room, rfl⟩ := hR.exists_within
  exact hR.bind (hR.written_childByField? hc _) fun _ => hR.pure _

theorem returnType (hx : x.Rooted) (name : String) (arity : Nat) (receiver : StaticType)
    (classes : List String) :
    R (returnType x name arity receiver classes) (returnType y name arity receiver classes) := by
  obtain ⟨room, rfl⟩ := hR.exists_within
  induction classes with
  | nil => exact hR.pure _
  | cons c rest ih =>
    unfold Index.returnType
    dsimp +instances only [within_classes, within_hierarchy]
    split
    · rename_i methods hmethods
      obtain ⟨d, hd, hmethods⟩ := Option.bind_eq_some_iff.1 hmethods
      refine hR.written _ fun type htype => ?_
      obtain ⟨m, hm, htype⟩ := Option.bind_eq_some_iff.1 htype
      exact ((hx _ (Table.mem_entries_of_get? hd)).method _ (Table.mem_entries_of_get? hmethods) m
        (mem_of_pickOverload hm)).trans (Cursor.below_of_childByField? htype)
    split
    · exact hR.pure _
    · exact ih

theorem enclosingType {scopes : List Cursor} (hscopes : ∀ c ∈ scopes, Cursor.Below x.unit.root c) :
    R (ExceptT.mk (Pure.pure (x.enclosingType scopes)))
      (ExceptT.mk (Pure.pure (y.enclosingType scopes))) := by
  obtain ⟨room, rfl⟩ := hR.exists_within
  induction scopes with
  | nil => exact hR.pure _
  | cons c outer ih =>
    obtain ⟨hc, houter⟩ := List.forall_mem_cons.1 hscopes
    unfold Index.enclosingType
    dsimp +instances only [within_classAt]
    split
    · exact hR.pure _
    split
    · split
      · rename_i p hp
        split
        · have hbelow : Cursor.Below x.unit.root p :=
            Cursor.parents_below rfl hc (Cursor.mem_parents_of_parent? hp)
          exact hR.written_childByField? hbelow _
        · exact ih houter
      · exact ih houter
    · exact ih houter

/-- The type of the class around a node of the unit. -/
theorem enclosingClassType {c : Cursor} (hc : Cursor.Below x.unit.root c) :
    R (x.enclosingClassType c) (y.enclosingClassType c) :=
  hR.enclosingType fun _ hd => Cursor.parents_below rfl hc hd

/-! ## What asks for nodes of the unit -/

variable {f g : Cursor → Typing StaticType}
  (h : ∀ c, Cursor.Below x.unit.root c → R (f c) (g c))

include h

theorem typeOf? {c : Option Cursor} (hc : ∀ d, c = some d → Cursor.Below x.unit.root d) :
    R (typeOf? f c) (typeOf? g c) := by
  cases c with
  | none => exact hR.pure _
  | some d => exact h d (hc d rfl)

/-- The type of what fills a field of a node. -/
theorem typeOf?_childByField? {c : Cursor} (hc : Cursor.Below x.unit.root c) (field : String) :
    R (Index.typeOf? f (c.childByField? field)) (Index.typeOf? g (c.childByField? field)) :=
  hR.typeOf? h fun _ hd => hc.trans (Cursor.below_of_childByField? hd)

theorem declaredType {type : Option Cursor}
    (htype : ∀ t, type = some t → Cursor.Below x.unit.root t) {d : Cursor}
    (hd : Cursor.Below x.unit.root d) : R (declaredType x f type d) (declaredType y g type d) := by
  obtain ⟨room, rfl⟩ := hR.exists_within
  unfold Index.declaredType
  dsimp +instances only [within_unit]
  split
  · exact hR.pure _
  split
  · exact hR.typeOf?_childByField? h hd _
  · refine hR.bind (hR.written_some (htype _ rfl)) fun t => ?_
    split <;> exact hR.pure _

/-- The type of a variable whose type fills a field of a node. -/
theorem declaredType_childByField? {c : Cursor} (hc : Cursor.Below x.unit.root c) (field : String)
    {d : Cursor} (hd : Cursor.Below x.unit.root d) :
    R (Index.declaredType x f (c.childByField? field) d)
      (Index.declaredType y g (c.childByField? field) d) :=
  hR.declaredType h (fun _ ht => hc.trans (Cursor.below_of_childByField? ht)) hd

omit hR h in
theorem below_of_declaratorNamed {decl d : Cursor} {name : String}
    (hdecl : Cursor.Below x.unit.root decl) (hd : declaratorNamed x decl name = some d) :
    Cursor.Below x.unit.root d :=
  hdecl.child (List.mem_filter.1 (List.mem_of_find?_eq_some hd)).1

theorem localVariable (name : String) (offset : Nat) {cs : List Cursor}
    (hcs : ∀ c ∈ cs, Cursor.Below x.unit.root c) (found : Option StaticType) :
    R (localVariable x f name offset cs found) (localVariable y g name offset cs found) := by
  obtain ⟨room, rfl⟩ := hR.exists_within
  induction cs generalizing found with
  | nil => exact hR.pure _
  | cons c cs ih =>
    obtain ⟨hc, hcs⟩ := List.forall_mem_cons.1 hcs
    unfold Index.localVariable
    dsimp +instances only [declaratorNamed_within]
    split
    · exact hR.pure _
    split
    · split
      · rename_i d hd
        exact hR.bind (hR.declaredType_childByField? h hc _ (below_of_declaratorNamed hc hd))
          fun t => ih hcs _
      · exact ih hcs _
    · exact ih hcs _

theorem loopVariable (name : String) {cs : List Cursor}
    (hcs : ∀ c ∈ cs, Cursor.Below x.unit.root c) :
    R (loopVariable x f name cs) (loopVariable y g name cs) := by
  obtain ⟨room, rfl⟩ := hR.exists_within
  induction cs with
  | nil => exact hR.pure _
  | cons c cs ih =>
    obtain ⟨hc, hcs⟩ := List.forall_mem_cons.1 hcs
    unfold Index.loopVariable
    dsimp +instances only [declaratorNamed_within]
    split
    · split
      · rename_i d hd
        exact hR.map _ (hR.declaredType_childByField? h hc _ (below_of_declaratorNamed hc hd))
      · exact ih hcs
    · exact ih hcs

theorem elementVariable (name : String) {loop : Cursor}
    (hloop : Cursor.Below x.unit.root loop) :
    R (elementVariable x f name loop) (elementVariable y g name loop) := by
  obtain ⟨room, rfl⟩ := hR.exists_within
  unfold Index.elementVariable
  dsimp +instances only [within_unit]
  split
  · split
    · split
      · refine hR.bind (hR.typeOf?_childByField? h hloop _) fun t => ?_
        split <;> exact hR.pure _
      · exact hR.map _ (hR.written_childByField? hloop _)
    · exact hR.map _ (hR.written_childByField? hloop _)
  · exact hR.pure _

theorem resourceVariable (name : String) {resources : List Cursor}
    (hres : ∀ c ∈ resources, Cursor.Below x.unit.root c) :
    R (resourceVariable x f name resources) (resourceVariable y g name resources) := by
  obtain ⟨room, rfl⟩ := hR.exists_within
  unfold Index.resourceVariable
  dsimp +instances only [within_unit]
  split
  · rename_i r hr
    have hbelow := hres r (List.mem_of_find?_eq_some hr)
    exact hR.map _ (hR.declaredType_childByField? h hbelow _ hbelow)
  · exact hR.pure _

theorem parameter (name : String) {cs : List Cursor}
    (hcs : ∀ c ∈ cs, Cursor.Below x.unit.root c) :
    R (parameter x f name cs) (parameter y g name cs) := by
  obtain ⟨room, rfl⟩ := hR.exists_within
  induction cs with
  | nil => exact hR.pure _
  | cons c cs ih =>
    obtain ⟨hc, hcs⟩ := List.forall_mem_cons.1 hcs
    unfold Index.parameter
    dsimp +instances only [within_unit]
    split
    · split
      · exact hR.map _ (hR.declaredType_childByField? h hc _ hc)
      · exact ih hcs
    split
    · split
      · split
        · refine hR.bind (hR.written _ fun type htype => hc.trans ?_) fun t => hR.pure _
          exact Cursor.below_of_mem_parts (List.mem_of_find?_eq_some htype)
        · exact ih hcs
      · exact ih hcs
    split
    · exact hR.pure _
    · exact ih hcs

theorem fieldAmong (hx : x.Rooted) (name : String) (classes : List String) :
    R (fieldAmong x f name classes) (fieldAmong y g name classes) := by
  obtain ⟨room, rfl⟩ := hR.exists_within
  induction classes with
  | nil => exact hR.pure _
  | cons c rest ih =>
    unfold Index.fieldAmong
    dsimp +instances only [within_classes]
    split
    · exact ih
    · rename_i type declarator hfield
      split
      · exact hR.pure _
      · obtain ⟨d, hd, hfield⟩ := Option.bind_eq_some_iff.1 hfield
        have hrooted := hx _ (Table.mem_entries_of_get? hd)
        have hentry := Table.mem_entries_of_get? hfield
        exact hR.map _ (hR.declaredType h (hrooted.type _ hentry) (hrooted.declarator _ hentry))

theorem fieldType (hx : x.Rooted) (cls name : String) :
    R (fieldType x f cls name) (fieldType y g cls name) := by
  obtain ⟨room, rfl⟩ := hR.exists_within
  exact hR.fieldAmong h hx name _

theorem boundBy (hx : x.Rooted) (name : String) (use : Cursor) {scope : Cursor}
    (hscope : Cursor.Below x.unit.root scope) :
    R (boundBy x f name use scope) (boundBy y g name use scope) := by
  have hparts : ∀ c ∈ scope.parts, Cursor.Below x.unit.root c := fun c hc =>
    hscope.trans (Cursor.below_of_mem_parts hc)
  have hfield : ∀ {e : Cursor} {field : String}, scope.childByField? field = some e →
      ∀ c ∈ e.parts, Cursor.Below x.unit.root c := fun he c hc =>
    (hscope.trans (Cursor.below_of_childByField? he)).trans (Cursor.below_of_mem_parts hc)
  obtain ⟨room, rfl⟩ := hR.exists_within
  unfold Index.boundBy
  dsimp +instances only [within_unit, within_classAt]
  refine branch (fun _ => hR.localVariable h name _ hparts _) fun _ => ?_
  refine branch (fun _ => hR.loopVariable h name fun c hc =>
    hscope.child (List.mem_filter.1 hc).1) fun _ => ?_
  refine branch (fun _ => hR.elementVariable h name hscope) fun _ => ?_
  refine branch (fun _ => hR.caughtVariable name hscope) fun _ => ?_
  refine branch (fun _ => hR.resourceVariable h name fun c hc => hscope.trans ?_) fun _ => ?_
  · exact below_of_mem_partsOf (fun e he => Cursor.below_of_childByField? he) hc
  refine branch (fun _ => ?_) fun _ => branch (fun _ => ?_) fun _ => hR.pure _
  · refine hR.orElse ?_ (hR.patternVariable name _
      (fun c hc => hscope.trans (Cursor.mem_preorder_iff.1 hc)) _)
    split
    · exact hR.pure _
    · rename_i ps hps
      split
      · exact hR.pure _
      · exact hR.parameter h name (hfield hps)
  · split
    · exact hR.fieldType h hx _ name
    · exact hR.pure _

theorem variableIn (hx : x.Rooted) (name : String) (use : Cursor) {scopes : List Cursor}
    (hscopes : ∀ c ∈ scopes, Cursor.Below x.unit.root c) :
    R (variableIn x f name use scopes) (variableIn y g name use scopes) := by
  induction scopes with
  | nil => exact hR.pure _
  | cons c cs ih =>
    obtain ⟨hc, hcs⟩ := List.forall_mem_cons.1 hscopes
    exact hR.orElse (hR.boundBy h hx name use hc) (ih hcs)

theorem identifierType (hx : x.Rooted) {c : Cursor} (hc : Cursor.Below x.unit.root c) :
    R (identifierType x f c) (identifierType y g c) := by
  obtain ⟨room, rfl⟩ := hR.exists_within
  unfold Index.identifierType
  dsimp +instances only [within_unit, resolveSimple_within]
  refine hR.bind (hR.variableIn h hx _ c fun d hd => Cursor.parents_below rfl hc hd) ?_
  rintro (_ | t)
  · dsimp only
    split <;> exact hR.pure _
  · exact hR.pure _

theorem fieldAccessType (hx : x.Rooted) {c : Cursor} (hc : Cursor.Below x.unit.root c) :
    R (fieldAccessType x f c) (fieldAccessType y g c) := by
  obtain ⟨room, rfl⟩ := hR.exists_within
  unfold Index.fieldAccessType
  dsimp +instances only [within_unit, within_hierarchy, within_classes]
  refine hR.bind (hR.typeOf?_childByField? h hc _) fun t => ?_
  split
  · exact hR.pure _
  · split
    · exact hR.pure _
    · exact hR.bind (hR.fieldType h hx _ _) fun t => hR.pure _
  · exact hR.pure _

theorem receiverTypeWith {c : Cursor} (hc : Cursor.Below x.unit.root c) :
    R (receiverTypeWith x f c) (receiverTypeWith y g c) := by
  unfold Index.receiverTypeWith
  split
  · rename_i r hr
    exact h r (hc.trans (Cursor.below_of_childByField? hr))
  · exact hR.enclosingClassType hc

theorem callType (hx : x.Rooted) {c : Cursor} (hc : Cursor.Below x.unit.root c) :
    R (callType x f c) (callType y g c) := by
  obtain ⟨room, rfl⟩ := hR.exists_within
  unfold Index.callType
  dsimp +instances only [within_unit, within_hierarchy]
  refine hR.bind (hR.receiverTypeWith h hc) fun t => ?_
  split
  · exact hR.returnType hx _ _ _ _
  · exact hR.pure _

theorem choiceType {c : Cursor} (hc : Cursor.Below x.unit.root c) :
    R (choiceType x f c) (choiceType y g c) := by
  obtain ⟨room, rfl⟩ := hR.exists_within
  exact hR.bind (hR.typeOf?_childByField? h hc _) fun _ =>
    hR.bind (hR.typeOf?_childByField? h hc _) fun _ => hR.pure _

theorem elementType {c : Cursor} (hc : Cursor.Below x.unit.root c) :
    R (elementType f c) (elementType g c) := by
  refine hR.bind (hR.typeOf?_childByField? h hc _) fun t => ?_
  split <;> exact hR.pure _

theorem binaryType {c : Cursor} (hc : Cursor.Below x.unit.root c) :
    R (binaryType f c) (binaryType g c) := by
  unfold Index.binaryType
  dsimp only
  split
  · exact hR.pure _
  · refine hR.bind (hR.typeOf?_childByField? h hc _) fun left =>
      hR.bind (hR.typeOf?_childByField? h hc _) fun right => ?_
    split <;> exact hR.pure _

/-- A relation that respects typings passes from the nodes of a unit to each expression in it. -/
theorem compute (hx : x.Rooted) {c : Cursor} (hc : Cursor.Below x.unit.root c) :
    R (compute x f c) (compute y g c) := by
  obtain ⟨room, rfl⟩ := hR.exists_within
  unfold Index.compute
  dsimp +instances only [endsIn_within]
  split
  · exact hR.typeOf? h fun d hd => hc.trans (Cursor.below_of_stripParens hd)
  · exact hR.pure _
  · exact hR.pure _
  · exact hR.pure _
  · exact hR.pure _
  · exact hR.pure _
  · exact hR.pure _
  · exact hR.pure _
  · exact hR.castType hc
  · exact hR.written_childByField? hc _
  · exact hR.newArrayType hc
  · exact hR.identifierType h hx hc
  · exact hR.enclosingClassType hc
  · exact hR.fieldAccessType h hx hc
  · exact hR.callType h hx hc
  · exact hR.choiceType h hc
  · exact hR.typeOf?_childByField? h hc _
  · exact hR.elementType h hc
  · exact hR.binaryType h hc
  · exact hR.pure _
  · split
    · exact hR.pure _
    · split <;> exact hR.pure _

end Respected

end CauseLint.Index
