import CauseLint.Proofs.Effects
import CauseLint.Proofs.Hierarchy.Descent
import CauseLint.Types.Index

/-!
# The passes of an index

The second and the third pass take turns: one declaration, or one node that is caught or thrown, is
read with the index as the turns before it left it, and what is read goes into the index. A turn
changes one entry of the hierarchy at most. The names of the classes are all in place before the
second pass, and no turn adds or removes any.

Results:

* `Index.exists_turn_of_addDeclarations`, `Index.exists_turn_of_addThrown`: each node has its turn.
* `Index.sameNames_of_build`: the names are those of the first pass at every turn and in the end.
* `Index.get?_addDeclarations_of_not_mem`: a turn is about its own class.
* `Index.get?_addThrown`: the third pass adds classes below `java.lang.Throwable` and nothing else.
-/

namespace CauseLint.Index

variable {u : SourceUnit} {parent : Hierarchy} {x y z : Index}

/-! ## Turns -/

/-- The index behind the turn of a declaration. -/
def record (x : Index) (d : Cursor × String) (supers : List String) : Index :=
  { x with
    hierarchy :=
      x.hierarchy.declare { name := d.2, supertypes := supers, isInterface := isInterface d.1 }
    classes := x.classes.update d.2 { node := d.1 } (addMembers x.unit d.1) }

/-- The index behind the turn of a node that is caught or thrown. -/
def mark (x : Index) (t : StaticType) : Index :=
  if t.isClass && !x.hierarchy.knows t.name then
    { x with hierarchy := x.hierarchy.declare { name := t.name, supertypes := [throwableClass] } }
  else x

theorem addDeclarations_cons (d : Cursor × String) (ds : List (Cursor × String)) (x : Index) :
    addDeclarations (d :: ds) x =
      declaredSupertypes x d.1 >>= fun s => addDeclarations ds (x.record d s) := rfl

theorem addThrown_cons (c : Cursor) (cs : List Cursor) (x : Index) :
    addThrown (c :: cs) x = x.writtenType c >>= fun t => addThrown cs (x.mark t) := by
  rw [addThrown]
  congr 1
  funext t
  cases t with
  | cls name args isTypeName =>
    show (if x.hierarchy.knows name then _ else _) =
      addThrown cs (if !x.hierarchy.knows name then _ else x)
    cases x.hierarchy.knows name <;> rfl
  | _ => rfl

theorem addDeclarations_append (ds es : List (Cursor × String)) (x : Index) :
    addDeclarations (ds ++ es) x = addDeclarations ds x >>= addDeclarations es := by
  induction ds generalizing x with
  | nil => rfl
  | cons d ds ih => 
    rw [List.cons_append, addDeclarations_cons, addDeclarations_cons, bind_assoc]
    exact congrArg _ (funext fun s => ih _)

theorem addThrown_append (cs ds : List Cursor) (x : Index) :
    addThrown (cs ++ ds) x = addThrown cs x >>= addThrown ds := by
  induction cs generalizing x with
  | nil => rfl
  | cons c cs ih => 
    rw [List.cons_append, addThrown_cons, addThrown_cons, bind_assoc]
    exact congrArg _ (funext fun t => ih _)

/-- A declaration has its turn behind those before it. -/
theorem exists_turn_of_addDeclarations {before after : List (Cursor × String)} {d : Cursor × String}
    (h : addDeclarations (before ++ d :: after) x = .ok y) :
    ∃ z s, addDeclarations before x = .ok z ∧ declaredSupertypes z d.1 = .ok s ∧
      addDeclarations after (z.record d s) = .ok y := by
  rw [addDeclarations_append] at h
  obtain ⟨z, hz, h⟩ := exists_of_bind_eq_ok h
  obtain ⟨s, hs, h⟩ := exists_of_bind_eq_ok (addDeclarations_cons d after z ▸ h)
  exact ⟨z, s, hz, hs, h⟩

/-- A node that is caught or thrown has its turn behind those before it. -/
theorem exists_turn_of_addThrown {before after : List Cursor} {c : Cursor}
    (h : addThrown (before ++ c :: after) x = .ok y) :
    ∃ z t, addThrown before x = .ok z ∧ z.writtenType c = .ok t ∧
      addThrown after (z.mark t) = .ok y := by
  rw [addThrown_append] at h
  obtain ⟨z, hz, h⟩ := exists_of_bind_eq_ok h
  obtain ⟨t, ht, h⟩ := exists_of_bind_eq_ok (addThrown_cons c after z ▸ h)
  exact ⟨z, t, hz, ht, h⟩

/-- What all turns of some declarations keep holds behind them. -/
theorem addDeclarations_induction {p : Index → Prop} {ds : List (Cursor × String)}
    (hrecord : ∀ x, ∀ d ∈ ds, ∀ s, p x → p (x.record d s)) (hx : p x)
    (h : addDeclarations ds x = .ok y) : p y := by
  induction ds generalizing x with
  | nil => exact Except.ok.inj h ▸ hx
  | cons d ds ih =>
    obtain ⟨s, -, h⟩ := exists_of_bind_eq_ok (addDeclarations_cons d ds x ▸ h)
    exact ih (fun x d hd => hrecord x d (List.mem_cons_of_mem _ hd))
      (hrecord x d List.mem_cons_self s hx) h

/-- What a turn of the third pass keeps holds behind it. -/
theorem addThrown_induction {p : Index → Prop} (hmark : ∀ x t, p x → p (x.mark t)) (hx : p x)
    {cs : List Cursor} (h : addThrown cs x = .ok y) : p y := by
  induction cs generalizing x with
  | nil => exact Except.ok.inj h ▸ hx
  | cons c cs ih =>
    obtain ⟨t, -, h⟩ := exists_of_bind_eq_ok (addThrown_cons c cs x ▸ h)
    exact ih (hmark x t hx) h

/-- The two passes behind the first one. -/
theorem exists_declared_of_build (h : build u parent = .ok x) :
    ∃ y, addDeclarations (declarations u) (ofNames u parent) = .ok y ∧
      addThrown (thrownNodes u) y = .ok x := exists_of_bind_eq_ok h

/-! ## Names -/

/-- The second index is about the unit of the first one, in the same room, and declares the same
classes. -/
structure SameNames (x y : Index) : Prop where
  unit : y.unit = x.unit
  room : y.room = x.room
  classAt : y.classAt = x.classAt
  contains : ∀ name, y.classes.contains name = x.classes.contains name

theorem SameNames.symm (h : SameNames x y) : SameNames y x :=
  ⟨h.unit.symm, h.room.symm, h.classAt.symm, fun name => (h.contains name).symm⟩

theorem SameNames.trans (h : SameNames x y) (h' : SameNames y z) : SameNames x z :=
  ⟨h'.unit.trans h.unit, h'.room.trans h.room, h'.classAt.trans h.classAt,
    fun name => (h'.contains name).trans (h.contains name)⟩

/-- A declaration that is named already brings no new name. -/
theorem sameNames_record {d : Cursor × String} (hd : x.classes.contains d.2 = true)
    (supers : List String) : SameNames x (x.record d supers) where
  unit := rfl
  room := rfl
  classAt := rfl
  contains name := by
    refine (Table.contains_insert x.classes d.2 name _).trans ?_
    by_cases heq : name = d.2
    · rw [heq, hd, Bool.or_true]
    · rw [beq_eq_false_iff_ne.2 heq, Bool.false_or]

theorem sameNames_mark (x : Index) (t : StaticType) : SameNames x (x.mark t) := by
  unfold mark
  split <;> exact ⟨rfl, rfl, rfl, fun _ => rfl⟩

theorem sameNames_addDeclarations {ds : List (Cursor × String)}
    (hds : ∀ d ∈ ds, x.classes.contains d.2 = true) (h : addDeclarations ds x = .ok y) :
    SameNames x y := by
  refine addDeclarations_induction (p := SameNames x) ?_ ⟨rfl, rfl, rfl, fun _ => rfl⟩ h
  intro z d hd s hz
  exact hz.trans (sameNames_record ((hz.contains d.2).trans (hds d hd)) s)

theorem sameNames_addThrown {cs : List Cursor} (h : addThrown cs x = .ok y) : SameNames x y :=
  addThrown_induction (p := SameNames x) (fun z t hz => hz.trans (sameNames_mark z t))
    ⟨rfl, rfl, rfl, fun _ => rfl⟩ h

/-- The first pass names every declared class. -/
theorem contains_ofNames {d : Cursor × String} (hd : d ∈ declarations u) (parent : Hierarchy) :
    (ofNames u parent).classes.contains d.2 = true := by
  unfold ofNames
  generalize declarations u = ds at hd
  -- A name that is there stays there, so the classes so far are part of the statement.
  suffices ∀ x : Index, (x.classes.contains d.2 = true ∨ d ∈ ds) →
      (ds.foldl (fun x d =>
        { x with
          classes := x.classes.insert d.2 { node := d.1 }
          classAt := x.classAt.insert d.1.key d.2 }) x).classes.contains d.2 = true from
    this _ (.inr hd)
  clear hd
  induction ds with
  | nil => exact fun x h => h.resolve_right List.not_mem_nil
  | cons e ds ih =>
    intro x h
    refine ih _ ?_
    rcases h with h | h
    · left
      rw [Table.contains_insert, h, Bool.or_true]
    · refine (List.mem_cons.1 h).imp_left fun heq => ?_
      rw [Table.contains_insert, heq, BEq.rfl, Bool.true_or]

/-- The names are those of the first pass at each turn of the second one. -/
theorem sameNames_turn {ds : List (Cursor × String)} (hds : ∀ d ∈ ds, d ∈ declarations u)
    (h : addDeclarations ds (ofNames u parent) = .ok z) : SameNames (ofNames u parent) z :=
  sameNames_addDeclarations (fun d hd => contains_ofNames (hds d hd) parent) h

/-- The names are those of the first pass in the end. -/
theorem sameNames_of_build (h : build u parent = .ok x) : SameNames (ofNames u parent) x := by
  obtain ⟨y, hy, hx⟩ := exists_declared_of_build h
  exact (sameNames_turn (fun _ hd => hd) hy).trans (sameNames_addThrown hx)

/-! ## Entries -/

/-- A turn of the second pass is about its own class. -/
theorem get?_addDeclarations_of_not_mem {ds : List (Cursor × String)} {name : String}
    (hname : name ∉ ds.map Prod.snd) (h : addDeclarations ds x = .ok y) :
    y.hierarchy.get? name = x.hierarchy.get? name := by
  refine addDeclarations_induction (p := fun z => z.hierarchy.get? name = x.hierarchy.get? name)
    ?_ rfl h
  intro z d hd s hz
  show (z.hierarchy.declare _).get? name = _
  rw [Hierarchy.get?_declare, if_neg fun heq => hname (List.mem_map.2 ⟨d, hd, heq.symm⟩)]
  exact hz

/-- The third pass changes nothing that was known, and what it adds is known as a direct subclass of
`java.lang.Throwable`. -/
theorem get?_addThrown {cs : List Cursor} (h : addThrown cs x = .ok y) (name : String) :
    y.hierarchy.get? name = x.hierarchy.get? name ∨
      x.hierarchy.knows name = false ∧
        y.hierarchy.get? name = some { name, supertypes := [throwableClass] } := by
  refine addThrown_induction (p := fun z => z.hierarchy.get? name = x.hierarchy.get? name ∨
    x.hierarchy.knows name = false ∧
      z.hierarchy.get? name = some { name, supertypes := [throwableClass] }) ?_ (.inl rfl) h
  intro z t hz
  unfold mark
  split
  · rename_i hnew
    obtain ⟨-, hunknown⟩ : t.isClass = true ∧ z.hierarchy.knows t.name = false := by
      simpa using hnew
    show (z.hierarchy.declare _).get? name = _ ∨ _ ∧ (z.hierarchy.declare _).get? name = _
    rw [Hierarchy.get?_declare]
    split
    · rename_i heq
      obtain rfl : name = t.name := heq
      refine .inr ⟨?_, rfl⟩
      rcases hz with hz | hz
      · rwa [Hierarchy.knows, ← hz]
      · exact hz.1
    · exact hz
  · exact hz

/-- A class is known behind its turn. -/
theorem knows_mark {t : StaticType} (ht : t.isClass = true) :
    (x.mark t).hierarchy.knows t.name = true := by
  unfold mark
  rw [ht, Bool.true_and]
  split
  · show ((x.hierarchy.declare _).get? t.name).isSome = true
    rw [Hierarchy.get?_declare, if_pos rfl]
    rfl
  · rename_i hknown
    simpa using hknown

/-- What is known stays known in the third pass. -/
theorem knows_addThrown {cs : List Cursor} (h : addThrown cs x = .ok y) {name : String}
    (hname : x.hierarchy.knows name = true) : y.hierarchy.knows name = true := by
  rcases get?_addThrown h name with hget | ⟨hunknown, -⟩
  · rwa [Hierarchy.knows, hget]
  · rw [hname] at hunknown
    cases hunknown

end CauseLint.Index
