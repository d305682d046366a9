import CauseLint.Proofs.Types.Names

/-!
# Recorded supertypes

The supertypes of a class are read once, at the turn of its declaration in the second pass. All
declared names are in place by then, but the supertypes of the classes further down are not, and
neither are those of the class itself. So a name in an `extends` or `implements` clause can mean
another class than it does to the finished index: one that is inherited through a class further
down is not found at the turn. What is recorded then depends on the order of the declarations.

Results:

* `Index.classNames_eq_iff`: when two stages of an index read type nodes as the same classes.
* `Index.supertypes_final_iff`: when the recorded supertypes are those of the finished index.
-/

namespace CauseLint.Index

variable {u : SourceUnit} {parent : Hierarchy} {x z : Index}

theorem classNames_cons (x : Index) (c : Cursor) (cs : List Cursor) :
    classNames x (c :: cs) = x.writtenType c >>= fun t => classNames x cs >>= fun names =>
      pure (t.className?.toList ++ names) := by
  rw [classNames]
  congr 1
  funext t
  cases t <;> rfl

/-- Two stages of an index read type nodes as the same classes exactly when the names that these are
read by mean the same to both. -/
theorem classNames_eq_iff (hunit : z.unit = x.unit) (hroom : z.room = x.room) {cs : List Cursor}
    {before after : List String} (hz : classNames z cs = .ok before)
    (hx : classNames x cs = .ok after) :
    before = after ↔ ∀ c ∈ cs, ∀ v, NamedBy x.unit c v → z.meaning v = x.meaning v := by
  induction cs generalizing before after with
  | nil =>
    obtain rfl := Except.ok.inj hz
    obtain rfl := Except.ok.inj hx
    simp
  | cons c cs ih =>
    rw [classNames_cons] at hz hx
    obtain ⟨s, hs, hz⟩ := exists_of_bind_eq_ok hz
    obtain ⟨t, ht, hx⟩ := exists_of_bind_eq_ok hx
    obtain ⟨before, hbefore, hz⟩ := exists_of_bind_eq_ok hz
    obtain ⟨after, hafter, hx⟩ := exists_of_bind_eq_ok hx
    obtain rfl := Except.ok.inj hz
    obtain rfl := Except.ok.inj hx
    unfold writtenType at hs ht
    rw [hroom] at hs
    obtain ⟨hform, hsame⟩ := className?_eq_iff hunit hs ht
    rw [List.forall_mem_cons, ← hsame, ← ih hbefore hafter]
    cases hs : s.className? with
    | none =>
      rw [hs] at hform
      have ht : t.className? = none := by simpa using hform.symm
      simp [ht]
    | some name =>
      rw [hs] at hform
      obtain ⟨name', ht⟩ := Option.isSome_iff_exists.1 hform.symm
      simp [ht]

/-- What two stages of an index read as the supertypes of a declaration. -/
theorem declaredSupertypes_eq_iff (hunit : z.unit = x.unit) (hroom : z.room = x.room)
    {decl : Cursor} {before after : List String} (hz : declaredSupertypes z decl = .ok before)
    (hx : declaredSupertypes x decl = .ok after) :
    before = after ↔
      ∀ c ∈ supertypeNodes decl, ∀ v, NamedBy x.unit c v → z.meaning v = x.meaning v := by
  obtain ⟨named, hnamed, hz⟩ := exists_of_bind_eq_ok hz
  obtain ⟨named', hnamed', hx⟩ := exists_of_bind_eq_ok hx
  obtain rfl := Except.ok.inj hz
  obtain rfl := Except.ok.inj hx
  rw [List.append_cancel_left_eq]
  exact classNames_eq_iff hunit hroom hnamed hnamed'

/-- The supertypes of a declaration that was indexed can be read at every stage. -/
theorem exists_declaredSupertypes_of_unit (hroom : x.Roomy) (hunit : x.unit = z.unit)
    {decl : Cursor} (hdecl : Cursor.Below z.unit.root decl) {supers : List String}
    (h : declaredSupertypes z decl = .ok supers) : ∃ s, declaredSupertypes x decl = .ok s := by
  refine isOk_iff_exists.1 (isOk_declaredSupertypes_iff.2 fun c hc => ?_)
  obtain ⟨t, ht⟩ := isOk_iff_exists.1
    (isOk_declaredSupertypes_iff.1 (isOk_iff_exists.2 ⟨supers, h⟩) c hc)
  exact isOk_iff_exists.2
    (exists_writtenType_of_unit hroom hunit (hdecl.trans (below_of_mem_supertypeNodes hc)) ht)

/-- The entry that the turn of a declaration makes stays when no later one has its name. -/
theorem get?_of_turn {after : List (Cursor × String)} {d : Cursor × String} {y : Index}
    {supers : List String} (hd : d.2 ∉ after.map Prod.snd)
    (hy : addDeclarations after (z.record d supers) = .ok y)
    {cs : List Cursor} (hx : addThrown cs y = .ok x) :
    x.hierarchy.get? d.2 =
      some { name := d.2, supertypes := supers, isInterface := isInterface d.1 } := by
  have hget : y.hierarchy.get? d.2 =
      some { name := d.2, supertypes := supers, isInterface := isInterface d.1 } := by
    rw [get?_addDeclarations_of_not_mem hd hy]
    exact Hierarchy.get?_declare.trans (if_pos rfl)
  rcases get?_addThrown hx d.2 with h | ⟨hunknown, -⟩
  · rw [h, hget]
  · rw [Hierarchy.knows, hget] at hunknown
    cases hunknown

/-- With different names, the supertypes that the index of a unit records for a declaration are
those read at its turn, behind the declarations before it. They are what the finished index reads
exactly when each name that they are read by means the same to both, and so whenever the two agree
on the lookups for these names: on the member types of the name that the classes around it inherit,
and on which classes are known outside the unit. -/
theorem supertypes_final_iff (hx : build u parent = .ok x)
    (hnames : ((declarations u).map Prod.snd).Nodup) {before after : List (Cursor × String)}
    {d : Cursor × String} (hsplit : declarations u = before ++ d :: after) :
    ∃ z recorded final, addDeclarations before (ofNames u parent) = .ok z ∧
      declaredSupertypes z d.1 = .ok recorded ∧ declaredSupertypes x d.1 = .ok final ∧
      x.hierarchy.get? d.2 =
        some { name := d.2, supertypes := recorded, isInterface := isInterface d.1 } ∧
      (recorded = final ↔
        ∀ c ∈ supertypeNodes d.1, ∀ v, NamedBy u c v → z.meaning v = x.meaning v) ∧
      ((∀ c ∈ supertypeNodes d.1, ∀ v, NamedBy u c v → SameLookups z x v) → recorded = final) := by
  obtain ⟨y, hy, hthrown⟩ := exists_declared_of_build hx
  obtain ⟨z, recorded, hz, hrecorded, hafter⟩ := exists_turn_of_addDeclarations (hsplit ▸ hy)
  have hlast : d.2 ∉ after.map Prod.snd := by
    rw [hsplit, List.map_append, List.map_cons] at hnames
    exact (List.nodup_cons.1 (List.nodup_append.1 hnames).2.1).1
  have hbefore : SameNames (ofNames u parent) z :=
    sameNames_turn (fun e he => hsplit ▸ List.mem_append_left _ he) hz
  have hsame : SameNames x z := (sameNames_of_build hx).symm.trans hbefore
  have hunit : x.unit = u := (sameNames_of_build hx).unit.trans (unit_ofNames u parent)
  have hd : Cursor.Below z.unit.root d.1 := by
    rw [hsame.unit, hunit]
    exact below_of_mem_declarations (hsplit ▸ List.mem_append_right _ List.mem_cons_self)
  obtain ⟨final, hfinal⟩ :=
    exists_declaredSupertypes_of_unit (roomy_of_build hx) hsame.unit.symm hd hrecorded
  have hiff := declaredSupertypes_eq_iff hsame.unit hsame.room hrecorded hfinal
  rw [hunit] at hiff
  refine ⟨z, recorded, final, hz, hrecorded, hfinal, get?_of_turn hlast hafter hthrown, hiff, ?_⟩
  exact fun hlookups => hiff.2 fun c hc v hv => (hlookups c hc v hv).meaning_eq hsame

/-- A class that inherits a member type through a class further down. -/
def chained : SourceUnit where
  path := "A.java"
  source := Utf8.ofText ("class A extends B \x7b class X extends I \x7b\x7d \x7d " ++
    "class B extends C \x7b\x7d class C \x7b class I \x7b\x7d \x7d")
  tree :=
    .node { kind := "program", start := 0, stop := 86 } [
      .node { kind := "class_declaration", start := 0, stop := 42 } [
        .node { kind := "class", isNamed := false, start := 0, stop := 5 } [],
        .node { kind := "identifier", start := 6, stop := 7, field := some "name" } [],
        .node { kind := "superclass", start := 8, stop := 17, field := some "superclass" } [
          .node { kind := "extends", isNamed := false, start := 8, stop := 15 } [],
          .node { kind := "type_identifier", start := 16, stop := 17 } []],
        .node { kind := "class_body", start := 18, stop := 42, field := some "body" } [
          .node { kind := "\x7b", isNamed := false, start := 18, stop := 19 } [],
          .node { kind := "class_declaration", start := 20, stop := 40 } [
            .node { kind := "class", isNamed := false, start := 20, stop := 25 } [],
            .node { kind := "identifier", start := 26, stop := 27, field := some "name" } [],
            .node { kind := "superclass", start := 28, stop := 37,
                    field := some "superclass" } [
              .node { kind := "extends", isNamed := false, start := 28, stop := 35 } [],
              .node { kind := "type_identifier", start := 36, stop := 37 } []],
            .node { kind := "class_body", start := 38, stop := 40, field := some "body" } [
              .node { kind := "\x7b", isNamed := false, start := 38, stop := 39 } [],
              .node { kind := "\x7d", isNamed := false, start := 39, stop := 40 } []]],
          .node { kind := "\x7d", isNamed := false, start := 41, stop := 42 } []]],
      .node { kind := "class_declaration", start := 43, stop := 63 } [
        .node { kind := "class", isNamed := false, start := 43, stop := 48 } [],
        .node { kind := "identifier", start := 49, stop := 50, field := some "name" } [],
        .node { kind := "superclass", start := 51, stop := 60, field := some "superclass" } [
          .node { kind := "extends", isNamed := false, start := 51, stop := 58 } [],
          .node { kind := "type_identifier", start := 59, stop := 60 } []],
        .node { kind := "class_body", start := 61, stop := 63, field := some "body" } [
          .node { kind := "\x7b", isNamed := false, start := 61, stop := 62 } [],
          .node { kind := "\x7d", isNamed := false, start := 62, stop := 63 } []]],
      .node { kind := "class_declaration", start := 64, stop := 86 } [
        .node { kind := "class", isNamed := false, start := 64, stop := 69 } [],
        .node { kind := "identifier", start := 70, stop := 71, field := some "name" } [],
        .node { kind := "class_body", start := 72, stop := 86, field := some "body" } [
          .node { kind := "\x7b", isNamed := false, start := 72, stop := 73 } [],
          .node { kind := "class_declaration", start := 74, stop := 84 } [
            .node { kind := "class", isNamed := false, start := 74, stop := 79 } [],
            .node { kind := "identifier", start := 80, stop := 81, field := some "name" } [],
            .node { kind := "class_body", start := 82, stop := 84, field := some "body" } [
              .node { kind := "\x7b", isNamed := false, start := 82, stop := 83 } [],
              .node { kind := "\x7d", isNamed := false, start := 83, stop := 84 } []]],
          .node { kind := "\x7d", isNamed := false, start := 85, stop := 86 } []]]]

/-- For `A.X` the superclass `I` is recorded, which nothing declares; the finished index reads the
inherited class `C.I`. -/
theorem supertypes_final_iff_chained :
    ((declarations chained).map Prod.snd).Nodup ∧
    ∃ x z outer d after, build chained {} = .ok x ∧ declarations chained = [outer] ++ d :: after ∧
      d.2 = "A.X" ∧ (x.hierarchy.get? "A.X").map ClassInfo.supertypes = some ["I"] ∧
      declaredSupertypes x d.1 = .ok ["C.I"] ∧
      addDeclarations [outer] (ofNames chained {}) = .ok z ∧
      ∃ c ∈ supertypeNodes d.1, ∃ v, NamedBy chained c v ∧ z.meaning v ≠ x.meaning v := by
  have hnames : ((declarations chained).map Prod.snd) = ["A", "A.X", "B", "C", "C.I"] := by
    decide +kernel
  have hnodup : ((declarations chained).map Prod.snd).Nodup := by
    rw [hnames]
    decide
  obtain ⟨outer, rest, hdecls, -, hrest⟩ := List.map_eq_cons_iff.1 hnames
  obtain ⟨d, after, rfl, hd, -⟩ := List.map_eq_cons_iff.1 hrest
  have hread : (build chained {}).toOption.map (fun x => ((declarations chained)[1]?).map fun d =>
      ((x.hierarchy.get? "A.X").map ClassInfo.supertypes, (declaredSupertypes x d.1).toOption)) =
      some (some (some ["I"], some ["C.I"])) := by
    decide +kernel
  obtain ⟨x, hx, hread⟩ := Option.map_eq_some_iff.1 hread
  replace hx : build chained {} = .ok x := eq_ok_of_toOption hx
  rw [hdecls] at hread
  obtain ⟨hsupers, hfinal⟩ := Prod.mk.inj (Option.some.inj hread)
  replace hfinal : declaredSupertypes x d.1 = .ok ["C.I"] := eq_ok_of_toOption hfinal
  obtain ⟨z, recorded, final, hz, -, hfinal', hget, hiff, -⟩ :=
    supertypes_final_iff hx hnodup (show declarations chained = [outer] ++ d :: after from hdecls)
  refine ⟨hnodup, x, z, outer, d, after, hx, hdecls, hd, hsupers, hfinal, hz, ?_⟩
  obtain rfl := Except.ok.inj (hfinal'.symm.trans hfinal)
  rw [hd] at hget
  rw [hget] at hsupers
  obtain rfl : recorded = ["I"] := Option.some.inj hsupers
  simpa using mt hiff.2 (by decide)

end CauseLint.Index
