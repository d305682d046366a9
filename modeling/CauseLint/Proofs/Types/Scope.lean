import CauseLint.Proofs.Rule.History
import CauseLint.Proofs.Types.Fields
import CauseLint.Proofs.Types.Joins
import CauseLint.Proofs.Types.Names

/-!
# The scope of member types

The qualified name of a class is put together once, from the classes around its declaration, and a
simple name is looked up by a walk outwards that appends it to the qualified name of each class on
the way. Both walks pass the same classes, so a member type is found from every place inside its
class, unless a class in between answers first: with a member type of its own, or with one that it
inherits.

Qualified names stand for classes here, and local classes of initializer blocks have one too. Two of
them may share it, and then the member types of the one count as those of the other.

Results:

* `Index.qualifiedName_of_inside`: the qualified name of a class inside another one.
* `Index.memberType?_eq_none_iff`: the classes that pass a name on.
* `Index.member_in_scope_iff`: where a simple name means the member type around it.
-/

namespace CauseLint.Index

variable {u : SourceUnit} {parent : Hierarchy} {x : Index}

/-! ## Classes inside classes -/

/-- Names from the package down, joined by dots. -/
def dotted (u : SourceUnit) (names : List String) : String :=
  ".".intercalate (if u.package = "" then names else u.package :: names)

/-- Names with a dot in front of each. -/
def behind (names : List String) : String := String.join (names.map ("." ++ ·))

theorem behind_append (names more : List String) :
    behind (names ++ more) = behind names ++ behind more := by
  rw [behind, List.map_append, String.join_append]
  rfl

theorem behind_singleton (name : String) : behind [name] = "." ++ name := by
  rw [behind, List.map_singleton, String.join_cons, String.join_nil, String.append_empty]

theorem behind_ne_empty {names : List String} (h : names ≠ []) : behind names ≠ "" := by
  obtain ⟨first, rest, rfl⟩ := List.exists_cons_of_ne_nil h
  rw [behind, List.map_cons, String.join_cons]
  intro heq
  have hlist := congrArg String.toList heq
  simp at hlist

theorem intercalate_cons (name : String) (names : List String) :
    ".".intercalate (name :: names) = name ++ behind names := by
  induction names generalizing name with
  | nil =>
    rw [String.intercalate_singleton, behind, List.map_nil, String.join_nil, String.append_empty]
  | cons next names ih =>
    rw [String.intercalate_cons_cons, ih, behind, behind, List.map_cons, String.join_cons,
      String.append_assoc, String.append_assoc]

theorem dotted_append {names : List String} (h : names ≠ []) (more : List String) :
    dotted u (names ++ more) = dotted u names ++ behind more := by
  -- The first of all names is the package, or the first of `names` where there is none.
  obtain ⟨first, rest, hrest⟩ : ∃ first rest, ∀ more,
      (if u.package = "" then names ++ more else u.package :: (names ++ more)) =
        first :: (rest ++ more) := by
    split
    · obtain ⟨first, rest, rfl⟩ := List.exists_cons_of_ne_nil h
      exact ⟨first, rest, fun _ => rfl⟩
    · exact ⟨u.package, names, fun _ => rfl⟩
  have hnames := hrest []
  rw [List.append_nil, List.append_nil] at hnames
  rw [dotted, dotted, hrest, hnames, intercalate_cons, intercalate_cons, behind_append,
    String.append_assoc]

theorem enclosingNames_append {inner outer : List Cursor} {names : List String}
    (h : enclosingNames u (inner ++ outer) = some names) :
    ∃ near far, enclosingNames u inner = some near ∧ enclosingNames u outer = some far ∧
      names = near ++ far := by
  induction inner generalizing names with
  | nil => exact ⟨[], names, rfl, h, rfl⟩
  | cons c inner ih =>
    rw [List.cons_append, enclosingNames] at h
    rw [enclosingNames]
    by_cases hclass : c.declaresClass = true
    · rw [if_pos hclass] at h ⊢
      cases hname : c.childByField? "name" with
      | none =>
        rw [hname] at h
        cases h
      | some name =>
        rw [hname] at h
        obtain ⟨rest, hrest, rfl⟩ := Option.map_eq_some_iff.1 h
        obtain ⟨near, far, hnear, hfar, rfl⟩ := ih hrest
        exact ⟨u.textOf name :: near, far, congrArg (Option.map (u.textOf name :: ·)) hnear, hfar,
          rfl⟩
    · rw [if_neg hclass] at h ⊢
      split at h
      · cases h
      · rename_i hlocal
        rw [if_neg hlocal]
        exact ih h

theorem enclosingNames_eq_nil {nodes : List Cursor} {names : List String}
    (hnone : ∀ c ∈ nodes, ¬ c.declaresClass = true) (h : enclosingNames u nodes = some names) :
    names = [] := by
  induction nodes with
  | nil => exact (Option.some.inj h).symm
  | cons c nodes ih =>
    obtain ⟨hc, hnodes⟩ := List.forall_mem_cons.1 hnone
    rw [enclosingNames, if_neg hc] at h
    split at h
    · cases h
    · exact ih hnodes h

section

variable {d e : Cursor} {inner outer : List Cursor} {name first : String}

/-- The qualified name of a class inside another one is the qualified name of that class, followed
by the names of the classes in between and its own. -/
theorem qualifiedName_of_inside (he : e.declaresClass = true)
    (hparents : d.parents = inner ++ e :: outer) (hname : qualifiedName u d = some name) :
    ∃ first between, qualifiedName u e = some first ∧ enclosingNames u inner = some between ∧
      name = first ++ behind (u.textOf? (d.childByField? "name") :: between).reverse := by
  unfold qualifiedName at hname
  split at hname
  · cases hname
  rename_i own hown
  obtain ⟨around, haround, rfl⟩ := Option.map_eq_some_iff.1 hname
  rw [hparents] at haround
  obtain ⟨between, far, hbetween, hfar, rfl⟩ := enclosingNames_append haround
  rw [enclosingNames, if_pos he] at hfar
  split at hfar
  · cases hfar
  rename_i outerName houterName
  obtain ⟨further, hfurther, rfl⟩ := Option.map_eq_some_iff.1 hfar
  have hfirst : qualifiedName u e = some (dotted u (u.textOf outerName :: further).reverse) := by
    rw [qualifiedName, houterName, Cursor.parents_of_parents_eq hparents]
    dsimp only
    rw [hfurther]
    rfl
  refine ⟨_, between, hfirst, hbetween, ?_⟩
  rw [hown, ← dotted_append (by simp), ← List.reverse_append]
  rfl

/-- A class inside another one has another qualified name. -/
theorem qualifiedName_ne_of_inside (he : e.declaresClass = true)
    (hparents : d.parents = inner ++ e :: outer) (hname : qualifiedName u d = some name)
    (hfirst : qualifiedName u e = some first) : name ≠ first := by
  obtain ⟨first', between, hfirst', -, rfl⟩ := qualifiedName_of_inside he hparents hname
  obtain rfl := Option.some.inj (hfirst'.symm.trans hfirst)
  intro heq
  have hnone : (u.textOf? (d.childByField? "name") :: between).reverse ≠ [] := by simp
  refine behind_ne_empty hnone ?_
  rw [← String.append_right_inj first', heq, String.append_empty]

/-- A class directly inside another one has the qualified name of that class with its own name
behind it. -/
theorem qualifiedName_of_member (he : d.parents.find? Cursor.declaresClass = some e)
    (hname : qualifiedName u d = some name) :
    ∃ first, qualifiedName u e = some first ∧
      name = first ++ "." ++ u.textOf? (d.childByField? "name") := by
  obtain ⟨hclass, inner, outer, hparents, hinner⟩ := List.find?_eq_some_iff_append.1 he
  obtain ⟨first, between, hfirst, hbetween, rfl⟩ := qualifiedName_of_inside hclass hparents hname
  have hnone : ∀ c ∈ inner, ¬ c.declaresClass = true := fun c hc => by simpa using hinner c hc
  obtain rfl := enclosingNames_eq_nil hnone hbetween
  refine ⟨first, hfirst, ?_⟩
  rw [List.reverse_singleton, behind_singleton, String.append_assoc]

end

/-! ## Known classes -/

/-- A unit declares a class of a qualified name. -/
def Declares (u : SourceUnit) (name : String) : Prop := ∃ c, (c, name) ∈ declarations u

/-- A class is declared in the unit or known to the hierarchy. -/
def Known (x : Index) (name : String) : Prop :=
  Declares x.unit name ∨ x.hierarchy.knows name = true

/-- A class inherits a known member type of a name from a supertype, a direct one or not. -/
def InheritsFrom (x : Index) (cls member sup : String) : Prop :=
  x.hierarchy.Descends cls sup ∧ sup ≠ cls ∧ x.Known (sup ++ "." ++ member)

theorem classes_ofNames :
    (ofNames u parent).classes =
      Table.insertAll {} ((declarations u).map fun d => (d.2, { node := d.1 })) := by
  unfold ofNames Table.insertAll
  rw [List.foldl_map]
  exact (List.foldl_hom Index.classes (fun _ _ => rfl)).symm

section

variable (hx : build u parent = .ok x) {cls member : String}

include hx

theorem unit_of_build : x.unit = u := (sameNames_of_build hx).unit.trans (unit_ofNames u parent)

/-- The classes of an index are those that the unit declares. -/
theorem contains_classes_iff : x.classes.contains cls = true ↔ Declares u cls := by
  rw [(sameNames_of_build hx).contains]
  constructor
  · intro hcontains
    rw [Table.contains, classes_ofNames, Table.get?_insertAll] at hcontains
    obtain ⟨d, hd⟩ := Option.isSome_iff_exists.1 hcontains
    have hlookup := (Option.or_eq_some_iff.1 hd).resolve_right fun hempty => by cases hempty.2
    obtain ⟨before, after, hsplit, -⟩ := List.lookup_eq_some_iff.1 hlookup
    have hmem : (cls, d) ∈ (declarations u).map fun d => (d.2, { node := d.1 }) :=
      List.mem_reverse.1 (hsplit ▸ by simp)
    obtain ⟨⟨c, n⟩, hc, heq⟩ := List.mem_map.1 hmem
    obtain ⟨rfl, -⟩ := Prod.mk.inj heq
    exact ⟨c, hc⟩
  · rintro ⟨c, hc⟩
    exact contains_ofNames hc parent

theorem known_iff : (x.classes.contains cls || x.hierarchy.knows cls) = true ↔ x.Known cls := by
  rw [Bool.or_eq_true, contains_classes_iff hx, Known, unit_of_build hx]

theorem inheritsFrom_iff {sup : String} :
    x.InheritsFrom cls member sup ↔ sup ∈ (x.hierarchy.ancestors cls).tail ∧
      (x.classes.contains (sup ++ "." ++ member) ||
        x.hierarchy.knows (sup ++ "." ++ member)) = true := by
  rw [InheritsFrom, Hierarchy.mem_tail_ancestors_iff, known_iff hx, and_assoc]

theorem exists_of_inheritedMember? {found : String}
    (h : x.inheritedMember? member cls = some found) :
    ∃ sup, x.InheritsFrom cls member sup ∧ found = sup ++ "." ++ member := by
  have hknown := List.find?_some h
  obtain ⟨sup, hsup, rfl⟩ := List.mem_map.1 (List.mem_of_find?_eq_some h)
  exact ⟨sup, (inheritsFrom_iff hx).2 ⟨hsup, hknown⟩, rfl⟩

theorem inheritedMember?_eq_none_iff :
    x.inheritedMember? member cls = none ↔ ∀ sup, ¬ x.InheritsFrom cls member sup := by
  simp only [inheritedMember?, List.find?_eq_none, List.forall_mem_map, inheritsFrom_iff hx,
    not_and]

end

/-! ## One class -/

/-- A class offers no type of a name: neither does the unit declare a class of its qualified name
with the name behind it, nor is one inherited. -/
def OffersNone (x : Index) (s : String) (d : Cursor) : Prop :=
  d.declaresClass = true → ∀ name, qualifiedName x.unit d = some name →
    ¬ Declares x.unit (name ++ "." ++ s) ∧ ∀ sup, ¬ x.InheritsFrom name s sup

section

variable (hx : build u parent = .ok x) (hkeys : ClassesApart u) {d : Cursor} {s : String}
  (hd : Cursor.Below u.root d)

include hx hkeys hd

/-- What a class of another name makes of a name. -/
theorem memberType?_of_class {name : String} (hclass : d.declaresClass = true)
    (hname : qualifiedName u d = some name) (hown : u.textOf? (d.childByField? "name") ≠ s) :
    x.memberType? s d =
      if x.classes.contains (name ++ "." ++ s) then some (name ++ "." ++ s)
      else x.inheritedMember? s name := by
  unfold memberType?
  rw [if_pos hclass, classAt_of_classesApart hx hkeys hd hclass, hname]
  dsimp only
  rw [unit_of_build hx, if_neg hown]
  rfl

/-- A node that declares no class, or one without a qualified name, passes every name on. -/
theorem memberType?_of_unnamed (h : d.declaresClass = true → qualifiedName u d = none) :
    x.memberType? s d = none := by
  unfold memberType?
  split
  · rename_i hclass
    rw [classAt_of_classesApart hx hkeys hd hclass, h hclass]
  · rfl

variable (hown : d.declaresClass = true → ∀ name, qualifiedName u d = some name →
  u.textOf? (d.childByField? "name") ≠ s)

include hown

/-- A class answers with a class declared behind its qualified name, or with an inherited one. -/
theorem exists_of_memberType? {found : String} (h : x.memberType? s d = some found) :
    d.declaresClass = true ∧ ∃ name, qualifiedName u d = some name ∧
      (Declares u found ∧ found = name ++ "." ++ s ∨
        ∃ sup, x.InheritsFrom name s sup ∧ found = sup ++ "." ++ s) := by
  by_cases hclass : d.declaresClass = true
  · cases hname : qualifiedName u d with
    | none =>
      rw [memberType?_of_unnamed hx hkeys hd fun _ => hname] at h
      cases h
    | some name =>
      refine ⟨hclass, name, rfl, ?_⟩
      rw [memberType?_of_class hx hkeys hd hclass hname (hown hclass name hname)] at h
      split at h
      · rename_i hcontains
        obtain rfl := Option.some.inj h
        exact .inl ⟨(contains_classes_iff hx).1 hcontains, rfl⟩
      · exact .inr (exists_of_inheritedMember? hx h)
  · rw [memberType?_of_unnamed hx hkeys hd fun h => absurd h hclass] at h
    cases h

/-- A class passes a name on when it offers no type of that name. -/
theorem memberType?_eq_none_iff : x.memberType? s d = none ↔ x.OffersNone s d := by
  rw [OffersNone, unit_of_build hx]
  constructor
  · intro hnone hclass name hname
    rw [memberType?_of_class hx hkeys hd hclass hname (hown hclass name hname)] at hnone
    split at hnone
    · cases hnone
    · rename_i hcontains
      exact ⟨mt (contains_classes_iff hx).2 hcontains, (inheritedMember?_eq_none_iff hx).1 hnone⟩
  · intro hoffers
    refine Option.eq_none_iff_forall_ne_some.2 fun found hfound => ?_
    obtain ⟨hclass, name, hname, ⟨hdeclared, rfl⟩ | ⟨sup, hsup, -⟩⟩ :=
      exists_of_memberType? hx hkeys hd hown hfound
    · exact (hoffers hclass name hname).1 hdeclared
    · exact (hoffers hclass name hname).2 sup hsup

end

/-! ## The walk outwards -/

/-- What a class inside a known one answers with is no member type of the outer class. -/
theorem ne_of_memberType?_inside (hx : build u parent = .ok x) (hkeys : ClassesApart u)
    {d e : Cursor} {inner outer : List Cursor} {first s found : String}
    (hd : Cursor.Below u.root d) (heclass : e.declaresClass = true)
    (hfirst : qualifiedName u e = some first) (hknown : x.Known first)
    (hparents : d.parents = inner ++ e :: outer)
    (hinner : d.declaresClass = true → ∀ name, qualifiedName u d = some name →
      u.textOf? (d.childByField? "name") ≠ s ∧
      ∀ sup, x.InheritsFrom name s sup → ¬ x.Known sup)
    (h : x.memberType? s d = some found) : found ≠ first ++ "." ++ s := by
  have hbefore : ∀ other, other ++ "." ++ s = first ++ "." ++ s → other = first := by
    intro other heq
    rwa [String.append_assoc, String.append_assoc, String.append_left_inj] at heq
  obtain ⟨hdclass, name, hname, ⟨-, rfl⟩ | ⟨sup, hsup, rfl⟩⟩ :=
    exists_of_memberType? hx hkeys hd (fun hdclass name hname => (hinner hdclass name hname).1) h
  · exact fun heq => qualifiedName_ne_of_inside heclass hparents hname hfirst (hbefore name heq)
  · intro heq
    rw [← hbefore sup heq] at hknown
    exact (hinner hdclass name hname).2 sup hsup hknown

/-- A name that a class around a node knows as a member type has that meaning at the node, unless a
class in between answers. -/
theorem resolveSimple_of_memberType? {c e : Cursor} {inner outer : List Cursor}
    {s member : String} (hparents : c.parents = inner ++ e :: outer)
    (h : x.memberType? s e = some member) :
    x.resolveSimple s (some c) = some ((inner.findSome? (x.memberType? s)).getD member) := by
  unfold resolveSimple
  dsimp only [Option.map_some, Option.getD_some]
  rw [hparents, List.findSome?_append, List.findSome?_cons, h]
  cases inner.findSome? (x.memberType? s) <;> rfl

/-- A member type of a class, declared directly in it under a name other than that of the class, has
the qualified name of the class with that name behind it. From a node inside the class, where no
class in between has that name or inherits such a type from a class that is known, the name means
the member type exactly when each class in between offers no type of that name, be it by its
qualified name, which another class may share, or by a supertype of which nothing is known.

What is imported, what the package or an outer class declares, and what is known without an import
never takes the name. -/
theorem member_in_scope_iff (hx : build u parent = .ok x) (hkeys : ClassesApart u)
    {m e c : Cursor} {inner outer : List Cursor} {member : String}
    (hm : Cursor.Below u.root m) (hclass : m.declaresClass = true)
    (hmember : qualifiedName u m = some member)
    (he : m.parents.find? Cursor.declaresClass = some e)
    (hown : u.textOf? (e.childByField? "name") ≠ u.textOf? (m.childByField? "name"))
    (hc : Cursor.Below u.root c) (hparents : c.parents = inner ++ e :: outer)
    (hinner : ∀ d ∈ inner, d.declaresClass = true → ∀ name, qualifiedName u d = some name →
      u.textOf? (d.childByField? "name") ≠ u.textOf? (m.childByField? "name") ∧
      ∀ sup, x.InheritsFrom name (u.textOf? (m.childByField? "name")) sup → ¬ x.Known sup) :
    let s := u.textOf? (m.childByField? "name")
    ∃ first, qualifiedName u e = some first ∧ member = first ++ "." ++ s ∧
      (x.resolveSimple s (some c) = some member ↔ ∀ d ∈ inner, x.OffersNone s d) := by
  intro s
  obtain ⟨first, hfirst, hmembereq⟩ := qualifiedName_of_member he hmember
  refine ⟨first, hfirst, hmembereq, ?_⟩
  have heclass := List.find?_some he
  have hbelow : ∀ d ∈ inner ++ e :: outer, Cursor.Below u.root d := fun d hd =>
    Cursor.parents_below rfl hc (hparents ▸ hd)
  have hbelowe := hbelow e (List.mem_append_right _ List.mem_cons_self)
  have hdeclared : Declares u member := ⟨m, mem_declarations_iff.2 ⟨hm, hclass, hmember⟩⟩
  have hknown : x.Known first := by
    rw [Known, unit_of_build hx]
    exact .inl ⟨e, mem_declarations_iff.2 ⟨hbelowe, heclass, hfirst⟩⟩
  have hate : x.memberType? s e = some member := by
    rw [memberType?_of_class hx hkeys hbelowe heclass hfirst hown, ← hmembereq,
      if_pos ((contains_classes_iff hx).2 hdeclared)]
  -- What a class in between answers with is another class.
  have hother : ∀ d ∈ inner, ∀ found, x.memberType? s d = some found → found ≠ member := by
    intro d hd found hfound
    obtain ⟨nearer, farther, hsplit⟩ := List.append_of_mem hd
    have hparentsd : d.parents = farther ++ e :: outer := by
      rw [hsplit, List.append_assoc, List.cons_append] at hparents
      exact Cursor.parents_of_parents_eq hparents
    rw [hmembereq]
    exact ne_of_memberType?_inside hx hkeys (hbelow d (List.mem_append_left _ hd)) heclass hfirst
      hknown hparentsd (hinner d hd) hfound
  have hnone : inner.findSome? (x.memberType? s) = none ↔ ∀ d ∈ inner, x.OffersNone s d := by
    rw [List.findSome?_eq_none_iff]
    exact forall₂_congr fun d hd =>
      memberType?_eq_none_iff hx hkeys (hbelow d (List.mem_append_left _ hd))
        fun hdclass name hname => (hinner d hd hdclass name hname).1
  rw [resolveSimple_of_memberType? hparents hate, ← hnone]
  cases hfound : inner.findSome? (x.memberType? s) with
  | none => simp
  | some found =>
    obtain ⟨d, hd, hanswer⟩ := List.exists_of_findSome?_eq_some hfound
    simpa using hother d hd found hanswer

/-- The unit of a class with a member type, and with two local classes of one name in blocks of its
own, the first of which has a member type of that name again. -/
def namesakes : SourceUnit where
  path := "E.java"
  source := Utf8.ofText ("class E \x7b class S \x7b\x7d " ++
    "\x7b class D \x7b class S \x7b\x7d \x7d \x7d " ++
    "\x7b class D \x7b S x; \x7d \x7d \x7d")
  tree :=
    .node { kind := "program", start := 0, stop := 70 } [
      .node { kind := "class_declaration", start := 0, stop := 70 } [
        .node { kind := "class", isNamed := false, start := 0, stop := 5 } [],
        .node { kind := "identifier", start := 6, stop := 7, field := some "name" } [],
        .node { kind := "class_body", start := 8, stop := 70, field := some "body" } [
          .node { kind := "\x7b", isNamed := false, start := 8, stop := 9 } [],
          .node { kind := "class_declaration", start := 10, stop := 20 } [
            .node { kind := "class", isNamed := false, start := 10, stop := 15 } [],
            .node { kind := "identifier", start := 16, stop := 17, field := some "name" } [],
            .node { kind := "class_body", start := 18, stop := 20, field := some "body" } [
              .node { kind := "\x7b", isNamed := false, start := 18, stop := 19 } [],
              .node { kind := "\x7d", isNamed := false, start := 19, stop := 20 } []]],
          .node { kind := "block", start := 21, stop := 47 } [
            .node { kind := "\x7b", isNamed := false, start := 21, stop := 22 } [],
            .node { kind := "class_declaration", start := 23, stop := 45 } [
              .node { kind := "class", isNamed := false, start := 23, stop := 28 } [],
              .node { kind := "identifier", start := 29, stop := 30, field := some "name" } [],
              .node { kind := "class_body", start := 31, stop := 45, field := some "body" } [
                .node { kind := "\x7b", isNamed := false, start := 31, stop := 32 } [],
                .node { kind := "class_declaration", start := 33, stop := 43 } [
                  .node { kind := "class", isNamed := false, start := 33, stop := 38 } [],
                  .node { kind := "identifier", start := 39, stop := 40, field := some "name" } [],
                  .node { kind := "class_body", start := 41, stop := 43, field := some "body" } [
                    .node { kind := "\x7b", isNamed := false, start := 41, stop := 42 } [],
                    .node { kind := "\x7d", isNamed := false, start := 42, stop := 43 } []]],
                .node { kind := "\x7d", isNamed := false, start := 44, stop := 45 } []]],
            .node { kind := "\x7d", isNamed := false, start := 46, stop := 47 } []],
          .node { kind := "block", start := 48, stop := 68 } [
            .node { kind := "\x7b", isNamed := false, start := 48, stop := 49 } [],
            .node { kind := "class_declaration", start := 50, stop := 66 } [
              .node { kind := "class", isNamed := false, start := 50, stop := 55 } [],
              .node { kind := "identifier", start := 56, stop := 57, field := some "name" } [],
              .node { kind := "class_body", start := 58, stop := 66, field := some "body" } [
                .node { kind := "\x7b", isNamed := false, start := 58, stop := 59 } [],
                .node { kind := "field_declaration", start := 60, stop := 64 } [
                  .node { kind := "type_identifier", start := 60, stop := 61,
                          field := some "type" } [],
                  .node { kind := "variable_declarator", start := 62, stop := 63,
                          field := some "declarator" } [
                    .node { kind := "identifier", start := 62, stop := 63,
                            field := some "name" } []],
                  .node { kind := ";", isNamed := false, start := 63, stop := 64 } []],
                .node { kind := "\x7d", isNamed := false, start := 65, stop := 66 } []]],
            .node { kind := "\x7d", isNamed := false, start := 67, stop := 68 } []],
          .node { kind := "\x7d", isNamed := false, start := 69, stop := 70 } []]]]

/-- The index of the class over an empty hierarchy. -/
def namesakesIndex : Index :=
  (build namesakes {}).toOption.getD { unit := namesakes, hierarchy := {} }

/-- The member type, the second block, and the name inside the second local class, with the classes
around them. -/
theorem known_namesakes :
    let x := namesakesIndex
    let member := Rule.nodeAt namesakes "class_declaration" 10
    let block := Rule.nodeAt namesakes "block" 48
    let inside := Rule.nodeAt namesakes "type_identifier" 60
    (build namesakes {}).isOk = true ∧
    ((namesakes.root.preorder.filter Cursor.declaresClass).map Cursor.key).Nodup ∧
    (member.declaresClass = true ∧ qualifiedName namesakes member = some "E.S" ∧
      namesakes.textOf? (member.childByField? "name") = "S" ∧
      ∃ e ∈ member.parents.find? Cursor.declaresClass, e.key = ⟨0, 70, "class_declaration"⟩ ∧
        namesakes.textOf? (e.childByField? "name") = "E") ∧
    ((∃ e ∈ block.parents[1]?, e.key = ⟨0, 70, "class_declaration"⟩) ∧
      ∀ d ∈ block.parents.take 1, d.declaresClass = false) ∧
    (∃ e ∈ inside.parents[5]?, e.key = ⟨0, 70, "class_declaration"⟩) ∧
      (∀ d ∈ inside.parents.take 5, d.declaresClass = true →
        ∀ name ∈ qualifiedName namesakes d, namesakes.textOf? (d.childByField? "name") ≠ "S" ∧
          ∀ sup ∈ (x.hierarchy.ancestors name).tail,
            (x.classes.contains (sup ++ ".S") || x.hierarchy.knows (sup ++ ".S")) = false) ∧
      ∃ d ∈ inside.parents.take 5, d.declaresClass = true ∧
        qualifiedName namesakes d = some "E.D" ∧ x.classes.contains "E.D.S" = true := by
  decide +kernel

theorem build_namesakes : build namesakes {} = .ok namesakesIndex :=
  eq_ok_getD_of_isOk known_namesakes.1 _

/-- In the second block the name means the member type. In the local class of that block it does
not, as the member type of the other local class counts as one of this class. -/
theorem member_in_scope_iff_namesakes :
    let inside := Rule.nodeAt namesakes "type_identifier" 60
    (∃ d ∈ inside.parents.take 5, d.declaresClass = true ∧
      qualifiedName namesakes d = some "E.D" ∧ ¬ namesakesIndex.OffersNone "S" d) ∧
    namesakesIndex.resolveSimple "S" (some (Rule.nodeAt namesakes "block" 48)) = some "E.S" ∧
    namesakesIndex.resolveSimple "S" (some inside) ≠ some "E.S" := by
  intro inside
  obtain ⟨-, hkeys, ⟨hclass, hmember, htext, e, he, hkey, hown⟩, ⟨⟨b, hb, hkeyb⟩, hblock⟩,
    ⟨i, hi, hkeyi⟩, hinside, d, hd, hdclass, hname, hcontains⟩ := known_namesakes
  have hx := build_namesakes
  have hother : namesakes.textOf? (e.childByField? "name") ≠
      namesakes.textOf? ((Rule.nodeAt namesakes "class_declaration" 10).childByField? "name") := by
    rw [hown, htext]
    decide
  have hbelow : ∀ kind start, ∀ p ∈ (Rule.nodeAt namesakes kind start).parents,
      Cursor.Below namesakes.root p := fun kind start p hp =>
    Cursor.parents_below rfl (Rule.below_nodeAt _ kind start) hp
  -- The same class is around the member type and around both places.
  have hsame : ∀ kind start, ∀ p ∈ (Rule.nodeAt namesakes kind start).parents,
      p.key = ⟨0, 70, "class_declaration"⟩ → p = e := by
    intro kind start p hp hpkey
    have hpclass : p.declaresClass = true := by
      have hkind : p.kind = "class_declaration" := congrArg NodeKey.kind hpkey
      rw [Cursor.declaresClass, hkind]
      decide
    exact ClassesApart.eq_of_key hkeys (hbelow kind start p hp) hpclass
      (hbelow _ _ e (List.mem_of_find?_eq_some he)) (List.find?_some he) (hpkey.trans hkey.symm)
  obtain rfl := hsame _ _ b (List.mem_of_getElem? hb) hkeyb
  obtain rfl := hsame _ _ i (List.mem_of_getElem? hi) hkeyi
  have hblocked : ¬ namesakesIndex.OffersNone "S" d := fun hnone =>
    (hnone hdclass "E.D" (unit_of_build hx ▸ hname)).1
      (unit_of_build hx ▸ (contains_classes_iff hx).1 hcontains)
  have happlied := fun (c : Cursor) (inner outer : List Cursor) =>
    @member_in_scope_iff _ _ _ hx hkeys _ _ c inner outer _ (Rule.below_nodeAt _ _ _) hclass
      hmember he hother
  rw [htext] at happlied
  refine ⟨⟨d, hd, hdclass, hname, hblocked⟩, ?_, ?_⟩
  · obtain ⟨_, -, -, hiff⟩ := happlied _ _ _ (Rule.below_nodeAt _ _ _) (eq_take_append_cons hb)
      fun p hp hpclass => absurd hpclass (by rw [hblock p hp]; decide)
    exact hiff.2 fun p hp hpclass => absurd hpclass (by rw [hblock p hp]; decide)
  · have hpasses : ∀ p ∈ inside.parents.take 5, p.declaresClass = true →
        ∀ name, qualifiedName namesakes p = some name →
          namesakes.textOf? (p.childByField? "name") ≠ "S" ∧
          ∀ sup, namesakesIndex.InheritsFrom name "S" sup → ¬ namesakesIndex.Known sup := by
      intro p hp hpclass name hpname
      obtain ⟨hpown, hnone⟩ := hinside p hp hpclass name hpname
      refine ⟨hpown, fun sup hsup => ?_⟩
      obtain ⟨htail, hmemberknown⟩ := (inheritsFrom_iff hx).1 hsup
      have hunknown := hnone sup htail
      rw [String.append_assoc] at hmemberknown
      exact absurd hmemberknown (by simpa using hunknown)
    obtain ⟨_, -, -, hiff⟩ :=
      happlied _ _ _ (Rule.below_nodeAt _ _ _) (eq_take_append_cons hi) hpasses
    exact fun hmeans => hblocked (hiff.1 hmeans d hd)

end CauseLint.Index
