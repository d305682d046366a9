import CauseLint.Proofs.Types.Circular
import Mathlib.Data.List.Find
import Mathlib.Data.List.TakeWhile

/-!
# The names behind written types

A type node that is read as a class is read by one name: the one at the node itself, that of the
generic or annotated type, or that of the bound of a type variable. Which name this is depends on
the tree only; what the name means depends on the index. Two indexes of one unit read the node as
the same class exactly when the name means the same to both, and it does when the lookups agree that
are made for it: what member types the classes around it inherit, and which classes are known
outside the unit.

Results:

* `Index.readBy_of_typeWithin`: where the class of a node comes from.
* `Index.className?_eq_iff`: when two stages of an index read a node as the same class.
* `Index.SameLookups.meaning_eq`: lookups that agree.
-/

namespace CauseLint

/-- The name of a class type. -/
def StaticType.className? : StaticType → Option String
  | .cls name _ _ => some name
  | _ => none

theorem StaticType.className?_arrayOf (element : StaticType) (dims : Nat) :
    (StaticType.arrayOf element dims).className? = none := by
  obtain ⟨n, hn⟩ : ∃ n, max dims 1 = n + 1 := ⟨max dims 1 - 1, by omega⟩
  rw [arrayOf, hn]
  rfl

namespace Index

/-! ## Names -/

/-- The name at a node, the parts of a dotted name joined. -/
def writtenName (u : SourceUnit) (v : Cursor) : String :=
  if v.kind = "type_identifier" then u.textOf v
  else
    let named := v.children.filter fun d =>
      ["type_identifier", "scoped_type_identifier", "."].contains d.kind
    String.join (named.map u.textOf)

/-- The class that the name at a node means; a name of which nothing is known means itself. -/
def meaning (x : Index) (v : Cursor) : String :=
  let text := writtenName x.unit v
  if v.kind = "type_identifier" then (x.resolveSimple text (some v)).getD text
  else (x.resolve text (some v)).getD text

/-- Whether a type node is a name of a class, simple or dotted, and not that of a type variable. -/
def isName (u : SourceUnit) (c : Cursor) : Bool :=
  c.kind = "scoped_type_identifier" ||
    c.kind = "type_identifier" && (typeParameter? u (u.textOf c) c).isNone

/-- The type node from which another one takes its class. -/
def head? (u : SourceUnit) (c : Cursor) : Option Cursor :=
  if c.kind = "annotated_type" then c.parts.getLast?
  else if c.kind = "generic_type" then c.parts.find? (·.kind ≠ "type_arguments")
  else if c.kind = "type_identifier" then (typeParameter? u (u.textOf c) c).bind firstBound?
  else none

/-- A type node is read by the name at a node. -/
inductive NamedBy (u : SourceUnit) : Cursor → Cursor → Prop
  | here {c : Cursor} : isName u c = true → NamedBy u c c
  | there {c r v : Cursor} : head? u c = some r → NamedBy u r v → NamedBy u c v

/-- A name takes its class from no other node. -/
theorem head?_of_isName {u : SourceUnit} {c : Cursor} (h : isName u c = true) :
    head? u c = none := by
  unfold isName at h
  rw [Bool.or_eq_true, Bool.and_eq_true] at h
  rcases h with h | ⟨hkind, hfree⟩
  · rw [decide_eq_true_eq] at h
    simp [head?, h]
  · rw [decide_eq_true_eq] at hkind
    simp [head?, hkind, Option.isNone_iff_eq_none.1 hfree]

theorem namedBy_iff_of_head? {u : SourceUnit} {c r v : Cursor} (h : head? u c = some r) :
    NamedBy u c v ↔ NamedBy u r v := by
  constructor
  · intro hv
    cases hv with
    | here hname =>
      rw [head?_of_isName hname] at h
      cases h
    | there hr hv =>
      obtain rfl := Option.some.inj (h.symm.trans hr)
      exact hv
  · exact .there h

theorem namedBy_iff_of_head?_eq_none {u : SourceUnit} {c v : Cursor} (h : head? u c = none) :
    NamedBy u c v ↔ v = c ∧ isName u c = true := by
  constructor
  · intro hv
    cases hv with
    | here hname => exact ⟨rfl, hname⟩
    | there hr _ =>
      rw [h] at hr
      cases hr
  · rintro ⟨rfl, hname⟩
    exact .here hname

/-! ## Reading by name -/

/-- The class of a node that takes it from no other one: what its name means, the topmost class for
a type variable without a bound, and none for everything else. -/
def ownClass? (x : Index) (c : Cursor) : Option String :=
  if isName x.unit c then some (x.meaning c)
  else if c.kind = "type_identifier" then some objectClass
  else none

variable {x z : Index} {c v : Cursor} {depth : Nat} {t s : StaticType}

/-- What a reading takes from another node, or finds at its own. -/
def ReadBy (x : Index) (depth : Nat) (c : Cursor) (t : StaticType) : Prop :=
  match head? x.unit c with
  | some r => ∃ s, x.typeWithin depth r = .ok s ∧ t.className? = s.className?
  | none => t.className? = x.ownClass? c

theorem readBy_of_head? {r : Cursor} (hr : head? x.unit c = some r)
    (hs : x.typeWithin depth r = .ok s) (ht : t.className? = s.className?) :
    x.ReadBy depth c t := by
  rw [ReadBy, hr]
  exact ⟨s, hs, ht⟩

theorem readBy_of_ownClass? (hr : head? x.unit c = none) (ht : t.className? = x.ownClass? c) :
    x.ReadBy depth c t := by
  rw [ReadBy, hr]
  exact ht

theorem readBy_annotated (hkind : c.kind = "annotated_type")
    (h : x.typeWithin (depth + 1) c = .ok t) : x.ReadBy depth c t := by
  have hhead : head? x.unit c = c.parts.getLast? := by simp [head?, hkind]
  simp only [typeWithin, hkind] at h
  cases hinner : c.parts.getLast? with
  | some inner =>
    rw [hinner] at h
    exact readBy_of_head? (hhead.trans hinner) h rfl
  | none =>
    rw [hinner] at h
    refine readBy_of_ownClass? (hhead.trans hinner) ?_
    rw [← Except.ok.inj h]
    simp [ownClass?, isName, hkind, StaticType.className?, StaticType.errorType]

/-- A generic type is the class of what stands in front of its arguments. -/
theorem readBy_generic (hkind : c.kind = "generic_type")
    (h : x.typeWithin (depth + 1) c = .ok t) : x.ReadBy depth c t := by
  have hhead : head? x.unit c = c.parts.find? (·.kind ≠ "type_arguments") := by
    simp [head?, hkind]
  simp only [typeWithin, hkind] at h
  cases hbase : c.parts.find? (·.kind ≠ "type_arguments") with
  | some b =>
    rw [hbase] at h
    obtain ⟨base, hb, h⟩ := exists_of_bind_eq_ok h
    obtain ⟨args, -, h⟩ := exists_of_bind_eq_ok h
    refine readBy_of_head? (hhead.trans hbase) hb ?_
    cases base <;> exact Except.ok.inj h ▸ rfl
  | none =>
    rw [hbase] at h
    obtain ⟨base, hb, h⟩ := exists_of_bind_eq_ok h
    obtain ⟨args, -, h⟩ := exists_of_bind_eq_ok h
    obtain rfl := Except.ok.inj hb
    refine readBy_of_ownClass? (hhead.trans hbase) ?_
    rw [← Except.ok.inj h]
    simp [ownClass?, isName, hkind, StaticType.className?, StaticType.errorType]

/-- A name is a type variable, which is read as its bound, or means a class. -/
theorem readBy_simple (hkind : c.kind = "type_identifier")
    (h : x.typeWithin (depth + 1) c = .ok t) : x.ReadBy depth c t := by
  have hhead : head? x.unit c = (typeParameter? x.unit (x.unit.textOf c) c).bind firstBound? := by
    simp [head?, hkind]
  simp only [typeWithin, hkind] at h
  cases hp : typeParameter? x.unit (x.unit.textOf c) c with
  | none =>
    rw [hp] at h hhead
    refine readBy_of_ownClass? hhead ?_
    rw [← Except.ok.inj h]
    simp [ownClass?, isName, hkind, hp, meaning, writtenName, StaticType.className?,
      StaticType.ofClass]
  | some p =>
    rw [hp] at h hhead
    cases hbound : firstBound? p with
    | some bound =>
      dsimp only at h
      rw [hbound] at h
      exact readBy_of_head? (hhead.trans hbound) h rfl
    | none =>
      dsimp only at h
      rw [hbound] at h
      refine readBy_of_ownClass? (hhead.trans hbound) ?_
      rw [← Except.ok.inj h]
      simp [ownClass?, isName, hkind, hp, StaticType.className?, StaticType.ofClass]

/-- An array type is no class. -/
theorem className?_of_array (hkind : c.kind = "array_type")
    (h : x.typeWithin (depth + 1) c = .ok t) : t.className? = none := by
  simp only [typeWithin, hkind] at h
  cases helement : c.childByField? "element" with
  | some e =>
    rw [helement] at h
    obtain ⟨element, -, h⟩ := exists_of_bind_eq_ok h
    exact Except.ok.inj h ▸ StaticType.className?_arrayOf _ _
  | none =>
    rw [helement] at h
    exact Except.ok.inj h ▸ StaticType.className?_arrayOf _ _

/-- Every reading takes its class from another node or finds it at its own. -/
theorem readBy_of_typeWithin (h : x.typeWithin (depth + 1) c = .ok t) : x.ReadBy depth c t := by
  by_cases hannotated : c.kind = "annotated_type"
  · exact readBy_annotated hannotated h
  by_cases hgeneric : c.kind = "generic_type"
  · exact readBy_generic hgeneric h
  by_cases hsimple : c.kind = "type_identifier"
  · exact readBy_simple hsimple h
  have hhead : head? x.unit c = none := by simp [head?, hannotated, hgeneric, hsimple]
  refine readBy_of_ownClass? hhead ?_
  by_cases hdotted : c.kind = "scoped_type_identifier"
  · simp only [typeWithin, hdotted] at h
    rw [← Except.ok.inj h]
    simp [ownClass?, isName, hdotted, meaning, writtenName, StaticType.className?,
      StaticType.ofClass]
  have hown : x.ownClass? c = none := by simp [ownClass?, isName, hsimple, hdotted]
  rw [hown]
  by_cases harray : c.kind = "array_type"
  · exact className?_of_array harray h
  rw [typeWithin, if_neg hannotated, if_neg harray, if_neg hgeneric, if_neg hsimple,
    if_neg hdotted] at h
  split at h
  · exact Except.ok.inj h ▸ rfl
  split at h
  · exact Except.ok.inj h ▸ rfl
  · exact Except.ok.inj h ▸ rfl

/-- Two stages of an index read a node as a class or both do not, and as the same class exactly when
the name that it is read by means the same to both. -/
theorem className?_eq_iff (hunit : z.unit = x.unit) (hz : z.typeWithin depth c = .ok s)
    (hx : x.typeWithin depth c = .ok t) :
    s.className?.isSome = t.className?.isSome ∧
      (s.className? = t.className? ↔ ∀ v, NamedBy x.unit c v → z.meaning v = x.meaning v) := by
  induction depth generalizing c s t with
  | zero => cases hz
  | succ depth ih =>
    have hreadz : z.ReadBy depth c s := readBy_of_typeWithin hz
    have hreadx : x.ReadBy depth c t := readBy_of_typeWithin hx
    unfold ReadBy at hreadz hreadx
    rw [hunit] at hreadz
    cases hr : head? x.unit c with
    | some r =>
      rw [hr] at hreadz hreadx
      obtain ⟨s', hs', hs⟩ := hreadz
      obtain ⟨t', ht', ht⟩ := hreadx
      simp only [hs, ht, namedBy_iff_of_head? hr]
      exact ih hs' ht'
    | none =>
      rw [hr] at hreadz hreadx
      dsimp only at hreadz hreadx
      rw [hreadz, hreadx]
      simp only [namedBy_iff_of_head?_eq_none hr, ownClass?, hunit]
      by_cases hname : isName x.unit c = true
      · simp [hname]
      · simp [hname]

/-! ## Lookups -/

/-- The member type of a name that a class inherits. -/
def inheritedMember? (x : Index) (name outer : String) : Option String :=
  ((x.hierarchy.ancestors outer).tail.map (· ++ "." ++ name)).find? fun inherited =>
    x.classes.contains inherited || x.hierarchy.knows inherited

/-- A name without type arguments. -/
def plainName (text : String) : List Char :=
  trimWhere isBlank (text.toList.takeWhile (· ≠ '<'))

/-- The simple name that is looked up for the name at a node, of a dotted name the first part. -/
def firstName (u : SourceUnit) (v : Cursor) : String :=
  if v.kind = "type_identifier" then writtenName u v
  else String.ofList ((plainName (writtenName u v)).takeWhile (· ≠ '.'))

/-- The classes that are looked up for a simple name outside the unit, in the implicitly imported
package and in those imported on demand. -/
def outsideNames (u : SourceUnit) (name : String) : List String :=
  ("java.lang." ++ name) :: u.wildcards.map (· ++ "." ++ name)

/-- Two stages of an index agree on all that is looked up for the name at a node. -/
structure SameLookups (z x : Index) (v : Cursor) : Prop where
  inherited : ∀ o ∈ v.parents, ∀ outer, x.classAt.get? o.key = some outer →
    z.inheritedMember? (firstName x.unit v) outer = x.inheritedMember? (firstName x.unit v) outer
  outside : ∀ name ∈ outsideNames x.unit (firstName x.unit v),
    z.hierarchy.knows name = x.hierarchy.knows name
  /-- A dotted name may mean itself. -/
  itself : v.kind = "type_identifier" ∨
    z.hierarchy.knows (String.ofList (plainName (writtenName x.unit v))) =
      x.hierarchy.knows (String.ofList (plainName (writtenName x.unit v)))

section

variable (hnames : SameNames x z) {name : String}

include hnames

theorem memberType?_eq {o : Cursor} (h : ∀ outer, x.classAt.get? o.key = some outer →
    z.inheritedMember? name outer = x.inheritedMember? name outer) :
    z.memberType? name o = x.memberType? name o := by
  unfold memberType?
  rw [hnames.classAt, hnames.unit]
  split
  · cases hclass : x.classAt.get? o.key with
    | none => rfl
    | some outer =>
      dsimp only
      rw [hnames.contains]
      split
      · rfl
      split
      · rfl
      · exact h outer hclass
  · rfl

theorem topLevelType?_eq
    (h : ∀ n ∈ outsideNames x.unit name, z.hierarchy.knows n = x.hierarchy.knows n) :
    z.topLevelType? name = x.topLevelType? name := by
  obtain ⟨hlang, hwildcards⟩ := List.forall_mem_cons.1 h
  have hcontains : z.classes.contains = x.classes.contains := funext hnames.contains
  unfold topLevelType?
  rw [hnames.unit, hcontains, hlang, List.find?_congr hwildcards]

theorem resolveSimple_eq
    (hinherited : ∀ o ∈ v.parents, ∀ outer, x.classAt.get? o.key = some outer →
      z.inheritedMember? name outer = x.inheritedMember? name outer)
    (houtside : ∀ n ∈ outsideNames x.unit name, z.hierarchy.knows n = x.hierarchy.knows n) :
    z.resolveSimple name (some v) = x.resolveSimple name (some v) := by
  have hmembers : ∀ os : List Cursor, (∀ o ∈ os, z.memberType? name o = x.memberType? name o) →
      os.findSome? (z.memberType? name) = os.findSome? (x.memberType? name) := by
    intro os hos
    induction os with
    | nil => rfl
    | cons o os ih =>
      obtain ⟨ho, hos⟩ := List.forall_mem_cons.1 hos
      rw [List.findSome?_cons, List.findSome?_cons, ho, ih hos]
  unfold resolveSimple
  dsimp only [Option.map_some, Option.getD_some]
  rw [topLevelType?_eq hnames houtside, hmembers _ fun o ho => memberType?_eq hnames ?_]
  exact hinherited o ho

theorem resolve_eq {text : String} {context : Option Cursor}
    (hsimple : let first := String.ofList ((plainName text).takeWhile (· ≠ '.'))
      z.resolveSimple first context = x.resolveSimple first context)
    (hitself : z.hierarchy.knows (String.ofList (plainName text)) =
      x.hierarchy.knows (String.ofList (plainName text))) :
    z.resolve text context = x.resolve text context := by
  have hplain : trimWhere isBlank (text.toList.takeWhile (· ≠ '<')) = plainName text := rfl
  unfold resolve
  dsimp only at hsimple ⊢
  rw [hplain, hsimple, hitself, hnames.contains]
  split
  · rfl
  split
  · rfl
  · rename_i hdot
    have hfirst : (plainName text).takeWhile (· ≠ '.') = plainName text := by
      rw [List.takeWhile_eq_self_iff]
      intro ch hch
      rw [decide_eq_true_eq]
      rintro rfl
      exact hdot (List.contains_iff_mem.2 hch)
    rwa [hfirst] at hsimple

/-- Where all lookups agree the name means the same. -/
theorem SameLookups.meaning_eq (h : SameLookups z x v) : z.meaning v = x.meaning v := by
  have hsimple : z.resolveSimple (firstName x.unit v) (some v) =
      x.resolveSimple (firstName x.unit v) (some v) :=
    resolveSimple_eq hnames h.inherited h.outside
  unfold meaning
  rw [hnames.unit]
  dsimp only
  split
  · rename_i hkind
    rw [firstName, if_pos hkind] at hsimple
    rw [hsimple]
  · rename_i hkind
    rw [firstName, if_neg hkind] at hsimple
    rw [resolve_eq hnames hsimple (h.itself.resolve_left hkind)]

end

end Index

end CauseLint
