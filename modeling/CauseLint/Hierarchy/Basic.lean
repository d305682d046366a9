import CauseLint.Table
import CauseLint.Total

/-!
# Class hierarchies

What is known about classes: their direct supertypes and what their methods return. A hierarchy is
a layer of own declarations over the layers of its parents; a lookup takes the innermost layer that
knows the name, and declaring touches the own layer only. Supertypes may be undeclared, repeated or
cyclic.

Results:

* `Hierarchy.ancestors` searches breadth first and ends on every hierarchy, because each step takes
  a name off the queue or a declared name off those not yet seen.
* `Hierarchy.subtyping` answers yes, no, or unknown when an ancestor is not declared.
-/

namespace CauseLint

/-- The class that every class descends from. -/
def objectClass : String := "java.lang.Object"

/-- The class of texts. -/
def stringClass : String := "java.lang.String"

/-- The class of everything that can be thrown. -/
def throwableClass : String := "java.lang.Throwable"

/-- The class of classes. -/
def classClass : String := "java.lang.Class"

/-- The interface on which log statements are built. -/
def loggingApi : String := "com.google.common.flogger.LoggingApi"

/-- The return entry of a method that returns its own receiver. -/
def selfMarker : String := "<self>"

/-- Supertypes and known methods of one class. -/
structure ClassInfo where
  name : String
  supertypes : List String := []
  isInterface : Bool := false
  /-- What each known method returns: a class, a primitive, `void` or the receiver itself. -/
  methods : Table String String := {}

/-- Whether one class descends from another, as far as is known. -/
inductive Subtyping where
  | yes
  | no
  | unknown
deriving Repr, DecidableEq

/-- The word for an answer. -/
def Subtyping.name : Subtyping → String
  | .yes => "yes"
  | .no => "no"
  | .unknown => "unknown"

/-- Declarations over those of the parents, innermost parent first (`ClassHierarchy`). -/
structure Hierarchy where
  own : Table String ClassInfo := {}
  parents : List (Table String ClassInfo) := []

namespace Hierarchy

/-- A new layer over a hierarchy. -/
def child (h : Hierarchy) : Hierarchy := ⟨{}, h.own :: h.parents⟩

/-- Declare a class in the own layer. -/
def declare (h : Hierarchy) (info : ClassInfo) : Hierarchy :=
  { h with own := h.own.insert info.name info }

/-- All layers, the own one first. -/
def layers (h : Hierarchy) : List (Table String ClassInfo) := h.own :: h.parents

/-- What is known about a class (`get`). -/
def get? (h : Hierarchy) (name : String) : Option ClassInfo :=
  h.layers.findSome? (·.get? name)

/-- Whether a class is declared. -/
def knows (h : Hierarchy) (name : String) : Bool := (h.get? name).isSome

/-- The direct supertypes of a class. -/
def supertypes (h : Hierarchy) (name : String) : List String :=
  match h.get? name with
  | some info => info.supertypes
  | none => []

/-- How many declarations there are in all layers. -/
def size (h : Hierarchy) : Nat := total (·.size) h.layers

/-- The declared names of all layers. -/
def names (h : Hierarchy) : List String := h.layers.flatMap (·.keys)

/-! ## Ancestors -/

/-- How much the names not yet seen can still put on the queue. -/
def pending (h : Hierarchy) (seen : List String) : Nat :=
  total (fun n => (h.supertypes n).length + 1) (h.names.filter (!seen.contains ·))

theorem mem_keys_of_get? {t : Table String ClassInfo} {n : String} {i : ClassInfo}
    (h : t.get? n = some i) : n ∈ t.keys := by
  unfold Table.get? at h
  unfold Table.keys
  generalize t.entries = es at *
  induction es with
  | nil => simp at h
  | cons e es ih =>
    obtain ⟨k, v⟩ := e
    by_cases hk : n == k
    · simp [eq_of_beq hk]
    · simp only [List.lookup_cons, hk] at h
      exact List.mem_cons_of_mem _ (ih h)

/-- A class with supertypes is declared somewhere. -/
theorem mem_names_of_knows {h : Hierarchy} {n : String} (hk : h.knows n = true) : n ∈ h.names := by
  obtain ⟨i, hi⟩ := Option.isSome_iff_exists.1 hk
  obtain ⟨t, ht, hti⟩ := List.exists_of_findSome?_eq_some hi
  exact List.mem_flatMap.2 ⟨t, ht, mem_keys_of_get? hti⟩

/-- Seeing a new name frees at least as much as its supertypes put on the queue. -/
theorem pending_cons_le (h : Hierarchy) (seen : List String) (n : String)
    (hn : seen.contains n = false) :
    h.pending (n :: seen) + (h.supertypes n).length ≤ h.pending seen := by
  have hpq : ∀ x ∈ h.names, (!(n :: seen).contains x) = true → (!seen.contains x) = true := by
    intro x _ hx
    simp only [Bool.not_eq_true', List.contains_cons, Bool.or_eq_false_iff] at hx ⊢
    exact hx.2
  by_cases hk : h.knows n = true
  · have := total_filter_add_le (fun m => (h.supertypes m).length + 1)
      (!(n :: seen).contains ·) (!seen.contains ·) h.names n hpq (by simp) (by rw [hn]; rfl)
      (mem_names_of_knows hk)
    unfold pending
    omega
  · have hs : h.supertypes n = [] := by
      unfold knows at hk
      unfold supertypes
      cases hg : h.get? n with
      | none => rfl
      | some i => simp [hg] at hk
    rw [hs]
    exact total_filter_le _ _ _ _ hpq

/-- Take names off a queue, list each the first time it comes, and queue its supertypes. -/
def reach (h : Hierarchy) : List String → List String → List String
  | [], _ => []
  | n :: queue, seen =>
    if seen.contains n then reach h queue seen
    else n :: reach h (queue ++ h.supertypes n) (n :: seen)
termination_by queue seen => h.pending seen + queue.length
decreasing_by
  · simp
  · rename_i hn
    have := pending_cons_le h seen n (by simpa using hn)
    simp only [List.length_append, List.length_cons]
    omega

/-- A class and everything it descends from, breadth first, each once. -/
def ancestors (h : Hierarchy) (name : String) : List String := h.reach [name] []

/-! ## Questions -/

/-- Whether `sub` descends from `sup` (`is_subtype`). The answer is unknown when `sup` was not found
and some ancestor of `sub` is not declared. -/
def subtyping (h : Hierarchy) (sub sup : String) : Subtyping :=
  if sub = sup || sup = objectClass then .yes
  else
    let found := h.ancestors sub
    if found.contains sup then .yes
    else if found.all h.knows then .no
    else .unknown

/-- What a method returns, by the nearest ancestor that declares it (`lookup_method`). -/
def method? (h : Hierarchy) (name method : String) : Option String :=
  (h.ancestors name).findSome? fun a => (h.get? a).bind fun info => info.methods.get? method

/-- A hierarchy as messages show it. -/
def shown (h : Hierarchy) : String :=
  let hasParent := if h.parents.isEmpty then "False" else "True"
  s!"<ClassHierarchy {h.own.size} local, parent={hasParent}>"

end Hierarchy

end CauseLint
