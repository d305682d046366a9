import CauseLint.Proofs.Types.Circular

/-!
# Bounds of type parameters

A type variable is read as the first bound of its parameter. Every other reading goes down in the
tree, so a reading can only lead back to itself through the bounds of type parameters. One parameter
depends on another when the reading of its first bound meets a variable that means the other; the
readings in a unit all end exactly when no parameter depends on itself.

Results:

* `Index.shrinks_or_meets`: what a reading leads to is smaller, or a type variable was met on the
  way.
* `Index.boundsAcyclic_iff`: the units in which every written type can be read.
-/

namespace CauseLint.Index

/-- A type variable means a parameter. -/
def Means (u : SourceUnit) (v p : Cursor) : Prop :=
  v.kind = "type_identifier" ∧ typeParameter? u (u.textOf v) v = some p

/-- While the first bound of a type parameter is read, a variable is met that means another one. -/
def DependsOn (u : SourceUnit) (p q : Cursor) : Prop :=
  ∃ bound v, firstBound? p = some bound ∧ Relation.ReflTransGen (Reads u) bound v ∧ Means u v q

/-- No type parameter of a unit depends on itself, be it through others. -/
def BoundsAcyclic (u : SourceUnit) : Prop :=
  ∀ p, Cursor.Below u.root p → ¬ Relation.TransGen (DependsOn u) p p

variable {u : SourceUnit} {c d p q r : Cursor}

/-! ## Steps of a reading -/

theorem size_lt_of_mem_parts (h : d ∈ c.parts) : d.focus.size < c.focus.size :=
  Cursor.size_lt_of_mem_children (Cursor.mem_children_of_mem_parts h)

/-- A reading goes down in the tree, or from a type variable to the bound of its parameter. -/
theorem Reads.cases (h : Reads u c r) :
    r.focus.size < c.focus.size ∨ ∃ p, Means u c p ∧ firstBound? p = some r := by
  unfold Reads reads at h
  split at h
  · exact .inl (size_lt_of_mem_parts (List.mem_of_getLast? (Option.mem_toList.1 h)))
  split at h
  · exact .inl (Cursor.size_lt_of_mem_children
      (Cursor.mem_children_of_childByField? (Option.mem_toList.1 h)))
  split at h
  · refine .inl ?_
    rcases List.mem_append.1 h with h | h
    · exact size_lt_of_mem_parts (List.mem_of_find?_eq_some (Option.mem_toList.1 h))
    · have hr := (List.mem_filter.1 h).1
      cases hargs : firstOfKind ["type_arguments"] c.parts with
      | none =>
        rw [hargs] at hr
        cases hr
      | some args =>
        rw [hargs] at hr
        exact Nat.lt_trans (size_lt_of_mem_parts hr)
          (size_lt_of_mem_parts (List.mem_of_find?_eq_some hargs))
  split at h
  · rename_i hkind
    obtain ⟨p, hp, hbound⟩ := Option.bind_eq_some_iff.1 (Option.mem_toList.1 h)
    exact .inr ⟨p, ⟨hkind, hp⟩, hbound⟩
  · cases h

/-- A type variable is read as the first bound of its parameter. -/
theorem Means.reads (h : Means u c p) (hbound : firstBound? p = some r) : Reads u c r := by
  obtain ⟨hkind, hp⟩ := h
  simp [Reads, Index.reads, hkind, hp, hbound]

/-- What a reading leads to is smaller, or a type variable was met on the way. -/
theorem shrinks_or_meets (h : Relation.TransGen (Reads u) c d) :
    d.focus.size < c.focus.size ∨ ∃ v p bound, Relation.ReflTransGen (Reads u) c v ∧
      Means u v p ∧ firstBound? p = some bound ∧ Relation.ReflTransGen (Reads u) bound d := by
  induction h with
  | single hstep =>
    rcases hstep.cases with hlt | ⟨p, hp, hbound⟩
    · exact .inl hlt
    · exact .inr ⟨c, p, _, .refl, hp, hbound, .refl⟩
  | @tail e d hce hstep ih =>
    rcases ih with hlt | ⟨v, p, bound, hv, hp, hbound, hd⟩
    · rcases hstep.cases with hlt' | ⟨p, hp, hbound⟩
      · exact .inl (Nat.lt_trans hlt' hlt)
      · exact .inr ⟨e, p, d, hce.to_reflTransGen, hp, hbound, .refl⟩
    · exact .inr ⟨v, p, bound, hv, hp, hbound, hd.tail hstep⟩

/-! ## Circles -/

theorem below_of_reflTransGen (hc : Cursor.Below u.root c)
    (h : Relation.ReflTransGen (Reads u) c d) : Cursor.Below u.root d := by
  induction h with
  | refl => exact hc
  | tail _ hstep ih => exact below_of_mem_reads ih hstep

theorem Means.below (hc : Cursor.Below u.root c) (h : Means u c p) : Cursor.Below u.root p := by
  obtain ⟨outer, houter, hp⟩ := below_of_typeParameter? h.2
  exact (Cursor.parents_below rfl hc houter).trans hp

/-- Where a reading leads back to itself, some type parameter depends on itself. -/
theorem exists_dependsOn_self (hc : Cursor.Below u.root c) (h : Circular u c) :
    ∃ p, Cursor.Below u.root p ∧ DependsOn u p p := by
  obtain ⟨d, hcd, hdd⟩ := h
  rcases shrinks_or_meets hdd with hlt | ⟨v, p, bound, hv, hp, hbound, hd⟩
  · exact absurd hlt (Nat.lt_irrefl _)
  · have hbelow : Cursor.Below u.root v := below_of_reflTransGen hc (hcd.trans hv)
    exact ⟨p, hp.below hbelow, bound, v, hbound, hd.trans hv, hp⟩

/-- The bound of a parameter leads to the bound of each parameter that it depends on. -/
theorem reads_of_dependsOn (h : Relation.TransGen (DependsOn u) p q)
    (hbound : firstBound? p = some c) (hbound' : firstBound? q = some d) :
    Relation.TransGen (Reads u) c d := by
  induction h generalizing d with
  | single hpq =>
    obtain ⟨b, v, hb, hv, hq⟩ := hpq
    obtain rfl := Option.some.inj (hbound.symm.trans hb)
    exact Relation.TransGen.tail' hv (hq.reads hbound')
  | tail _ hqr ih =>
    obtain ⟨b, v, hb, hv, hr⟩ := hqr
    exact (ih hb).trans (Relation.TransGen.tail' hv (hr.reads hbound'))

/-- The bounds of a unit are acyclic exactly when no reading in it leads back to itself. -/
theorem boundsAcyclic_iff : BoundsAcyclic u ↔ ∀ c, Cursor.Below u.root c → ¬ Circular u c := by
  constructor
  · intro hacyclic c hc hcirc
    obtain ⟨p, hp, hself⟩ := exists_dependsOn_self hc hcirc
    exact hacyclic p hp (.single hself)
  · intro hall p hp hself
    obtain ⟨q, ⟨bound, -, hbound, -⟩, -⟩ := Relation.TransGen.head'_iff.1 hself
    exact hall bound (hp.trans (below_of_firstBound? hbound))
      ⟨bound, .refl, reads_of_dependsOn hself hbound hbound⟩

end CauseLint.Index
