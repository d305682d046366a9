import CauseLint.Proofs.Hierarchy.Descent

/-!
# The order of ancestors

The ancestors of a class are listed by their distance, the least number of supertypes on a path to
them. While they are searched for, the queue holds two neighbouring levels: first the rest of the
level whose classes are being visited, then the supertypes of those already visited.

Results:

* `Hierarchy.nodup_ancestors`: no ancestor is listed twice.
* `Hierarchy.pairwise_ancestors`: no ancestor is listed behind a farther one.
* `Hierarchy.Precedes.of_nearer`: a nearer ancestor is listed before.
-/

namespace CauseLint.Hierarchy

/-- A path of a number of supertypes leads from a class to another. -/
inductive Steps (h : Hierarchy) (a : String) : Nat → String → Prop
  | refl : Steps h a 0 a
  | tail {n : Nat} {b c : String} : Steps h a n b → h.Extends b c → Steps h a (n + 1) c

/-- One class is nearer to `a` than another: some path to it is shorter than all paths to the
other. -/
def Nearer (h : Hierarchy) (a b c : String) : Prop :=
  ∃ m, h.Steps a m b ∧ ∀ n, h.Steps a n c → m < n

/-- Among the ancestors of `a` one class is listed before another. -/
def Precedes (h : Hierarchy) (a b c : String) : Prop := [b, c].Sublist (h.ancestors a)

variable {h : Hierarchy} {a b c : String}

theorem Steps.descends {n : Nat} (hn : h.Steps a n b) : h.Descends a b := by
  induction hn with
  | refl => exact .refl
  | tail _ hstep ih => exact .tail ih hstep

theorem Descends.exists_steps (hab : h.Descends a b) : ∃ n, h.Steps a n b := by
  induction hab with
  | refl => exact ⟨0, .refl⟩
  | tail _ hstep ih =>
    obtain ⟨n, hn⟩ := ih
    exact ⟨n + 1, hn.tail hstep⟩

/-! ## No ancestor twice -/

theorem not_mem_of_mem_reach {queue seen : List String} (hb : b ∈ h.reach queue seen) :
    b ∉ seen := by
  fun_induction reach h queue seen with
  | case1 => cases hb
  | case2 n queue seen hn ih => exact ih hb
  | case3 n queue seen hn ih =>
    rcases List.mem_cons.1 hb with rfl | hb
    · exact fun hmem => hn (List.contains_iff_mem.2 hmem)
    · exact fun hmem => ih hb (List.mem_cons_of_mem n hmem)

theorem nodup_reach (queue seen : List String) : (h.reach queue seen).Nodup := by
  fun_induction reach h queue seen with
  | case1 => exact List.nodup_nil
  | case2 n queue seen hn ih => exact ih
  | case3 n queue seen hn ih =>
    refine List.nodup_cons.2 ⟨fun hmem => ?_, ih⟩
    exact not_mem_of_mem_reach hmem List.mem_cons_self

/-- No ancestor is listed twice. -/
theorem nodup_ancestors (h : Hierarchy) (a : String) : (h.ancestors a).Nodup := nodup_reach _ _

/-- A class comes first among its ancestors. -/
theorem ancestors_eq_cons (h : Hierarchy) (a : String) :
    h.ancestors a = a :: (h.ancestors a).tail := by
  rw [ancestors, reach, if_neg (by simp), List.tail_cons]

theorem mem_tail_ancestors_iff : b ∈ (h.ancestors a).tail ↔ h.Descends a b ∧ b ≠ a := by
  have hnodup := nodup_ancestors h a
  rw [ancestors_eq_cons, List.nodup_cons] at hnodup
  rw [← mem_ancestors_iff, ancestors_eq_cons h a, List.mem_cons, List.tail_cons]
  constructor
  · intro hb
    exact ⟨.inr hb, fun heq => hnodup.1 (heq ▸ hb)⟩
  · rintro ⟨hb, hne⟩
    exact hb.resolve_left hne

/-! ## Levels -/

/-- The search from `a` is at a depth: the names `near` wait there, the names `far` wait one level
farther up, and all that is less deep has been visited. -/
structure Levels (h : Hierarchy) (a : String) (depth : Nat) (near far seen : List String) :
    Prop where
  here : ∀ n ∈ near, h.Steps a depth n
  farther : ∀ n ∈ far, h.Steps a (depth + 1) n
  closer : ∀ m < depth, ∀ n, h.Steps a m n → n ∈ seen
  level : ∀ n, h.Steps a depth n → n ∈ seen ∨ n ∈ near
  closed : h.Closed (near ++ far) seen

namespace Levels

variable {depth : Nat} {near far seen : List String} {n : String}

theorem start : Levels h a 0 [a] [] [] where
  here n hn := by
    rw [List.mem_singleton.1 hn]
    exact .refl
  farther _ hn := absurd hn List.not_mem_nil
  closer m hm := absurd hm (Nat.not_lt_zero m)
  level n hn := by
    cases hn
    exact .inr List.mem_cons_self
  closed _ hn := absurd hn List.not_mem_nil

/-- Behind the last name of a level the next one begins. -/
theorem next (hl : Levels h a depth [] far seen) : Levels h a (depth + 1) far [] seen where
  here := hl.farther
  farther _ hn := absurd hn List.not_mem_nil
  closer m hm n hn := by
    rcases Nat.lt_succ_iff_lt_or_eq.1 hm with hm | rfl
    · exact hl.closer m hm n hn
    · exact (hl.level n hn).resolve_right List.not_mem_nil
  level n hn := by
    cases hn with
    | tail hb hstep =>
      exact hl.closed _ ((hl.level _ hb).resolve_right List.not_mem_nil) n hstep
  closed := by simpa using hl.closed

/-- The first name that waits is on the nearest level on which names wait. -/
theorem exists_head {queue : List String} (hl : Levels h a depth near far seen)
    (hqueue : near ++ far = n :: queue) :
    ∃ depth near far, Levels h a depth (n :: near) far seen ∧ queue = near ++ far := by
  cases near with
  | nil =>
    rw [List.nil_append] at hqueue
    exact ⟨depth + 1, queue, [], hqueue ▸ hl.next, by simp⟩
  | cons m near =>
    obtain ⟨rfl, rfl⟩ := List.cons.inj hqueue
    exact ⟨depth, near, far, hl, rfl⟩

theorem skip (hl : Levels h a depth (n :: near) far seen) (hn : n ∈ seen) :
    Levels h a depth near far seen where
  here m hm := hl.here m (List.mem_cons_of_mem n hm)
  farther := hl.farther
  closer := hl.closer
  level m hm := met_of_skip hn (hl.level m hm)
  closed := hl.closed.skip hn

theorem visit (hl : Levels h a depth (n :: near) far seen) :
    Levels h a depth near (far ++ h.supertypes n) (n :: seen) where
  here m hm := hl.here m (List.mem_cons_of_mem n hm)
  farther m hm := by
    rcases List.mem_append.1 hm with hm | hm
    · exact hl.farther m hm
    · exact (hl.here n List.mem_cons_self).tail (mem_supertypes_iff.1 hm)
  closer m hm k hk := List.mem_cons_of_mem n (hl.closer m hm k hk)
  level m hm := met_of_visit (hl.level m hm)
  closed := by
    rw [← List.append_assoc]
    exact hl.closed.visit

end Levels

theorem pairwise_reach {depth : Nat} {near far seen : List String}
    (hl : Levels h a depth near far seen) :
    (h.reach (near ++ far) seen).Pairwise fun b c =>
      ∀ n, h.Steps a n c → ∃ m ≤ n, h.Steps a m b := by
  generalize hqueue : near ++ far = queue
  fun_induction reach h queue seen generalizing depth near far with
  | case1 => exact .nil
  | case2 n queue seen hn ih =>
    obtain ⟨depth, near, far, hl, rfl⟩ := hl.exists_head hqueue
    exact ih (hl.skip (List.contains_iff_mem.1 hn)) rfl
  | case3 n queue seen hn ih =>
    obtain ⟨depth, near, far, hl, rfl⟩ := hl.exists_head hqueue
    refine List.pairwise_cons.2 ⟨fun c hc m hm => ?_, ih hl.visit (List.append_assoc ..).symm⟩
    refine ⟨depth, Nat.le_of_not_lt fun hlt => ?_, hl.here n List.mem_cons_self⟩
    exact not_mem_of_mem_reach hc (List.mem_cons_of_mem n (hl.closer m hlt c hm))

/-- No ancestor is listed behind a farther one. -/
theorem pairwise_ancestors (h : Hierarchy) (a : String) :
    (h.ancestors a).Pairwise fun b c => ∀ n, h.Steps a n c → ∃ m ≤ n, h.Steps a m b :=
  pairwise_reach (Levels.start : Levels h a 0 [a] [] [])

/-! ## Before and behind -/

/-- What is listed before is not farther. -/
theorem Precedes.steps {n : Nat} (hbc : h.Precedes a b c) (hn : h.Steps a n c) :
    ∃ m ≤ n, h.Steps a m b := by
  have hpair := (h.pairwise_ancestors a).sublist hbc
  exact List.rel_of_pairwise_cons hpair List.mem_cons_self n hn

/-- Two different ancestors are listed one before the other. -/
theorem precedes_or_precedes (hb : h.Descends a b) (hc : h.Descends a c) (hne : b ≠ c) :
    h.Precedes a b c ∨ h.Precedes a c b := by
  obtain ⟨l, r, hsplit⟩ := List.append_of_mem (mem_ancestors_iff.2 hb)
  have hc : c ∈ l ++ b :: r := hsplit ▸ mem_ancestors_iff.2 hc
  unfold Precedes
  rw [hsplit]
  rcases List.mem_append.1 hc with hc | hc
  · exact .inr ((List.singleton_sublist.2 hc).append (List.singleton_sublist.2 List.mem_cons_self))
  · have hc : c ∈ r := (List.mem_cons.1 hc).resolve_left (Ne.symm hne)
    exact .inl (((List.singleton_sublist.2 hc).cons_cons b).trans (List.sublist_append_right l _))

/-- A nearer ancestor is listed before. -/
theorem Precedes.of_nearer (hbc : h.Nearer a b c) (hc : h.Descends a c) : h.Precedes a b c := by
  obtain ⟨m, hm, hless⟩ := hbc
  have hne : b ≠ c := by
    rintro rfl
    exact Nat.lt_irrefl m (hless m hm)
  refine (precedes_or_precedes hm.descends hc hne).resolve_right fun hcb => ?_
  obtain ⟨n, hle, hn⟩ := hcb.steps hm
  exact Nat.lt_irrefl n (Nat.lt_of_le_of_lt hle (hless n hn))

end CauseLint.Hierarchy
