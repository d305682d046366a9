import CauseLint.Hierarchy.Basic
import Mathlib.Logic.Relation

/-!
# Descent

A class descends from another when a path of declared supertypes leads from it to the other, each
name on the path standing for its innermost declaration. Hierarchies are any graphs: paths may run
in circles, meet again, and end at names that nothing declares.

A search for a class takes names off a queue, skips those it has visited, stops at the class it
looks for, and remembers whether it has visited a name that is not declared. It ends because each
step takes a name off the queue, or visits a declared name for the first time and puts no more on
the queue than that name accounts for in `pending`.

Results:

* `Hierarchy.mem_ancestors_iff`: the ancestors of a class are what it descends from.
* `Hierarchy.Search.Sound.exists_ends`: a search ends, and its answer is right.
* `Hierarchy.subtyping_decides_descent`: what the three answers about two classes mean.
-/

namespace CauseLint.Hierarchy

/-- A class names another as a direct supertype, in its innermost declaration. -/
def Extends (h : Hierarchy) (a b : String) : Prop :=
  ∃ info, h.get? a = some info ∧ b ∈ info.supertypes

/-- A class is another one or reaches it from supertype to supertype. -/
def Descends (h : Hierarchy) : String → String → Prop := Relation.ReflTransGen h.Extends

variable {h : Hierarchy}

theorem mem_supertypes_iff {a b : String} : b ∈ h.supertypes a ↔ h.Extends a b := by
  unfold supertypes Extends
  cases h.get? a with
  | none => simp
  | some info => simp

theorem get?_declare {info : ClassInfo} {a : String} :
    (h.declare info).get? a = if a = info.name then some info else h.get? a := by
  show ((h.own.insert info.name info) :: h.parents).findSome? (·.get? a) = _
  rw [List.findSome?_cons, Table.get?_insert]
  by_cases ha : a = info.name
  · simp [ha]
  · simp [ha, get?, layers, List.findSome?_cons]

/-! ## Closed sets of names -/

/-- A name that is visited or waits still is or does when the next one is skipped. -/
theorem met_of_skip {queue seen : List String} {n b : String} (hn : n ∈ seen)
    (hb : b ∈ seen ∨ b ∈ n :: queue) : b ∈ seen ∨ b ∈ queue := by
  rcases hb with hb | hb
  · exact .inl hb
  · rcases List.mem_cons.1 hb with rfl | hb
    · exact .inl hn
    · exact .inr hb

/-- A name that is visited or waits still is or does when the next one is visited. -/
theorem met_of_visit {queue seen : List String} {n b : String} (hb : b ∈ seen ∨ b ∈ n :: queue) :
    b ∈ n :: seen ∨ b ∈ queue :=
  met_of_skip List.mem_cons_self (hb.imp_left (List.mem_cons_of_mem n))

/-- What the visited names extend is visited too or waits to be. -/
def Closed (h : Hierarchy) (queue seen : List String) : Prop :=
  ∀ a ∈ seen, ∀ b, h.Extends a b → b ∈ seen ∨ b ∈ queue

theorem Closed.skip {queue seen : List String} {n : String} (hc : h.Closed (n :: queue) seen)
    (hn : n ∈ seen) : h.Closed queue seen :=
  fun a ha b hab => met_of_skip hn (hc a ha b hab)

theorem Closed.visit {queue seen : List String} {n : String} (hc : h.Closed (n :: queue) seen) :
    h.Closed (queue ++ h.supertypes n) (n :: seen) := by
  intro a ha b hab
  rcases List.mem_cons.1 ha with rfl | ha
  · exact .inr (List.mem_append_right _ (mem_supertypes_iff.2 hab))
  · exact (met_of_visit (hc a ha b hab)).imp_right (List.mem_append_left _)

/-- When nothing waits, everything that a visited name descends from is visited. -/
theorem Closed.mem_of_descends {seen : List String} (hc : h.Closed [] seen) {a b : String}
    (ha : a ∈ seen) (hab : h.Descends a b) : b ∈ seen := by
  induction hab with
  | refl => exact ha
  | tail _ hstep ih => exact (hc _ ih _ hstep).resolve_right List.not_mem_nil

/-! ## Ancestors -/

theorem descends_of_mem_reach {queue seen : List String} {b : String}
    (hb : b ∈ h.reach queue seen) : ∃ a ∈ queue, h.Descends a b := by
  fun_induction reach h queue seen with
  | case1 => cases hb
  | case2 n queue seen hn ih =>
    obtain ⟨a, ha, hab⟩ := ih hb
    exact ⟨a, List.mem_cons_of_mem _ ha, hab⟩
  | case3 n queue seen hn ih =>
    rcases List.mem_cons.1 hb with rfl | hb
    · exact ⟨b, List.mem_cons_self, .refl⟩
    · obtain ⟨a, ha, hab⟩ := ih hb
      rcases List.mem_append.1 ha with ha | ha
      · exact ⟨a, List.mem_cons_of_mem _ ha, hab⟩
      · exact ⟨n, List.mem_cons_self, .head (mem_supertypes_iff.1 ha) hab⟩

theorem mem_reach_of_descends {queue seen : List String} (hc : h.Closed queue seen) {a b : String}
    (ha : a ∈ seen ∨ a ∈ queue) (hab : h.Descends a b) : b ∈ seen ∨ b ∈ h.reach queue seen := by
  fun_induction reach h queue seen with
  | case1 seen =>
    exact .inl (hc.mem_of_descends (ha.resolve_right List.not_mem_nil) hab)
  | case2 n queue seen hn ih =>
    have hn := List.contains_iff_mem.1 hn
    exact ih (hc.skip hn) (met_of_skip hn ha)
  | case3 n queue seen hn ih =>
    rcases ih hc.visit ((met_of_visit ha).imp_right (List.mem_append_left _)) with hb | hb
    · rcases List.mem_cons.1 hb with rfl | hb
      · exact .inr List.mem_cons_self
      · exact .inl hb
    · exact .inr (List.mem_cons_of_mem _ hb)

/-- The ancestors of a class are what it descends from. -/
theorem mem_ancestors_iff {a b : String} : b ∈ h.ancestors a ↔ h.Descends a b := by
  constructor
  · intro hb
    obtain ⟨c, hc, hcb⟩ := descends_of_mem_reach hb
    rwa [List.mem_singleton.1 hc] at hcb
  · intro hab
    have hclosed : h.Closed [a] [] := fun _ hn => absurd hn List.not_mem_nil
    exact (mem_reach_of_descends hclosed (.inr List.mem_cons_self) hab).resolve_left
      List.not_mem_nil

/-! ## The search for a class -/

/-- What an answer about two classes says of the paths between them. -/
def Answers (h : Hierarchy) (sub sup : String) : Subtyping → Prop
  | .yes => h.Descends sub sup
  | .no => ¬ h.Descends sub sup ∧ ∀ n, h.Descends sub n → h.knows n = true
  | .unknown => ¬ h.Descends sub sup ∧ ∃ n, h.Descends sub n ∧ h.knows n = false

theorem Answers.unique {sub sup : String} {a b : Subtyping} (ha : h.Answers sub sup a)
    (hb : h.Answers sub sup b) : a = b := by
  have hdoubt : (∀ n, h.Descends sub n → h.knows n = true) →
      ¬ ∃ n, h.Descends sub n ∧ h.knows n = false := by
    rintro hall ⟨n, hn, hunknown⟩
    rw [hall n hn] at hunknown
    cases hunknown
  cases a <;> cases b
  · rfl
  · exact absurd ha hb.1
  · exact absurd ha hb.1
  · exact absurd hb ha.1
  · rfl
  · exact absurd hb.2 (hdoubt ha.2)
  · exact absurd hb ha.1
  · exact absurd ha.2 (hdoubt hb.2)
  · rfl

/-- A search under way: the names that wait, those visited, and whether one of these is not
declared. -/
structure Search where
  queue : List String
  seen : List String := []
  incomplete : Bool := false

namespace Search

/-- One step: the next name is skipped if it was visited before, ends the search if it is the one
looked for, and else makes room for its supertypes. -/
def step (h : Hierarchy) (sup : String) (s : Search) : Search ⊕ Subtyping :=
  match s.queue with
  | [] => .inr (if s.incomplete then .unknown else .no)
  | n :: queue =>
    if s.seen.contains n then .inl { s with queue }
    else if n = sup then .inr .yes
    else .inl ⟨queue ++ h.supertypes n, n :: s.seen, s.incomplete || !h.knows n⟩

/-- After some steps the search ends with an answer. -/
inductive Ends (h : Hierarchy) (sup : String) : Search → Subtyping → Prop
  | now {s : Search} {a : Subtyping} : s.step h sup = .inr a → Ends h sup s a
  | later {s t : Search} {a : Subtyping} : s.step h sup = .inl t → Ends h sup t a → Ends h sup s a

/-- What a search from `sub` for `sup` knows at every step. -/
structure Sound (h : Hierarchy) (sub sup : String) (s : Search) : Prop where
  begun : sub ∈ s.seen ∨ sub ∈ s.queue
  reached : ∀ n, n ∈ s.seen ∨ n ∈ s.queue → h.Descends sub n
  closed : h.Closed s.queue s.seen
  missed : sup ∉ s.seen
  doubtful : s.incomplete = true ↔ ∃ n ∈ s.seen, h.knows n = false

variable {sub sup : String} {s t : Search} {a : Subtyping}

theorem sound_start : Sound h sub sup { queue := [sub] } where
  begun := .inr List.mem_cons_self
  reached n hn := by
    rcases hn with hn | hn
    · cases hn
    · rw [List.mem_singleton.1 hn]
      exact .refl
  closed _ hn := absurd hn List.not_mem_nil
  missed := List.not_mem_nil
  doubtful := by simp

/-- A step that goes on visits the next name or skips it. -/
theorem step_cases (hstep : s.step h sup = .inl t) :
    ∃ n queue, s.queue = n :: queue ∧
      (n ∈ s.seen ∧ t = { s with queue } ∨
        n ∉ s.seen ∧ n ≠ sup ∧
          t = ⟨queue ++ h.supertypes n, n :: s.seen, s.incomplete || !h.knows n⟩) := by
  unfold step at hstep
  split at hstep
  · cases hstep
  · rename_i n queue hqueue
    refine ⟨n, queue, hqueue, ?_⟩
    split at hstep
    · rename_i hn
      exact .inl ⟨List.contains_iff_mem.1 hn, (Sum.inl.inj hstep).symm⟩
    · rename_i hn
      split at hstep
      · cases hstep
      · rename_i hne
        exact .inr ⟨fun h => hn (List.contains_iff_mem.2 h), hne, (Sum.inl.inj hstep).symm⟩

/-- A step keeps what the search knows. -/
theorem Sound.step (hs : Sound h sub sup s) (hstep : s.step h sup = .inl t) :
    Sound h sub sup t := by
  obtain ⟨hbegun, hreached, hclosed, hmissed, hdoubtful⟩ := hs
  obtain ⟨n, queue, hqueue, hcase⟩ := step_cases hstep
  rw [hqueue] at hbegun hreached hclosed
  rcases hcase with ⟨hn, rfl⟩ | ⟨-, hne, rfl⟩
  · refine ⟨met_of_skip hn hbegun, ?_, hclosed.skip hn, hmissed, hdoubtful⟩
    exact fun m hm => hreached m (hm.imp_right (List.mem_cons_of_mem n))
  · have hsubn : h.Descends sub n := hreached n (.inr List.mem_cons_self)
    refine ⟨?_, ?_, hclosed.visit, ?_, ?_⟩
    · exact (met_of_visit hbegun).imp_right (List.mem_append_left _)
    · rintro m (hm | hm)
      · rcases List.mem_cons.1 hm with rfl | hm
        · exact hsubn
        · exact hreached m (.inl hm)
      · rcases List.mem_append.1 hm with hm | hm
        · exact hreached m (.inr (List.mem_cons_of_mem _ hm))
        · exact hsubn.tail (mem_supertypes_iff.1 hm)
    · intro hsup
      rcases List.mem_cons.1 hsup with rfl | hsup
      · exact hne rfl
      · exact hmissed hsup
    · simp only [Bool.or_eq_true, Bool.not_eq_true', hdoubtful, List.mem_cons, or_and_right,
        exists_or, exists_eq_left]
      exact or_comm

/-- The answer with which a search ends is right. -/
theorem Sound.answers (hs : Sound h sub sup s) (hstep : s.step h sup = .inr a) :
    h.Answers sub sup a := by
  obtain ⟨hbegun, hreached, hclosed, hmissed, hdoubtful⟩ := hs
  unfold Search.step at hstep
  split at hstep
  · rename_i hqueue
    rw [hqueue] at hbegun hclosed
    have hsub := hbegun.resolve_right List.not_mem_nil
    have hall : ∀ n, h.Descends sub n → n ∈ s.seen := fun n => hclosed.mem_of_descends hsub
    have hnot : ¬ h.Descends sub sup := fun hsup => hmissed (hall sup hsup)
    obtain rfl := Sum.inr.inj hstep
    split
    · rename_i hincomplete
      obtain ⟨n, hn, hunknown⟩ := hdoubtful.1 hincomplete
      exact ⟨hnot, n, hreached n (.inl hn), hunknown⟩
    · rename_i hcomplete
      refine ⟨hnot, fun n hn => Bool.not_eq_false _ ▸ fun hunknown => ?_⟩
      exact hcomplete (hdoubtful.2 ⟨n, hall n hn, hunknown⟩)
  · rename_i n queue hqueue
    split at hstep
    · cases hstep
    · split at hstep
      · rename_i hsup
        obtain rfl := Sum.inr.inj hstep
        rw [← hsup]
        exact hreached n (.inr (hqueue ▸ List.mem_cons_self))
      · cases hstep

/-- How much a search has still to do at most. -/
def left (h : Hierarchy) (s : Search) : Nat := h.pending s.seen + s.queue.length

theorem left_lt (hstep : s.step h sup = .inl t) : t.left h < s.left h := by
  obtain ⟨n, queue, hqueue, ⟨-, rfl⟩ | ⟨hn, -, rfl⟩⟩ := step_cases hstep
  · simp only [left, hqueue, List.length_cons]
    omega
  · have hle := pending_cons_le h s.seen n (by simpa using hn)
    simp only [left, hqueue, List.length_cons, List.length_append]
    omega

/-- A search ends, and its answer is right. -/
theorem Sound.exists_ends (hs : Sound h sub sup s) : ∃ a, Ends h sup s a ∧ h.Answers sub sup a := by
  induction hleft : s.left h using Nat.strongRecOn generalizing s with
  | _ n ih =>
    cases hstep : s.step h sup with
    | inl t =>
      obtain ⟨a, hends, ha⟩ := ih _ (hleft ▸ left_lt hstep) (hs.step hstep) rfl
      exact ⟨a, .later hstep hends, ha⟩
    | inr a => exact ⟨a, .now hstep, hs.answers hstep⟩

end Search

/-! ## Subtypes -/

/-- Classes other than the topmost one are judged by the paths that lead to them. -/
theorem answers_subtyping {sub sup : String} (hsup : sup ≠ objectClass) :
    h.Answers sub sup (h.subtyping sub sup) := by
  unfold subtyping
  split
  · rename_i heq
    obtain rfl : sub = sup := by simpa [hsup] using heq
    exact .refl
  · dsimp only
    split
    · rename_i hfound
      exact mem_ancestors_iff.1 (List.contains_iff_mem.1 hfound)
    · rename_i hmissed
      have hnot : ¬ h.Descends sub sup := fun hsup =>
        hmissed (List.contains_iff_mem.2 (mem_ancestors_iff.2 hsup))
      split
      · rename_i hall
        exact ⟨hnot, fun n hn => List.all_eq_true.1 hall n (mem_ancestors_iff.2 hn)⟩
      · rename_i hdoubt
        obtain ⟨n, hn, hunknown⟩ := by simpa using hdoubt
        exact ⟨hnot, n, mem_ancestors_iff.1 hn, hunknown⟩

theorem subtyping_objectClass (sub : String) : h.subtyping sub objectClass = .yes := by
  simp [subtyping]

theorem subtyping_eq_yes_iff {sub sup : String} :
    h.subtyping sub sup = .yes ↔ sup = objectClass ∨ h.Descends sub sup := by
  by_cases hsup : sup = objectClass
  · rw [hsup]
    exact iff_of_true (subtyping_objectClass sub) (.inl rfl)
  · have hanswers : h.Answers sub sup (h.subtyping sub sup) := answers_subtyping hsup
    constructor
    · intro hyes
      rw [hyes] at hanswers
      exact .inr hanswers
    · rintro (heq | hdescends)
      · exact absurd heq hsup
      · exact hanswers.unique hdescends

/-- The answer about a class other than the topmost one is unknown when no path leads to it and some
path leads to a name that is not declared. -/
theorem subtyping_eq_unknown_iff {sub sup : String} (hsup : sup ≠ objectClass) :
    h.subtyping sub sup = .unknown ↔
      ¬ h.Descends sub sup ∧ ∃ n, h.Descends sub n ∧ h.knows n = false := by
  have hanswers : h.Answers sub sup (h.subtyping sub sup) := answers_subtyping hsup
  constructor
  · intro hunknown
    rwa [hunknown] at hanswers
  · exact fun ha => hanswers.unique (b := .unknown) ha

/-- One class descends from another when a path of supertypes leads from it to the other, and every
class descends from the topmost one. Where no path is found the answer is unknown if some path
leads to a name that is not declared, and no otherwise. The search for a path ends, with this
answer. -/
theorem subtyping_decides_descent (h : Hierarchy) (sub sup : String) :
    let above := sup = objectClass ∨ h.Descends sub sup
    (h.subtyping sub sup = .yes ↔ above) ∧
    (h.subtyping sub sup = .unknown ↔ ¬ above ∧ ∃ n, h.Descends sub n ∧ h.knows n = false) ∧
    (h.subtyping sub sup = .no ↔ ¬ above ∧ ∀ n, h.Descends sub n → h.knows n = true) ∧
    (sup = objectClass ∨ Search.Ends h sup { queue := [sub] } (h.subtyping sub sup)) := by
  intro above
  by_cases hsup : sup = objectClass
  · have habove : above := .inl hsup
    have hyes : h.subtyping sub sup = .yes := subtyping_eq_yes_iff.2 habove
    rw [hyes]
    refine ⟨iff_of_true rfl habove, ?_, ?_, .inl hsup⟩
    · exact iff_of_false Subtyping.noConfusion fun hnot => hnot.1 habove
    · exact iff_of_false Subtyping.noConfusion fun hnot => hnot.1 habove
  · have hanswers : h.Answers sub sup (h.subtyping sub sup) := answers_subtyping hsup
    have hnot : ¬ above ↔ ¬ h.Descends sub sup := by simp [above, hsup]
    refine ⟨subtyping_eq_yes_iff, ?_, ?_, .inr ?_⟩
    · rw [hnot]
      exact ⟨fun ha => by rwa [ha] at hanswers, fun ha => hanswers.unique (b := .unknown) ha⟩
    · rw [hnot]
      exact ⟨fun ha => by rwa [ha] at hanswers, fun ha => hanswers.unique (b := .no) ha⟩
    · have hsound : Search.Sound h sub sup { queue := [sub] } := Search.sound_start
      obtain ⟨a, hends, ha⟩ := hsound.exists_ends
      rwa [hanswers.unique ha]

end CauseLint.Hierarchy
