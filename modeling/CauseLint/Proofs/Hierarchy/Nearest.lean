import CauseLint.Proofs.Hierarchy.Distance
import Mathlib.Data.Nat.Find

/-!
# The nearest declaration

A method is looked up along the ancestors of a class. These come by their distance, so the entry
that is found belongs to a class that no other one with such an entry is nearer than.

The ancestors are listed by a loop that takes names off a queue and marks a name when it is taken
off, not when it is put on: a name may wait more than once, and is passed over when it comes again.

Results:

* `Hierarchy.Listing.ends_ancestors`: the loop ends, with the list of ancestors.
* `Hierarchy.exists_of_method?`: whose entry a lookup finds.
* `Hierarchy.ancestors_by_distance`: the list and the lookup together.
-/

namespace CauseLint.Hierarchy

variable {h : Hierarchy} {a b c : String}

/-! ## The loop -/

/-- A list of ancestors under way: the names that wait, those visited, and what is listed so far. -/
structure Listing where
  queue : List String
  seen : List String := []
  order : List String := []

namespace Listing

/-- One step: the next name is passed over if it was visited before, and else listed, with its
supertypes put behind those that wait. -/
def step (h : Hierarchy) (l : Listing) : Listing ⊕ List String :=
  match l.queue with
  | [] => .inr l.order
  | n :: queue =>
    if l.seen.contains n then .inl { l with queue }
    else .inl ⟨queue ++ h.supertypes n, n :: l.seen, l.order ++ [n]⟩

/-- After some steps the list is complete. -/
inductive Ends (h : Hierarchy) : Listing → List String → Prop
  | now {l : Listing} {order : List String} : l.step h = .inr order → Ends h l order
  | later {l m : Listing} {order : List String} :
      l.step h = .inl m → Ends h m order → Ends h l order

theorem ends_reach (queue seen order : List String) :
    Ends h ⟨queue, seen, order⟩ (order ++ h.reach queue seen) := by
  fun_induction reach h queue seen generalizing order with
  | case1 seen =>
    rw [List.append_nil]
    exact .now rfl
  | case2 n queue seen hn ih => exact .later (if_pos hn) (ih order)
  | case3 n queue seen hn ih =>
    rw [List.append_cons]
    exact .later (if_neg hn) (ih (order ++ [n]))

/-- The loop ends, with the list of ancestors. -/
theorem ends_ancestors (h : Hierarchy) (a : String) : Ends h { queue := [a] } (h.ancestors a) :=
  ends_reach [a] [] []

end Listing

/-! ## Distance -/

/-- The least number of supertypes on a path from a class to another. -/
def Distance (h : Hierarchy) (a : String) (n : Nat) (b : String) : Prop :=
  h.Steps a n b ∧ ∀ m, h.Steps a m b → n ≤ m

theorem Descends.exists_distance (hab : h.Descends a b) : ∃ n, h.Distance a n b := by
  classical
  have hsteps := hab.exists_steps
  exact ⟨Nat.find hsteps, Nat.find_spec hsteps, fun m hm => Nat.find_min' hsteps hm⟩

/-- Of two classes the one that is nowhere farther has the smaller distance. -/
theorem Distance.le {m n : Nat} (hb : h.Distance a m b) (hc : h.Distance a n c)
    (hbc : ∀ n, h.Steps a n c → ∃ m ≤ n, h.Steps a m b) : m ≤ n := by
  obtain ⟨k, hk, hsteps⟩ := hbc n hc.1
  exact Nat.le_trans (hb.2 k hsteps) hk

/-! ## Entries of a method -/

/-- A class declares a method with a return entry. -/
def Declares (h : Hierarchy) (b method entry : String) : Prop :=
  ∃ info, h.get? b = some info ∧ info.methods.get? method = some entry

theorem declares_iff {method entry : String} :
    (h.get? b).bind (·.methods.get? method) = some entry ↔ h.Declares b method entry :=
  Option.bind_eq_some_iff

/-- A lookup finds an entry of an ancestor that no other ancestor with an entry is listed before. -/
theorem exists_of_method? {method entry : String} (hentry : h.method? a method = some entry) :
    ∃ b, h.Descends a b ∧ h.Declares b method entry ∧
      ∀ c other, h.Descends a c → h.Declares c method other → c ≠ b → h.Precedes a b c := by
  obtain ⟨before, b, after, hsplit, hb, hbefore⟩ := List.findSome?_eq_some_iff.1 hentry
  have hmem : b ∈ h.ancestors a := hsplit ▸ List.mem_append_right before List.mem_cons_self
  refine ⟨b, mem_ancestors_iff.1 hmem, declares_iff.1 hb, fun c other hc hother hne => ?_⟩
  have hc : c ∈ before ++ b :: after := hsplit ▸ mem_ancestors_iff.2 hc
  rcases List.mem_append.1 hc with hc | hc
  · have hnone := hbefore c hc
    rw [declares_iff.2 hother] at hnone
    cases hnone
  · have hc := (List.mem_cons.1 hc).resolve_left hne
    unfold Precedes
    rw [hsplit]
    exact ((List.singleton_sublist.2 hc).cons_cons b).trans (List.sublist_append_right before _)

theorem method?_eq_none_iff {method : String} :
    h.method? a method = none ↔ ∀ b entry, h.Descends a b → ¬ h.Declares b method entry := by
  unfold method?
  rw [List.findSome?_eq_none_iff]
  constructor
  · intro hnone b entry hb hentry
    have hb := hnone b (mem_ancestors_iff.2 hb)
    rw [declares_iff.2 hentry] at hb
    cases hb
  · intro hnone b hb
    exact Option.eq_none_iff_forall_ne_some.2 fun entry hentry =>
      hnone b entry (mem_ancestors_iff.1 hb) (declares_iff.1 hentry)

/-- The loop that lists the ancestors of a class ends on every hierarchy. Its list begins with the
class, names no class twice, names exactly the classes that the class descends from, and names them
by their distance, a nearer one before a farther one. So a method that is looked up has the entry of
a class that declares it and that is at the least distance at which one does, the first of these in
the list, and it has no entry exactly when no class does that the class descends from. -/
theorem ancestors_by_distance (h : Hierarchy) (a : String) :
    Listing.Ends h { queue := [a] } (h.ancestors a) ∧
    (h.ancestors a).head? = some a ∧ (h.ancestors a).Nodup ∧
    (∀ b, b ∈ h.ancestors a ↔ h.Descends a b) ∧
    (∀ b ∈ h.ancestors a, ∃ n, h.Distance a n b) ∧
    ((h.ancestors a).Pairwise fun b c => ∀ m n, h.Distance a m b → h.Distance a n c → m ≤ n) ∧
    ∀ method,
      (∀ entry, h.method? a method = some entry →
        ∃ b n, h.Distance a n b ∧ h.Declares b method entry ∧
          ∀ c other, h.Descends a c → h.Declares c method other → c ≠ b →
            h.Precedes a b c ∧ ∀ m, h.Distance a m c → n ≤ m) ∧
      (h.method? a method = none ↔ ∀ b entry, h.Descends a b → ¬ h.Declares b method entry) := by
  have hhead : (h.ancestors a).head? = some a := by
    rw [ancestors_eq_cons, List.head?_cons]
  refine ⟨Listing.ends_ancestors h a, hhead, nodup_ancestors h a, fun b => mem_ancestors_iff,
    fun b hb => (mem_ancestors_iff.1 hb).exists_distance, ?_, fun method => ⟨?_, ?_⟩⟩
  · exact (pairwise_ancestors h a).imp fun hbc m n hm hn => hm.le hn hbc
  · intro entry hentry
    obtain ⟨b, hab, hb, hfirst⟩ := exists_of_method? hentry
    obtain ⟨n, hn⟩ := hab.exists_distance
    refine ⟨b, n, hn, hb, fun c other hac hother hne => ?_⟩
    have hbefore := hfirst c other hac hother hne
    exact ⟨hbefore, fun m hm => hn.le hm fun _ hsteps => hbefore.steps hsteps⟩
  · exact method?_eq_none_iff

end CauseLint.Hierarchy
