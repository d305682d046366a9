import CauseLint.Proofs.Syntax.Order
import CauseLint.Proofs.Text.Validity
import Mathlib.Data.List.Perm.Basic

/-!
# Places behind receivers

What a plan puts behind the receivers of some calls, listed as one meets it reading a tree from left
to right. In a tree whose nodes lie in each other and follow one another, the offsets ascend,
however the calls are nested.

Results:

* `Cursor.inserts_ascend`: the offsets ascend strictly, and lie strictly inside the node.
* `Cursor.inserts_perm`: they are the offsets of the planned calls, each call counted once.
-/

namespace CauseLint

namespace Cursor

/-! ## Regular trees -/

/-- What a node of a well-formed tree is like: its span begins and ends between characters, its
children lie inside one after another, and the receiver of a call is there before the name. -/
structure Regular (source : Bytes) (c : Cursor) : Prop where
  ordered : c.start ≤ c.stop
  boundary_start : Utf8.IsBoundary source c.start
  boundary_stop : Utf8.IsBoundary source c.stop
  inside : ∀ d ∈ c.children, c.start ≤ d.start ∧ d.stop ≤ c.stop
  siblings : c.children.Pairwise fun a b => a.stop ≤ b.start
  receiver : ∀ r, c.kind = "method_invocation" → c.object? = some r →
    r.start < r.stop ∧ ∀ n, c.childByField? "name" = some n → r.stop ≤ n.start

end Cursor

/-- A unit whose source is text and whose tree spans it the way a parser returns it. -/
structure SourceUnit.WellFormed (u : SourceUnit) : Prop where
  valid : Utf8.isValid u.source = true
  regular : ∀ c ∈ u.root.preorder, c.Regular u.source

theorem SourceUnit.WellFormed.below {u : SourceUnit} (hu : u.WellFormed) (d : Cursor)
    (h : Cursor.Below u.root d) : d.Regular u.source :=
  hu.regular d (Cursor.mem_preorder_iff.2 h)

namespace Cursor

variable {α : Type}

/-! ## Slots -/

/-- The children of a node, the first that fills the object field together with what is to be put
behind it. -/
def slots (x : Option α) : List Cursor → List (Cursor × Option α)
  | [] => []
  | d :: ds =>
    if d.focus.label.field == some "object" then (d, x) :: ds.map (·, none)
    else (d, none) :: slots x ds

theorem map_fst_slots (x : Option α) (ds : List Cursor) : (slots x ds).map (·.1) = ds := by
  induction ds with
  | nil => rfl
  | cons d ds ih =>
    unfold slots
    split
    · rw [List.map_cons, List.map_map]
      exact congrArg (d :: ·) (List.map_id ds)
    · rw [List.map_cons, ih]

theorem fst_mem_of_mem_slots {x : Option α} {ds : List Cursor} {s : Cursor × Option α}
    (h : s ∈ slots x ds) : s.1 ∈ ds := by
  rw [← map_fst_slots x ds]
  exact List.mem_map_of_mem h

theorem fst_mem_of_slots_eq {x : Option α} {ds : List Cursor} {s : Cursor × Option α}
    {before after : List (Cursor × Option α)} (h : slots x ds = before ++ s :: after) :
    s.1 ∈ ds := by
  refine fst_mem_of_mem_slots (x := x) ?_
  rw [h]
  exact List.mem_append_right _ List.mem_cons_self

/-- Only the object has something behind it. -/
theorem find?_of_mem_slots {x : Option α} {ds : List Cursor} {d : Cursor} {a : α}
    (h : (d, some a) ∈ slots x ds) :
    x = some a ∧ ds.find? (·.focus.label.field == some "object") = some d := by
  induction ds with
  | nil => cases h
  | cons e ds ih =>
    unfold slots at h
    split at h
    · rename_i he
      rcases List.mem_cons.1 h with h | h
      · obtain ⟨rfl, rfl⟩ := Prod.mk.inj h
        exact ⟨rfl, List.find?_cons_of_pos (by exact he)⟩
      · simp at h
    · rename_i he
      rcases List.mem_cons.1 h with h | h
      · simp at h
      · rw [List.find?_cons_of_neg (by exact he)]
        exact ih h

@[simp] theorem slots_none (ds : List Cursor) :
    slots (none : Option α) ds = ds.map (·, none) := by
  induction ds with
  | nil => rfl
  | cons d ds ih =>
    unfold slots
    split
    · rfl
    · rw [ih, List.map_cons]

/-- The slots of a node whose object is known. -/
theorem slots_of_find? {a : α} {ds : List Cursor} {d : Cursor}
    (h : ds.find? (·.focus.label.field == some "object") = some d) :
    ∃ before after : List Cursor,
      slots (some a) ds = before.map (·, none) ++ (d, some a) :: after.map (·, none) ∧
      ∀ e ∈ before, (e.focus.label.field == some "object") = false := by
  induction ds with
  | nil => cases h
  | cons e ds ih =>
    unfold slots
    split
    · rename_i he
      rw [List.find?_cons_of_pos (by exact he), Option.some.injEq] at h
      exact ⟨[], ds, by rw [h]; rfl, by simp⟩
    · rename_i he
      rw [List.find?_cons_of_neg (by exact he)] at h
      obtain ⟨before, after, hs, hbefore⟩ := ih h
      refine ⟨e :: before, after, by rw [hs]; rfl, ?_⟩
      intro f hf
      rcases List.mem_cons.1 hf with rfl | hf
      · exact eq_false_of_ne_true he
      · exact hbefore f hf

/-- What a plan puts behind receivers, in source order: what goes into a child, then what goes
behind it. -/
def inserts (plan : Cursor → Option α) (c : Cursor) : List (Nat × α) :=
  (slots (plan c) c.children).attach.flatMap fun ⟨s, _⟩ =>
    inserts plan s.1 ++ (s.2.map (s.1.stop, ·)).toList
termination_by c.focus.size
decreasing_by exact size_lt_of_mem_children (fst_mem_of_mem_slots ‹_›)

/-- What goes into one child and behind it. -/
def slotInserts (plan : Cursor → Option α) (s : Cursor × Option α) : List (Nat × α) :=
  inserts plan s.1 ++ (s.2.map (s.1.stop, ·)).toList

theorem inserts_eq (plan : Cursor → Option α) (c : Cursor) :
    inserts plan c = (slots (plan c) c.children).flatMap (slotInserts plan) := by
  rw [inserts, List.flatMap_subtype (g := slotInserts plan) fun s _ => rfl, List.unattach_attach]

theorem Regular.nested {source : Bytes} {c : Cursor} (h : c.Regular source) : c.Nested :=
  ⟨h.ordered, h.inside, h.siblings⟩

/-- In a regular tree, a node lies inside every node above it. -/
theorem span_of_below {source : Bytes} {c d : Cursor} (h : ∀ e, Below c e → e.Regular source)
    (hd : Below c d) : c.start ≤ d.start ∧ d.stop ≤ c.stop :=
  inside_of_below (fun e he => (h e he).nested) hd

/-! ## Ascending offsets -/

/-- Offsets ascend strictly between two bounds. -/
def Ascends (lo hi : Nat) (points : List (Nat × α)) : Prop :=
  points.Pairwise (fun a b => a.1 < b.1) ∧ ∀ p ∈ points, lo < p.1 ∧ p.1 < hi

/-- Slots that follow one another have ascending offsets when each has. -/
theorem ascends_flatMap {plan : Cursor → Option α} {lo hi : Nat} {ss : List (Cursor × Option α)}
    (hseq : ss.Pairwise fun a b => a.1.stop ≤ b.1.start)
    (hin : ∀ s ∈ ss, lo ≤ s.1.start ∧ s.1.start ≤ s.1.stop ∧ s.1.stop ≤ hi)
    (hsome : ∀ s ∈ ss, s.2.isSome → s.1.start < s.1.stop ∧ s.1.stop < hi)
    (hbelow : ∀ s ∈ ss, Ascends s.1.start s.1.stop (inserts plan s.1)) :
    Ascends lo hi (ss.flatMap (slotInserts plan)) := by
  induction ss generalizing lo with
  | nil => exact ⟨List.Pairwise.nil, by simp⟩
  | cons s ss ih =>
    obtain ⟨hs, hss⟩ := List.pairwise_cons.1 hseq
    obtain ⟨hlo, hle, hhi⟩ := hin s List.mem_cons_self
    obtain ⟨hpair, hmem⟩ := hbelow s List.mem_cons_self
    -- what comes later lies behind this child
    obtain ⟨hpair', hmem'⟩ : Ascends s.1.stop hi (ss.flatMap (slotInserts plan)) := ih hss
      (fun t ht => ⟨hs t ht, (hin t (List.mem_cons_of_mem _ ht)).2⟩)
      (fun t ht => hsome t (List.mem_cons_of_mem _ ht))
      (fun t ht => hbelow t (List.mem_cons_of_mem _ ht))
    have hpoint : ∀ p ∈ (s.2.map (s.1.stop, ·)).toList,
        p.1 = s.1.stop ∧ s.1.start < s.1.stop ∧ s.1.stop < hi := by
      intro p hp
      rw [Option.mem_toList, Option.map_eq_some_iff] at hp
      obtain ⟨a, ha, rfl⟩ := hp
      exact ⟨rfl, hsome s List.mem_cons_self (by rw [ha]; rfl)⟩
    rw [List.flatMap_cons]
    unfold slotInserts at hpair' hmem' ⊢
    refine ⟨?_, ?_⟩
    · rw [List.pairwise_append, List.pairwise_append]
      refine ⟨⟨hpair, ?_, ?_⟩, hpair', ?_⟩
      · cases s.2 <;> simp
      · intro a ha b hb
        have := hmem a ha
        have := hpoint b hb
        omega
      · intro a ha b hb
        have hb := hmem' b hb
        rcases List.mem_append.1 ha with ha | ha
        · have := hmem a ha
          omega
        · have := hpoint a ha
          omega
    · intro p hp
      rcases List.mem_append.1 hp with hp | hp
      · rcases List.mem_append.1 hp with hp | hp
        · have := hmem p hp
          omega
        · have := hpoint p hp
          omega
      · have := hmem' p hp
        omega

/-- Planned are only calls with a name. -/
def Names (plan : Cursor → Option α) (c : Cursor) : Prop :=
  (plan c).isSome → c.kind = "method_invocation" ∧
    ∃ n, c.childByField? "name" = some n ∧ n.start < n.stop

/-- The offsets behind receivers ascend strictly, and lie strictly inside the node. -/
theorem inserts_ascend {source : Bytes} {plan : Cursor → Option α} (hplan : ∀ c, Names plan c)
    {c : Cursor} (h : ∀ d, Below c d → d.Regular source) :
    Ascends c.start c.stop (inserts plan c) := by
  induction c using induction_children with
  | step c ih =>
    have hc := h c (Below.refl c)
    have hchild : ∀ s ∈ slots (plan c) c.children, s.1 ∈ c.children :=
      fun s hs => fst_mem_of_mem_slots hs
    rw [inserts_eq]
    refine ascends_flatMap ?_ ?_ ?_ ?_
    · have hseq := hc.siblings
      rw [← map_fst_slots (plan c) c.children, List.pairwise_map] at hseq
      exact hseq
    · intro s hs
      have hin := hc.inside s.1 (hchild s hs)
      have hs := h s.1 ((Below.refl c).child (hchild s hs))
      exact ⟨hin.1, hs.ordered, hin.2⟩
    · -- the name stands between the receiver and the end of the call
      rintro ⟨d, x⟩ hs hx
      obtain ⟨a, rfl⟩ := Option.isSome_iff_exists.1 hx
      obtain ⟨hp, hobj⟩ := find?_of_mem_slots hs
      obtain ⟨hk, n, hn, hlt⟩ := hplan c (by rw [hp]; rfl)
      obtain ⟨hne, hname⟩ := hc.receiver d hk hobj
      have hstop := hname n hn
      have hin := hc.inside n (mem_children_of_childByField? hn)
      exact ⟨hne, by simp only; omega⟩
    · intro s hs
      exact ih s.1 (hchild s hs) fun e he =>
        h e (((Below.refl c).child (hchild s hs)).trans he)

/-! ## Each call once -/

/-- The offset behind the receiver of a planned call. -/
def point? (plan : Cursor → Option α) (c : Cursor) : Option (Nat × α) :=
  (plan c).bind fun a => c.object?.map (·.stop, a)

theorem flatMap_slots_perm {plan : Cursor → Option α} (x : Option α) (ds : List Cursor) :
    ((slots x ds).flatMap (slotInserts plan)).Perm
      ((x.bind fun a => (ds.find? (·.focus.label.field == some "object")).map (·.stop, a)).toList ++
        ds.flatMap (inserts plan)) := by
  induction ds with
  | nil => cases x <;> rfl
  | cons d ds ih =>
    unfold slots
    split
    · rename_i hd
      have hrest : (ds.map ((·, none) : Cursor → Cursor × Option α)).flatMap (slotInserts plan) =
          ds.flatMap (inserts plan) := by
        rw [List.flatMap_map]
        refine congrArg (ds.flatMap ·) (funext fun e => ?_)
        exact List.append_nil _
      rw [List.flatMap_cons, hrest, List.find?_cons_of_pos (by exact hd), List.flatMap_cons,
        slotInserts, List.append_assoc, ← List.append_assoc, ← List.append_assoc]
      refine List.Perm.append_right _ ?_
      cases x with
      | none => simp
      | some a => exact List.perm_append_comm
    · rename_i hd
      rw [List.flatMap_cons, List.find?_cons_of_neg (by exact hd), List.flatMap_cons]
      have hself : slotInserts plan (d, none) = inserts plan d := List.append_nil _
      rw [hself]
      refine (ih.append_left _).trans ?_
      rw [← List.append_assoc, ← List.append_assoc]
      exact List.perm_append_comm.append_right _

/-- Planned calls are met once each. -/
theorem inserts_perm (plan : Cursor → Option α) (c : Cursor) :
    (inserts plan c).Perm (c.preorder.filterMap (point? plan)) := by
  induction c using induction_children with
  | step c ih =>
    rw [inserts_eq, preorder_eq]
    refine (flatMap_slots_perm (plan c) c.children).trans ?_
    have hbelow : (c.children.flatMap (inserts plan)).Perm
        ((c.children.flatMap preorder).filterMap (point? plan)) := by
      rw [List.filterMap_flatMap]
      exact List.Perm.flatMap_left _ ih
    have hcons : (c :: c.children.flatMap preorder).filterMap (point? plan) =
        (point? plan c).toList ++ (c.children.flatMap preorder).filterMap (point? plan) := by
      rw [List.filterMap_cons]
      cases point? plan c <;> rfl
    rw [hcons]
    exact hbelow.append_left _

/-- What is inserted below a node, and where. -/
theorem mem_inserts_iff {plan : Cursor → Option α} {c : Cursor} {p : Nat × α} :
    p ∈ inserts plan c ↔
      ∃ d, Below c d ∧ plan d = some p.2 ∧ ∃ r, d.object? = some r ∧ p.1 = r.stop := by
  rw [(inserts_perm plan c).mem_iff, List.mem_filterMap]
  simp only [mem_preorder_iff]
  refine exists_congr fun d => and_congr_right fun _ => ?_
  unfold point?
  constructor
  · intro h
    obtain ⟨a, ha, h⟩ := Option.bind_eq_some_iff.1 h
    obtain ⟨r, hr, rfl⟩ := Option.map_eq_some_iff.1 h
    exact ⟨ha, r, hr, rfl⟩
  · rintro ⟨ha, r, hr, hstop⟩
    rw [ha, Option.bind_some, hr, Option.map_some, ← hstop]

end Cursor

end CauseLint
