import CauseLint.Proofs.Types.Asking
import CauseLint.Proofs.Types.Circular
import Mathlib.Data.List.Nodup
import Mathlib.Data.List.Perm.Subperm
import Mathlib.Data.Nat.Find

/-!
# Types that are found without remembering

The typing of an expression asks for the types of other nodes. Without a memory this ends for some
expressions, which have a type (`Index.HasType`), and goes on for ever for others: those on a circle
of variables that are initialised from each other, and those that need the type of one. How deep the
first kind goes is bounded by the size of the unit, because each level that types a node types
another one for the first time.

Results:

* `Index.HasType.unique`: an expression has one type at most.
* `Index.exists_within_count`: the depth that a type needs is at most the number of nodes that have
  a type within it.
* `Index.typedCount_add_le`: together with nodes that have no type these are at most all nodes.
-/

namespace CauseLint.Index

/-! ## Typing without memory -/

/-- The type of an expression, with at most `depth` types under computation and nothing
remembered. -/
def plainWithin (x : Index) : Nat → Cursor → Typing StaticType
  | 0, _ => throw .endless
  | depth + 1, c => compute x (plainWithin x depth) c

/-- What a typing comes to that starts with a memory. -/
def outcome {α : Type} (a : Typing α) (memo : Memo) : Except Endless α := (a.run.run memo).1

/-- What a typing leaves in the memory. -/
def memoAfter {α : Type} (a : Typing α) (memo : Memo) : Memo := (a.run.run memo).2

/-- The type of an expression when nothing is remembered. -/
def HasType (x : Index) (c : Cursor) (t : StaticType) : Prop :=
  ∃ depth, outcome (x.plainWithin depth c) {} = .ok t

/-- All expressions below a node have types. -/
def Typed (x : Index) (c : Cursor) : Prop := ∀ d, Cursor.Below c d → ∃ t, x.HasType d t

section

variable {α β : Type}

@[simp] theorem outcome_read (e : Except Endless α) (memo : Memo) :
    outcome (ExceptT.mk (pure e) : Typing α) memo = e := rfl

@[simp] theorem memoAfter_read (e : Except Endless α) (memo : Memo) :
    memoAfter (ExceptT.mk (pure e) : Typing α) memo = memo := rfl

theorem outcome_bind (a : Typing α) (f : α → Typing β) (memo : Memo) :
    outcome (a >>= f) memo =
      match outcome a memo with
      | .ok v => outcome (f v) (memoAfter a memo)
      | .error e => .error e := by
  show ((ExceptT.bindCont f (outcome a memo)).run (memoAfter a memo)).1 = _
  cases outcome a memo <;> rfl

theorem memoAfter_bind (a : Typing α) (f : α → Typing β) (memo : Memo) :
    memoAfter (a >>= f) memo =
      match outcome a memo with
      | .ok v => memoAfter (f v) (memoAfter a memo)
      | .error _ => memoAfter a memo := by
  show ((ExceptT.bindCont f (outcome a memo)).run (memoAfter a memo)).2 = _
  cases outcome a memo <;> rfl

/-- A typing that succeeds part by part. -/
theorem outcome_bind_eq_ok {a : Typing α} {f : α → Typing β} {memo : Memo} {w : β}
    (h : outcome (a >>= f) memo = .ok w) :
    ∃ v, outcome a memo = .ok v ∧ outcome (f v) (memoAfter a memo) = .ok w := by
  rw [outcome_bind] at h
  cases ha : outcome a memo with
  | error e =>
    rw [ha] at h
    cases h
  | ok v =>
    rw [ha] at h
    exact ⟨v, rfl, h⟩

/-- A typing that neither looks at the memory nor changes it. -/
def Steady (a : Typing α) : Prop :=
  ∀ memo, outcome a memo = outcome a {} ∧ memoAfter a memo = memo

/-- A typing keeps a property of the memory, also when it fails. -/
def Keeps (p : Memo → Prop) (a : Typing α) : Prop := ∀ memo, p memo → p (memoAfter a memo)

/-- The first typing finds, under a property of the memory that it keeps, what the second one finds
with an empty memory. -/
def Follows (p : Memo → Prop) (a b : Typing α) : Prop :=
  ∀ v, outcome b {} = .ok v → ∀ memo, p memo → outcome a memo = .ok v ∧ p (memoAfter a memo)

theorem Steady.bind {a : Typing α} {f : α → Typing β} (ha : Steady a) (hf : ∀ v, Steady (f v)) :
    Steady (a >>= f) := by
  intro memo
  obtain ⟨houtcome, hmemo⟩ := ha memo
  rw [outcome_bind, outcome_bind, memoAfter_bind, houtcome, hmemo, (ha {}).2]
  cases outcome a {} with
  | error e => exact ⟨rfl, rfl⟩
  | ok v => exact hf v memo

end

theorem respected_steady (x : Index) : Respected x x fun a _ => Steady a :=
  .of_read (fun _ _ => ⟨rfl, rfl⟩) Steady.bind

theorem respected_keeps (x : Index) (p : Memo → Prop) : Respected x x fun a _ => Keeps p a := by
  refine .of_read (fun _ _ h => h) ?_
  intro α β a _ f _ ha hf memo hp
  rw [memoAfter_bind]
  cases outcome a memo with
  | error e => exact ha memo hp
  | ok v => exact hf v _ (ha memo hp)

theorem respected_follows (x : Index) (p : Memo → Prop) :
    Respected x x fun a b => Steady b ∧ Follows p a b := by
  refine .of_read (fun e => ⟨fun _ => ⟨rfl, rfl⟩, fun v hv memo hp => ⟨hv, hp⟩⟩) ?_
  intro α β a b f g hab hfg
  refine ⟨hab.1.bind fun v => (hfg v).1, ?_⟩
  intro w hw memo hp
  obtain ⟨v, hv, hw⟩ := outcome_bind_eq_ok hw
  rw [(hab.1 {}).2] at hw
  obtain ⟨ha, hp⟩ := hab.2 v hv memo hp
  rw [outcome_bind, memoAfter_bind, ha]
  exact (hfg v).2 w hw _ hp

/-! ## How deep a typing without memory goes -/

section

variable {x : Index} (hx : x.Rooted) {c : Cursor} (hc : Cursor.Below x.unit.root c)

include hx

theorem steady_plainWithin (depth : Nat) :
    ∀ c, Cursor.Below x.unit.root c → Steady (x.plainWithin depth c) := by
  induction depth with
  | zero => exact fun c _ memo => ⟨rfl, rfl⟩
  | succ depth ih =>
    exact fun c hc => (respected_steady x).compute (g := x.plainWithin depth) ih hx hc

/-- Expressions have the types that others give them. -/
theorem outcome_compute {f : Cursor → Typing StaticType} {depth : Nat}
    (h : ∀ d, Cursor.Below x.unit.root d → Follows (fun _ => True) (f d) (x.plainWithin depth d))
    {c : Cursor} (hc : Cursor.Below x.unit.root c) {t : StaticType}
    (ht : outcome (x.plainWithin (depth + 1) c) {} = .ok t) : outcome (compute x f c) {} = .ok t :=
  ((respected_follows x _).compute
    (fun d hd => ⟨steady_plainWithin hx depth d hd, h d hd⟩) hx hc).2 t ht {} trivial |>.1

theorem outcome_plainWithin_succ {depth : Nat} {t : StaticType} :
    ∀ c, Cursor.Below x.unit.root c → outcome (x.plainWithin depth c) {} = .ok t →
      outcome (x.plainWithin (depth + 1) c) {} = .ok t := by
  induction depth generalizing t with
  | zero =>
    intro c _ h
    cases h
  | succ depth ih =>
    intro c hc h
    refine outcome_compute hx ?_ hc h
    intro d hd v hv memo _
    refine ⟨?_, trivial⟩
    rw [(steady_plainWithin hx (depth + 1) d hd memo).1]
    exact ih d hd hv

include hc

theorem outcome_plainWithin_mono {m n : Nat} (hmn : m ≤ n) {t : StaticType}
    (h : outcome (x.plainWithin m c) {} = .ok t) : outcome (x.plainWithin n c) {} = .ok t := by
  induction hmn with
  | refl => exact h
  | step _ ih => exact outcome_plainWithin_succ hx c hc ih

/-- An expression has one type at most. -/
theorem HasType.unique {s t : StaticType} (hs : x.HasType c s) (ht : x.HasType c t) : s = t := by
  obtain ⟨m, hm⟩ := hs
  obtain ⟨n, hn⟩ := ht
  have hm := outcome_plainWithin_mono hx hc (Nat.le_max_left m n) hm
  have hn := outcome_plainWithin_mono hx hc (Nat.le_max_right m n) hn
  exact Except.ok.inj (hm.symm.trans hn)

end

/-- Whether an expression is typed within a depth. -/
def typedWithin (x : Index) (depth : Nat) (c : Cursor) : Bool :=
  (outcome (x.plainWithin depth c) {}).isOk

theorem typedWithin_iff {x : Index} {depth : Nat} {c : Cursor} :
    x.typedWithin depth c = true ↔ ∃ t, outcome (x.plainWithin depth c) {} = .ok t :=
  isOk_iff_exists

/-- How many nodes of the unit are typed within a depth. -/
def typedCount (x : Index) (depth : Nat) : Nat :=
  total (fun _ => 1) (x.unit.root.preorder.filter (x.typedWithin depth))

section

variable {x : Index} (hx : x.Rooted)

include hx

theorem typedWithin_mono {m n : Nat} (hmn : m ≤ n) {c : Cursor}
    (hc : Cursor.Below x.unit.root c) (h : x.typedWithin m c = true) :
    x.typedWithin n c = true := by
  obtain ⟨t, ht⟩ := typedWithin_iff.1 h
  exact typedWithin_iff.2 ⟨t, outcome_plainWithin_mono hx hc hmn ht⟩

/-- Where one more level types no more nodes, no level does. -/
theorem typedWithin_of_stable {k : Nat}
    (hk : ∀ c, Cursor.Below x.unit.root c → x.typedWithin (k + 1) c = true →
      x.typedWithin k c = true) {n : Nat} :
    ∀ c, Cursor.Below x.unit.root c → x.typedWithin n c = true → x.typedWithin k c = true := by
  induction n with
  | zero =>
    intro c _ h
    cases h
  | succ n ih =>
    intro c hc h
    obtain ⟨t, ht⟩ := typedWithin_iff.1 h
    refine hk c hc (typedWithin_iff.2 ⟨t, outcome_compute hx ?_ hc ht⟩)
    intro d hd v hv memo _
    obtain ⟨w, hw⟩ := typedWithin_iff.1 (ih d hd (typedWithin_iff.2 ⟨v, hv⟩))
    rw [HasType.unique hx hd ⟨n, hv⟩ ⟨k, hw⟩]
    exact ⟨(steady_plainWithin hx k d hd memo).1.trans hw, trivial⟩

/-- A node that needs a depth needs as many nodes with types. -/
theorem le_typedCount {n : Nat} :
    ∀ c, Cursor.Below x.unit.root c → x.typedWithin (n + 1) c = true →
      x.typedWithin n c = false → n + 1 ≤ x.typedCount (n + 1) := by
  have hstep : ∀ {n c}, Cursor.Below x.unit.root c → x.typedWithin (n + 1) c = true →
      x.typedWithin n c = false → x.typedCount n + 1 ≤ x.typedCount (n + 1) := by
    intro n c hc h h'
    refine total_filter_add_le (fun _ => 1) _ _ _ c ?_ h' h (Cursor.mem_preorder_iff.2 hc)
    exact fun d hd => typedWithin_mono hx (Nat.le_succ n) (Cursor.mem_preorder_iff.1 hd)
  induction n with
  | zero =>
    intro c hc h h'
    have := hstep hc h h'
    omega
  | succ n ih =>
    intro c hc h h'
    by_cases hstable : ∀ d, Cursor.Below x.unit.root d → x.typedWithin (n + 1) d = true →
        x.typedWithin n d = true
    · have := typedWithin_mono hx (Nat.le_succ n) hc (typedWithin_of_stable hx hstable c hc h)
      rw [h'] at this
      cases this
    · obtain ⟨d, hd, hd', hd''⟩ : ∃ d, Cursor.Below x.unit.root d ∧
          x.typedWithin (n + 1) d = true ∧ x.typedWithin n d = false := by
        simpa using hstable
      have := ih d hd hd' hd''
      have := hstep hc h h'
      omega

/-- A type that is found at all is found within some depth that as many nodes with types have. -/
theorem exists_within_count {c : Cursor} (hc : Cursor.Below x.unit.root c) {t : StaticType}
    (ht : x.HasType c t) : ∃ n, x.typedWithin n c = true ∧ n ≤ x.typedCount n := by
  classical
  have hex : ∃ n, x.typedWithin n c = true := by
    obtain ⟨n, hn⟩ := ht
    exact ⟨n, typedWithin_iff.2 ⟨t, hn⟩⟩
  refine ⟨Nat.find hex, Nat.find_spec hex, ?_⟩
  cases hfind : Nat.find hex with
  | zero => exact Nat.zero_le _
  | succ n =>
    refine le_typedCount hx c hc (hfind ▸ Nat.find_spec hex) ?_
    exact Bool.eq_false_iff.2 (Nat.find_min hex (by omega))

end

/-- The nodes that never get a type and the typed ones are all different. -/
theorem typedCount_add_le {x : Index} (n : Nat) {untyped : List Cursor} (hnodup : untyped.Nodup)
    (hbelow : ∀ c ∈ untyped, Cursor.Below x.unit.root c)
    (huntyped : ∀ c ∈ untyped, ∀ t, ¬ x.HasType c t) :
    x.typedCount n + untyped.length ≤ x.unit.tree.size := by
  have hsub : untyped.Subperm (x.unit.root.preorder.filter (!x.typedWithin n ·)) := by
    refine hnodup.subperm fun c hc => ?_
    refine List.mem_filter.2 ⟨Cursor.mem_preorder_iff.2 (hbelow c hc), ?_⟩
    rw [Bool.not_eq_true', Bool.eq_false_iff]
    intro htyped
    obtain ⟨t, ht⟩ := typedWithin_iff.1 htyped
    exact huntyped c hc t ⟨n, ht⟩
  have hsplit := List.length_eq_length_filter_add (l := x.unit.root.preorder) (x.typedWithin n)
  have hsize : x.unit.root.preorder.length = x.unit.tree.size := Cursor.length_preorder _
  have := hsub.length_le
  rw [typedCount, total_one]
  omega

end CauseLint.Index
