import CauseLint.Proofs.Types.Plain

/-!
# Types and what was asked before

An oracle remembers the types it found, and it remembers a node as untypeable while its type is
under computation. This never shows for an expression that has a type without remembering anything:
the typings it asks for end before it is met again. Around a circle, and behind a typing that
failed, what was remembered on the way stays.

Results:

* `Index.follows_plain`: typing with a sound memory finds what typing without one finds.
* `Index.sound_typeOf`: typing any node of a unit keeps the memory sound.
* `Index.outcome_of_hasType`: an expression that has a type gets it.
* `Index.remembered_after_failure`: an expression whose typing failed counts as untypeable.
-/

namespace CauseLint.Index

/-! ## Sound memories -/

/-- Keys tell the nodes of a unit apart. -/
def KeysApart (x : Index) : Prop := (x.unit.root.preorder.map Cursor.key).Nodup

theorem KeysApart.eq_of_key {x : Index} (h : x.KeysApart) {c d : Cursor}
    (hc : Cursor.Below x.unit.root c) (hd : Cursor.Below x.unit.root d) (hkey : c.key = d.key) :
    c = d :=
  List.inj_on_of_nodup_map h (Cursor.mem_preorder_iff.2 hc) (Cursor.mem_preorder_iff.2 hd) hkey

/-- What a memory holds of a node that has a type is its type, except for nodes whose types are
under computation. -/
def Sound (x : Index) (computing : List NodeKey) (memo : Memo) : Prop :=
  ∀ c, Cursor.Below x.unit.root c → c.key ∉ computing → ∀ t, x.HasType c t →
    memo.get? c.key = none ∨ memo.get? c.key = some t

theorem sound_empty (x : Index) (computing : List NodeKey) : x.Sound computing {} :=
  fun _ _ _ _ _ => .inl rfl

section

variable {x : Index} {computing : List NodeKey} {memo : Memo}

/-- A placeholder is forgiven for as long as its type is under computation. -/
theorem Sound.placeholder (h : x.Sound computing memo) (k : NodeKey) (t : StaticType) :
    x.Sound (k :: computing) (memo.insert k t) := by
  intro c hc hkey s hs
  rw [List.mem_cons, not_or] at hkey
  rw [Table.get?_insert, if_neg (by simpa using hkey.1)]
  exact h c hc hkey.2 s hs

/-- The type of a node takes the place of its placeholder. -/
theorem Sound.insert (hx : x.Rooted) (hkeys : x.KeysApart) {c : Cursor}
    (hc : Cursor.Below x.unit.root c) {t : StaticType} (ht : x.HasType c t)
    (h : x.Sound (c.key :: computing) memo) : x.Sound computing (memo.insert c.key t) := by
  intro d hd hkey s hs
  rw [Table.get?_insert]
  split
  · rename_i heq
    obtain rfl := hkeys.eq_of_key hd hc (by simpa using heq)
    exact .inr (congrArg some (HasType.unique hx hd ht hs))
  · rename_i hne
    refine h d hd ?_ s hs
    rw [List.mem_cons, not_or]
    exact ⟨by simpa using hne, hkey⟩

/-- What is remembered of a node without a type does no harm. -/
theorem Sound.insert_untyped (hkeys : x.KeysApart) {c : Cursor}
    (hc : Cursor.Below x.unit.root c) (huntyped : ∀ t, ¬ x.HasType c t)
    (h : x.Sound computing memo) (t : StaticType) : x.Sound computing (memo.insert c.key t) := by
  intro d hd hkey s hs
  rw [Table.get?_insert, if_neg]
  · exact h d hd hkey s hs
  · intro heq
    obtain rfl := hkeys.eq_of_key hd hc (by simpa using heq)
    exact huntyped s hs

end

/-! ## Typing with a memory -/

section

variable {α : Type} {memo : Memo}

theorem outcome_get (f : Memo → Typing α) : outcome (get >>= f) memo = outcome (f memo) memo := rfl

theorem memoAfter_get (f : Memo → Typing α) :
    memoAfter (get >>= f) memo = memoAfter (f memo) memo := rfl

theorem outcome_modify (φ : Memo → Memo) (a : Typing α) :
    outcome (modify φ >>= fun _ => a) memo = outcome a (φ memo) := rfl

theorem memoAfter_modify (φ : Memo → Memo) (a : Typing α) :
    memoAfter (modify φ >>= fun _ => a) memo = memoAfter a (φ memo) := rfl

end

section

variable {stage : Nat → Index} {depth : Nat} {c : Cursor} {memo : Memo}

/-- A node that is remembered has the type that is remembered. -/
theorem typeOfBy_hit {t : StaticType} (h : memo.get? c.key = some t) :
    outcome (typeOfBy stage depth c) memo = .ok t ∧
      memoAfter (typeOfBy stage depth c) memo = memo := by
  cases depth <;>
    · rw [typeOfBy, outcome_get, memoAfter_get, h]
      exact ⟨rfl, rfl⟩

theorem outcome_typeOfBy_zero (h : memo.get? c.key = none) :
    outcome (typeOfBy stage 0 c) memo = .error .endless := by
  rw [typeOfBy, outcome_get, h]
  rfl

theorem memoAfter_typeOfBy_zero : memoAfter (typeOfBy stage 0 c) memo = memo := by
  rw [typeOfBy, memoAfter_get]
  cases memo.get? c.key <;> rfl

/-- The type of another node is computed under its placeholder. -/
theorem outcome_typeOfBy_succ (h : memo.get? c.key = none) :
    outcome (typeOfBy stage (depth + 1) c) memo =
      outcome (compute (stage depth) (typeOfBy stage depth) c)
        (memo.insert c.key .errorType) := by
  rw [typeOfBy, outcome_get, h]
  dsimp only
  rw [outcome_modify, outcome_bind]
  cases outcome (compute (stage depth) (typeOfBy stage depth) c) (memo.insert c.key .errorType) <;>
    rfl

/-- The type that is found replaces the placeholder, which stays when none is found. -/
theorem memoAfter_typeOfBy_succ (h : memo.get? c.key = none) :
    memoAfter (typeOfBy stage (depth + 1) c) memo =
      let computed := compute (stage depth) (typeOfBy stage depth) c
      match outcome computed (memo.insert c.key .errorType) with
      | .ok t => (memoAfter computed (memo.insert c.key .errorType)).insert c.key t
      | .error _ => memoAfter computed (memo.insert c.key .errorType) := by
  rw [typeOfBy, memoAfter_get, h]
  dsimp only
  rw [memoAfter_modify, memoAfter_bind]
  cases outcome (compute (stage depth) (typeOfBy stage depth) c) (memo.insert c.key .errorType) <;>
    rfl

end

section

variable {x : Index} {depth : Nat} {c : Cursor} {memo : Memo}

theorem typeOfWithin_hit {t : StaticType} (h : memo.get? c.key = some t) :
    outcome (x.typeOfWithin depth c) memo = .ok t ∧
      memoAfter (x.typeOfWithin depth c) memo = memo := typeOfBy_hit h

theorem memoAfter_typeOfWithin_zero : memoAfter (x.typeOfWithin 0 c) memo = memo :=
  memoAfter_typeOfBy_zero

theorem outcome_typeOfWithin_succ (h : memo.get? c.key = none) :
    outcome (x.typeOfWithin (depth + 1) c) memo =
      outcome (compute x (x.typeOfWithin depth) c) (memo.insert c.key .errorType) :=
  outcome_typeOfBy_succ h

theorem memoAfter_typeOfWithin_succ (h : memo.get? c.key = none) :
    memoAfter (x.typeOfWithin (depth + 1) c) memo =
      let computed := compute x (x.typeOfWithin depth) c
      match outcome computed (memo.insert c.key .errorType) with
      | .ok t => (memoAfter computed (memo.insert c.key .errorType)).insert c.key t
      | .error _ => memoAfter computed (memo.insert c.key .errorType) := memoAfter_typeOfBy_succ h

/-- A property of the memory is kept when the computation under the placeholder keeps it, and when it
does not mind what takes the place of the placeholder. -/
theorem memoAfter_typeOfWithin_of {p : Memo → Prop} (hp : p memo)
    (hsucc : ∀ d, depth = d + 1 → memo.get? c.key = none →
      p (memoAfter (compute x (x.typeOfWithin d) c) (memo.insert c.key .errorType)))
    (hinsert : memo.get? c.key = none → ∀ memo t, p memo → p (memo.insert c.key t)) :
    p (memoAfter (x.typeOfWithin depth c) memo) := by
  cases hget : memo.get? c.key with
  | some t => rwa [(typeOfWithin_hit hget).2]
  | none =>
    cases depth with
    | zero => rwa [memoAfter_typeOfWithin_zero]
    | succ d =>
      rw [memoAfter_typeOfWithin_succ hget]
      dsimp only
      cases outcome (compute x (x.typeOfWithin d) c) (memo.insert c.key .errorType) with
      | error e => exact hsucc d rfl hget
      | ok t => exact hinsert hget _ t (hsucc d rfl hget)

end

section

variable {x : Index} (hx : x.Rooted)

include hx

/-- What is remembered of a node stays. -/
theorem keeps_entry (k : NodeKey) (t : StaticType) (depth : Nat) :
    ∀ c, Cursor.Below x.unit.root c →
      Keeps (fun memo => memo.get? k = some t) (x.typeOfWithin depth c) := by
  induction depth with
  | zero =>
    intro c _ memo h
    rwa [memoAfter_typeOfWithin_zero]
  | succ depth ih =>
    intro c hc memo h
    have hne : memo.get? c.key = none → (k == c.key) = false := by
      intro hmiss
      rw [beq_eq_false_iff_ne]
      rintro rfl
      rw [hmiss] at h
      cases h
    refine memoAfter_typeOfWithin_of (p := fun memo => memo.get? k = some t) h ?_ ?_
    · rintro _ ⟨⟩ hmiss
      refine (respected_keeps x _).compute (g := x.typeOfWithin depth) ih hx hc _ ?_
      show (memo.insert c.key .errorType).get? k = some t
      rw [Table.get?_insert, hne hmiss]
      exact h
    · intro hmiss memo s h
      rw [Table.get?_insert, hne hmiss]
      exact h

variable (hkeys : x.KeysApart)

include hkeys

/-- With a sound memory a node gets the type it gets without one. The induction is on the depth that
the node needs: a node that needs the whole depth asks for nodes that need less, so none of these is
one whose type is under computation. -/
theorem follows_plain {n : Nat} : ∀ {depth : Nat}, n ≤ depth → ∀ {computing : List NodeKey},
    (∀ c, Cursor.Below x.unit.root c → x.typedWithin n c = true → c.key ∉ computing) →
      ∀ c, Cursor.Below x.unit.root c →
        Follows (x.Sound computing) (x.typeOfWithin depth c) (x.plainWithin n c) := by
  induction n with
  | zero =>
    intro depth _ computing _ c _ t h
    cases h
  | succ n ih =>
    intro depth hdepth computing hcomputing c hc t ht memo hmemo
    have htyped : x.typedWithin (n + 1) c = true := typedWithin_iff.2 ⟨t, ht⟩
    cases hget : memo.get? c.key with
    | some s =>
      have hs := hmemo c hc (hcomputing c hc htyped) t ⟨n + 1, ht⟩
      obtain rfl : s = t := by simpa [hget] using hs
      obtain ⟨houtcome, hafter⟩ : outcome (x.typeOfWithin depth c) memo = .ok s ∧
          memoAfter (x.typeOfWithin depth c) memo = memo := typeOfWithin_hit hget
      exact ⟨houtcome, hafter.symm ▸ hmemo⟩
    | none =>
      have hless : ∀ d, Cursor.Below x.unit.root d → x.typedWithin n d = true →
          d.key ∉ computing :=
        fun d hd h => hcomputing d hd (typedWithin_mono hx (Nat.le_succ n) hd h)
      by_cases hn : x.typedWithin n c = true
      · obtain ⟨s, hs⟩ := typedWithin_iff.1 hn
        obtain rfl := HasType.unique hx hc ⟨n, hs⟩ ⟨n + 1, ht⟩
        exact ih (Nat.le_of_succ_le hdepth) hless c hc s hs memo hmemo
      · obtain ⟨depth, rfl⟩ : ∃ d, depth = d + 1 := ⟨depth - 1, by omega⟩
        have hcomputing' : ∀ d, Cursor.Below x.unit.root d → x.typedWithin n d = true →
            d.key ∉ c.key :: computing := by
          intro d hd h
          rw [List.mem_cons, not_or]
          refine ⟨fun hkey => hn ?_, hless d hd h⟩
          rwa [← hkeys.eq_of_key hd hc hkey]
        obtain ⟨houtcome, hafter⟩ := ((respected_follows x _).compute
          (fun d hd => ⟨steady_plainWithin hx n d hd,
            ih (Nat.le_of_succ_le_succ hdepth) hcomputing' d hd⟩) hx hc).2 t ht _
          (hmemo.placeholder c.key .errorType)
        rw [outcome_typeOfWithin_succ hget, memoAfter_typeOfWithin_succ hget]
        dsimp only
        rw [houtcome]
        exact ⟨rfl, Sound.insert hx hkeys hc ⟨n + 1, ht⟩ hafter⟩

/-- Typing a node keeps the memory sound, as long as the depth is enough for all nodes but those
under computation that never get a type. -/
theorem sound_typeOfWithin {depth : Nat} : ∀ {untyped : List Cursor}, untyped.Nodup →
    (∀ e ∈ untyped, Cursor.Below x.unit.root e) → (∀ e ∈ untyped, ∀ t, ¬ x.HasType e t) →
    x.unit.tree.size ≤ depth + untyped.length → ∀ c, Cursor.Below x.unit.root c →
      Keeps (fun memo => x.Sound [] memo ∧ ∀ e ∈ untyped, ∃ t, memo.get? e.key = some t)
        (x.typeOfWithin depth c) := by
  induction depth with
  | zero =>
    intro untyped _ _ _ _ c _ memo h
    rwa [memoAfter_typeOfWithin_zero]
  | succ depth ih =>
    intro untyped hnodup hbelow huntyped hsize c hc memo ⟨hmemo, hfound⟩
    refine ⟨?_, fun e he => (hfound e he).imp fun t ht => keeps_entry hx _ t _ c hc memo ht⟩
    by_cases htyped : ∃ t, x.HasType c t
    · obtain ⟨t, ht⟩ := htyped
      obtain ⟨n, hn, hcount⟩ := exists_within_count hx hc ht
      have hdepth : n ≤ depth + 1 := by
        have := typedCount_add_le n hnodup hbelow huntyped
        omega
      obtain ⟨s, hs⟩ := typedWithin_iff.1 hn
      exact (follows_plain hx hkeys hdepth (by simp) c hc s hs memo hmemo).2
    · have hc' : ∀ t, ¬ x.HasType c t := not_exists.1 htyped
      refine memoAfter_typeOfWithin_of hmemo ?_ ?_
      · rintro _ ⟨⟩ hmiss
        have hnew : c ∉ untyped := by
          intro h
          obtain ⟨t, ht⟩ := hfound c h
          rw [hmiss] at ht
          cases ht
        have hstep := ih (List.nodup_cons.2 ⟨hnew, hnodup⟩)
          (List.forall_mem_cons.2 ⟨hc, hbelow⟩) (List.forall_mem_cons.2 ⟨hc', huntyped⟩)
          (by rw [List.length_cons]; omega)
        refine ((respected_keeps x _).compute (g := x.typeOfWithin depth) hstep hx hc _
          ⟨hmemo.insert_untyped hkeys hc hc' _, List.forall_mem_cons.2 ⟨?_, ?_⟩⟩).1
        · exact ⟨.errorType, by rw [Table.get?_insert, if_pos BEq.rfl]⟩
        · intro e he
          rw [Table.get?_insert]
          split
          · exact ⟨.errorType, rfl⟩
          · exact hfound e he
      · exact fun _ memo t h => h.insert_untyped hkeys hc hc' t

/-! ## Asking an oracle -/

/-- Typing any node of the unit keeps the memory sound. -/
theorem sound_typeOf {c : Cursor} (hc : Cursor.Below x.unit.root c) :
    Keeps (x.Sound []) (x.typeOf c) := by
  intro memo h
  exact (sound_typeOfWithin hx hkeys List.nodup_nil (by simp) (by simp) (Nat.le_refl _) c hc memo
    ⟨h, by simp⟩).1

/-- An expression that has a type gets it. -/
theorem outcome_of_hasType {c : Cursor} (hc : Cursor.Below x.unit.root c) {t : StaticType}
    (ht : x.HasType c t) {memo : Memo} (h : x.Sound [] memo) :
    outcome (x.typeOf c) memo = .ok t := by
  obtain ⟨n, hn, hcount⟩ := exists_within_count hx hc ht
  have hdepth : n ≤ x.unit.tree.size := by
    have := typedCount_add_le (x := x) n List.nodup_nil (by simp) (by simp)
    exact Nat.le_trans hcount (Nat.le_of_add_right_le this)
  obtain ⟨s, hs⟩ := typedWithin_iff.1 hn
  obtain rfl := HasType.unique hx hc ⟨n, hs⟩ ht
  exact (follows_plain hx hkeys hdepth (by simp) c hc s hs memo h).1

omit hkeys in
/-- An expression whose typing fails counts as untypeable ever after. -/
theorem remembered_after_failure {c : Cursor} (hc : Cursor.Below x.unit.root c) {memo : Memo}
    {e : Endless} (he : outcome (x.typeOf c) memo = .error e) :
    (memoAfter (x.typeOf c) memo).get? c.key = some .errorType := by
  cases hget : memo.get? c.key with
  | some t =>
    rw [typeOf, (typeOfWithin_hit hget).1] at he
    cases he
  | none =>
    unfold typeOf at he ⊢
    obtain ⟨size, hsize⟩ : ∃ n, x.unit.tree.size = n + 1 :=
      ⟨x.unit.tree.size - 1, by have := x.unit.tree.size_pos; omega⟩
    rw [hsize] at he ⊢
    rw [outcome_typeOfWithin_succ hget] at he
    rw [memoAfter_typeOfWithin_succ hget]
    dsimp only
    rw [he]
    refine (respected_keeps x _).compute (g := x.typeOfWithin size)
      (keeps_entry hx c.key .errorType size) hx hc _ ?_
    show (memo.insert c.key .errorType).get? c.key = some .errorType
    rw [Table.get?_insert, if_pos BEq.rfl]

end

end CauseLint.Index
