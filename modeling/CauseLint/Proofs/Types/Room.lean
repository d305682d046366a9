import CauseLint.Proofs.Types.Circular
import CauseLint.Proofs.Types.Queries

/-!
# More room

Typings and readings that are under way take room, and what finds none fails. More room changes
nothing that was found without it: whatever is found in some room is found in a larger one, and the
same is remembered on the way.

Results:

* `Index.typeWithin_mono`: what is read in some depth is read in a greater one.
* `Index.confirms_typeOfBy`: what is found in some room is found in a larger one.
* `Index.build_mono`: an index that is made in some room is made in a larger one.
* `Index.answersInRoom_mono`: questions that are answered in some room get the same answers in a
  larger one.
-/

namespace CauseLint

/-- Whatever the first of two computations finds, the second finds. -/
theorem bind_mono {ε α β : Type} {x y : Except ε α} {f g : α → Except ε β} {w : β}
    (hxy : ∀ v, x = .ok v → y = .ok v) (hfg : ∀ v, f v = .ok w → g v = .ok w)
    (h : x >>= f = .ok w) : y >>= g = .ok w := by
  obtain ⟨v, hv, hw⟩ := exists_of_bind_eq_ok h
  rw [hxy v hv]
  exact hfg v hw

namespace Index

variable {x : Index} {room : Nat}

/-! ## Readings -/

theorem argumentTypes_mono {read read' : Cursor → Except Endless StaticType} {cs : List Cursor}
    (hread : ∀ c t, read c = .ok t → read' c = .ok t) {ts : List StaticType}
    (h : argumentTypes read cs = .ok ts) : argumentTypes read' cs = .ok ts := by
  induction cs generalizing ts with
  | nil => exact h
  | cons c cs ih =>
    have hrest : ∀ t, (argumentTypes read cs >>= fun ts => .ok (t :: ts)) = Except.ok ts →
        (argumentTypes read' cs >>= fun ts => .ok (t :: ts)) = Except.ok ts := fun t =>
      bind_mono (fun ts => ih) fun _ => id
    rw [argumentTypes] at h ⊢
    split at h
    · rename_i hwild
      rw [if_pos hwild]
      exact hrest _ h
    · rename_i hread'
      rw [if_neg hread']
      exact bind_mono (hread c) hrest h

/-- What is read in some depth is read in a greater one. -/
theorem typeWithin_mono {m n : Nat} (hmn : m ≤ n) {c : Cursor} {t : StaticType}
    (h : x.typeWithin m c = .ok t) : (x.within room).typeWithin n c = .ok t := by
  induction m generalizing n c t with
  | zero => cases h
  | succ m ih =>
    obtain ⟨n, rfl⟩ : ∃ k, n = k + 1 := ⟨n - 1, by omega⟩
    have hread : ∀ d s, x.typeWithin m d = .ok s → (x.within room).typeWithin n d = .ok s :=
      fun d s => ih (Nat.le_of_succ_le_succ hmn)
    revert h
    rw [typeWithin, typeWithin]
    dsimp +instances only [within_unit, resolveSimple_within, resolve_within]
    -- the same case on both sides, and in each the same nodes are asked for
    split
    · exact id
    split
    · exact id
    split
    · split
      · exact hread _ _
      · exact id
    split
    · split
      · exact bind_mono (hread _) fun _ => id
      · exact id
    split
    · split
      · exact bind_mono (hread _) fun _ => bind_mono (fun _ => argumentTypes_mono hread) fun _ => id
      · exact bind_mono (fun _ => id) fun _ =>
          bind_mono (fun _ => argumentTypes_mono hread) fun _ => id
    split
    · split
      · split
        · exact hread _ _
        · exact id
      · exact id
    · exact id

theorem writtenType?_mono (h : x.room ≤ room) {c : Option Cursor} {t : StaticType}
    (ht : x.writtenType? c = .ok t) : (x.within room).writtenType? c = .ok t := by
  cases c with
  | none => exact ht
  | some c => exact typeWithin_mono h ht

/-! ## Typings -/

/-- Whatever the first of two typings finds, the second finds, with the same memory. -/
def Confirms {α : Type} (a b : Typing α) : Prop :=
  ∀ memo v, outcome a memo = .ok v → outcome b memo = .ok v ∧ memoAfter b memo = memoAfter a memo

theorem respected_confirms (h : x.room ≤ room) : Respected x (x.within room) Confirms where
  same := rfl
  pure a memo v hv := ⟨hv, rfl⟩
  written c _ memo t ht := ⟨writtenType?_mono h ht, rfl⟩
  bind {α β a b f g} hab hfg memo w hw := by
    obtain ⟨v, hv, hw⟩ := outcome_bind_eq_ok hw
    obtain ⟨hb, hmemo⟩ := hab memo v hv
    obtain ⟨hg, hmemo'⟩ := hfg v _ w hw
    rw [outcome_bind, memoAfter_bind, memoAfter_bind, hv, hb, hmemo]
    exact ⟨hg, hmemo'⟩

/-- What is found in some room is found in a larger one. -/
theorem confirms_typeOfBy (hx : x.Rooted) {m n : Nat} (hmn : m ≤ n) :
    ∀ c, Cursor.Below x.unit.root c → Confirms (typeOfBy x.within m c) (typeOfBy x.within n c) := by
  induction m generalizing n with
  | zero =>
    intro c _ memo t ht
    cases hget : memo.get? c.key with
    | none => cases (outcome_typeOfBy_zero hget).symm.trans ht
    | some s =>
      obtain ⟨hfound, hmemo⟩ : outcome (typeOfBy x.within n c) memo = .ok s ∧
          memoAfter (typeOfBy x.within n c) memo = memo := typeOfBy_hit hget
      rw [(typeOfBy_hit hget).1] at ht
      rw [hfound, hmemo, (typeOfBy_hit hget).2]
      exact ⟨ht, rfl⟩
  | succ m ih =>
    intro c hc memo t ht
    obtain ⟨n, rfl⟩ : ∃ k, n = k + 1 := ⟨n - 1, by omega⟩
    have hle : m ≤ n := Nat.le_of_succ_le_succ hmn
    cases hget : memo.get? c.key with
    | some s =>
      rw [(typeOfBy_hit hget).1] at ht
      rw [(typeOfBy_hit hget).1, (typeOfBy_hit hget).2, (typeOfBy_hit hget).2]
      exact ⟨ht, rfl⟩
    | none =>
      have hcompute : Confirms (compute (x.within m) (typeOfBy x.within m) c)
          (compute (x.within n) (typeOfBy x.within n) c) :=
        (respected_confirms (x := x.within m) hle).compute (ih hle) hx hc
      rw [outcome_typeOfBy_succ hget] at ht
      obtain ⟨hfound, hmemo⟩ := hcompute _ t ht
      rw [outcome_typeOfBy_succ hget, memoAfter_typeOfBy_succ hget, memoAfter_typeOfBy_succ hget]
      dsimp only
      rw [hfound, hmemo, ht]
      exact ⟨rfl, rfl⟩

/-! ## Questions -/

/-- The answers to questions one after another in the room of an index. -/
def answersInRoom (x : Index) (qs : List Query) : List (Except Endless (Option StaticType)) :=
  x.answersWith x.typeOfInRoom qs {}

/-- Questions that are all answered get the same answers where what is found is confirmed. -/
theorem answersWith_eq_of_confirms {y : Index} {f g : Cursor → Typing StaticType} {qs : List Query}
    (hqs : ∀ q ∈ qs, Confirms (x.askWith f q) (y.askWith g q)) {memo : Memo}
    (h : ∀ r ∈ x.answersWith f qs memo, ∃ t, r = .ok t) :
    y.answersWith g qs memo = x.answersWith f qs memo := by
  induction qs generalizing memo with
  | nil => rfl
  | cons q qs ih =>
    obtain ⟨hq, hqs⟩ := List.forall_mem_cons.1 hqs
    obtain ⟨⟨t, ht⟩, hrest⟩ := List.forall_mem_cons.1 h
    obtain ⟨hfound, hmemo⟩ := hq memo t ht
    rw [answersWith, answersWith, hfound, ht, hmemo, ih hqs hrest]

/-- Questions that are answered in some room get the same answers in a larger one. -/
theorem answersInRoom_mono (hx : x.Rooted) (h : x.room ≤ room) {qs : List Query}
    (hqs : ∀ q ∈ qs, Cursor.Below x.unit.root q.node)
    (hanswers : ∀ r ∈ x.answersInRoom qs, ∃ t, r = .ok t) :
    (x.within room).answersInRoom qs = x.answersInRoom qs :=
  answersWith_eq_of_confirms
    (fun q hq => (respected_confirms h).askWith hx (confirms_typeOfBy hx h) (hqs q hq)) hanswers

/-! ## The index -/

theorem classNames_mono (h : x.room ≤ room) {cs : List Cursor} {names : List String}
    (hnames : classNames x cs = .ok names) : classNames (x.within room) cs = .ok names := by
  induction cs generalizing names with
  | nil => exact hnames
  | cons c cs ih =>
    rw [classNames] at hnames ⊢
    exact bind_mono (fun _ => typeWithin_mono h) (fun _ => bind_mono (fun _ => ih) fun _ => id)
      hnames

theorem addDeclarations_mono (h : x.room ≤ room) {ds : List (Cursor × String)} {y : Index}
    (hy : addDeclarations ds x = .ok y) :
    addDeclarations ds (x.within room) = .ok (y.within room) := by
  induction ds generalizing x with
  | nil => exact congrArg Except.ok (congrArg (within · room) (Except.ok.inj hy))
  | cons d ds ih =>
    rw [addDeclarations_cons] at hy ⊢
    obtain ⟨supers, hsupers, hy⟩ := exists_of_bind_eq_ok hy
    have hsame : declaredSupertypes (x.within room) d.1 = .ok supers :=
      bind_mono (fun _ => classNames_mono h) (fun _ => id) hsupers
    rw [hsame]
    exact ih (x := x.record d supers) h hy

theorem addThrown_mono (h : x.room ≤ room) {cs : List Cursor} {y : Index}
    (hy : addThrown cs x = .ok y) : addThrown cs (x.within room) = .ok (y.within room) := by
  induction cs generalizing x with
  | nil => exact congrArg Except.ok (congrArg (within · room) (Except.ok.inj hy))
  | cons c cs ih =>
    rw [addThrown_cons] at hy ⊢
    obtain ⟨t, ht, hy⟩ := exists_of_bind_eq_ok hy
    have hread : (x.within room).writtenType c = .ok t := typeWithin_mono h ht
    have hmark : (x.within room).mark t = (x.mark t).within room := by
      unfold mark
      dsimp +instances only [within_hierarchy]
      split <;> rfl
    rw [hread]
    show addThrown cs ((x.within room).mark t) = _
    rw [hmark]
    exact ih (x := x.mark t) ((sameNames_mark x t).room ▸ h) hy

theorem within_ofNames (u : SourceUnit) (parent : Hierarchy) (m n : Nat) :
    (ofNames u parent m).within n = ofNames u parent n := by
  unfold ofNames
  generalize declarations u = ds
  suffices ∀ x y : Index, x.within n = y → (ds.foldl (fun x d =>
      { x with
        classes := x.classes.insert d.2 { node := d.1 }
        classAt := x.classAt.insert d.1.key d.2 }) x).within n =
      ds.foldl (fun x d =>
        { x with
          classes := x.classes.insert d.2 { node := d.1 }
          classAt := x.classAt.insert d.1.key d.2 }) y from this _ _ rfl
  induction ds with
  | nil => exact fun x y h => h
  | cons d ds ih => exact fun x y h => ih _ _ (by rw [← h]; rfl)

theorem room_addDeclarations {ds : List (Cursor × String)} {y : Index}
    (h : addDeclarations ds x = .ok y) : y.room = x.room :=
  addDeclarations_induction (p := fun z => z.room = x.room) (fun _ _ _ _ hz => hz) rfl h

section

variable {u : SourceUnit} {parent : Hierarchy} {m : Nat}

theorem exists_declared_in_room (h : build u parent m = .ok x) :
    ∃ y, addDeclarations (declarations u) (ofNames u parent m) = .ok y ∧ y.room = m ∧
      addThrown (thrownNodes u) y = .ok x := by
  obtain ⟨y, hy, hx⟩ := exists_of_bind_eq_ok h
  exact ⟨y, hy, (room_addDeclarations hy).trans (fields_ofNames u parent m).2, hx⟩

/-- An index has the room in which it is made. -/
theorem room_of_build (h : build u parent m = .ok x) : x.room = m := by
  obtain ⟨y, -, hroom, hx⟩ := exists_declared_in_room h
  exact (sameNames_addThrown hx).room.trans hroom

/-- An index that is made in some room is made in a larger one. -/
theorem build_mono {n : Nat} (hmn : m ≤ n) (h : build u parent m = .ok x) :
    build u parent n = .ok (x.within n) := by
  obtain ⟨y, hy, hroom, hx⟩ := exists_declared_in_room h
  have hnamed : (ofNames u parent m).room ≤ n := (fields_ofNames u parent m).2.le.trans hmn
  have hdeclared := addDeclarations_mono hnamed hy
  rw [within_ofNames] at hdeclared
  unfold build
  dsimp only
  rw [hdeclared]
  exact addThrown_mono (hroom.le.trans hmn) hx

end

end Index

end CauseLint
