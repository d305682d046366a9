import CauseLint.Proofs.Types.Sums

/-!
# Oracles that always answer, and the room they need

A typing follows a use to its declaration anywhere in the unit, so it does not go down in the tree.
It ends all the same: a node is remembered before its type is computed, so the nodes that are not
yet remembered become fewer with each level, and the types that are written on the way can be read
when the bounds of the type parameters are acyclic. Variables that are initialised from each other
and classes that extend each other do no harm.

How much room this takes is another matter. There are never more typings under way than the tree has
nodes, nor more readings, so each unit can do with some room; but no room is enough for all units.

Results:

* `Index.agree_typeOfBy`: room for as many typings as nodes are not remembered, and for the readings
  of the last of them, is enough.
* `Index.answered_within_room`: over acyclic bounds all questions are answered from some room on,
  and no room is enough for all units.
-/

namespace CauseLint.Index

/-! ## Nodes that are not remembered -/

/-- How many nodes of the unit are not remembered. -/
def forgotten (x : Index) (memo : Memo) : Nat :=
  total (fun _ => 1) (x.unit.root.preorder.filter fun c => (memo.get? c.key).isNone)

theorem forgotten_le (x : Index) (memo : Memo) : x.forgotten memo ≤ x.unit.tree.size := by
  rw [forgotten, total_one]
  exact Nat.le_trans (List.length_filter_le _ _) (Nat.le_of_eq (Cursor.length_preorder x.unit.root))

theorem isNone_of_isNone_insert {memo : Memo} {k : NodeKey} {t : StaticType} {c : Cursor}
    (h : ((memo.insert k t).get? c.key).isNone = true) : (memo.get? c.key).isNone = true := by
  rw [Table.get?_insert] at h
  split at h
  · cases h
  · exact h

/-- Remembering something forgets nothing. -/
theorem forgotten_insert_le (x : Index) (memo : Memo) (k : NodeKey) (t : StaticType) :
    x.forgotten (memo.insert k t) ≤ x.forgotten memo :=
  total_filter_le _ _ _ _ fun _ _ => isNone_of_isNone_insert

/-- A node that is remembered for the first time counts. -/
theorem forgotten_insert_lt {x : Index} {memo : Memo} {c : Cursor}
    (hc : Cursor.Below x.unit.root c) (hmiss : memo.get? c.key = none) (t : StaticType) :
    x.forgotten (memo.insert c.key t) < x.forgotten memo := by
  refine total_filter_add_le (fun _ => 1) _ _ _ c (fun _ _ => isNone_of_isNone_insert) ?_ ?_
    (Cursor.mem_preorder_iff.2 hc)
  · simp [Table.get?_insert]
  · simp [hmiss]

/-! ## Typings that end -/

/-- When at most `n` nodes are not remembered, two typings find the same type and leave the same
memory, in which no more nodes are missing. -/
def Agree (x : Index) (n : Nat) {α : Type} (a b : Typing α) : Prop :=
  ∀ memo, x.forgotten memo ≤ n → ∃ v, outcome a memo = .ok v ∧ outcome b memo = .ok v ∧
    memoAfter b memo = memoAfter a memo ∧ x.forgotten (memoAfter a memo) ≤ n

/-- What agrees whatever is remembered is confirmed. -/
theorem Agree.confirms {x : Index} {α : Type} {a b : Typing α}
    (h : x.Agree x.unit.tree.size a b) : Confirms a b := by
  intro memo v hv
  obtain ⟨w, ha, hb, hmemo, -⟩ := h memo (forgotten_le x memo)
  rw [ha] at hv
  exact ⟨hb.trans hv, hmemo⟩

section

variable {x : Index} (hends : ∀ c, Cursor.Below x.unit.root c → ¬ Circular x.unit c)
  (hroomy : x.Roomy)

include hends hroomy

/-- A written type is found, and the same one where there is room for as many readings as the tree
has nodes. -/
theorem exists_writtenType? {room : Nat} (hroom : x.unit.tree.size ≤ room) {c : Option Cursor}
    (hc : ∀ d, c = some d → Cursor.Below x.unit.root d) :
    ∃ t, x.writtenType? c = .ok t ∧ (x.within room).writtenType? c = .ok t := by
  cases c with
  | none => exact ⟨_, rfl, rfl⟩
  | some c =>
    have hbelow := hc c rfl
    obtain ⟨t, ht⟩ := isOk_iff_exists.1
      (isOk_of_not_circular hbelow (hends c hbelow) (reachCount_le x.unit c))
    have hfound : (x.within x.room).typeWithin x.room c = .ok t := typeWithin_mono hroomy ht
    exact ⟨t, hfound, typeWithin_mono hroom ht⟩

theorem respected_agree (n : Nat) {room : Nat} (hroom : x.unit.tree.size ≤ room) :
    Respected x (x.within room) (x.Agree n) where
  same := rfl
  pure a _ h := ⟨a, rfl, rfl, rfl, h⟩
  written c hc memo h := by
    obtain ⟨t, ht, ht'⟩ := exists_writtenType? hends hroomy hroom hc
    exact ⟨t, ht, ht', rfl, h⟩
  bind {α β a b f g} hab hfg memo h := by
    obtain ⟨v, ha, hb, hmemo, hleft⟩ := hab memo h
    obtain ⟨w, hf, hg, hmemo', hleft'⟩ := hfg v _ hleft
    refine ⟨w, ?_, ?_, ?_, ?_⟩
    · rw [outcome_bind, ha]
      exact hf
    · rw [outcome_bind, hb, hmemo]
      exact hg
    · rw [memoAfter_bind, memoAfter_bind, ha, hb, hmemo]
      exact hmemo'
    · rw [memoAfter_bind, ha]
      exact hleft'

/-- The typing of a node ends within as many levels as nodes are not remembered: its computation
starts with one node more in the memory. What is left of the room is for the readings. -/
theorem agree_typeOfBy (hx : x.Rooted) (n : Nat) :
    ∀ {depth room : Nat}, n ≤ depth → n + x.unit.tree.size ≤ room →
      ∀ c, Cursor.Below x.unit.root c →
        x.Agree n (x.typeOfWithin depth c) (typeOfBy x.within room c) := by
  induction n using Nat.strong_induction_on with
  | _ n ih =>
    intro depth room hdepth hroom c hc memo h
    cases hget : memo.get? c.key with
    | some t =>
      obtain ⟨hfound, hmemo⟩ : outcome (x.typeOfWithin depth c) memo = .ok t ∧
          memoAfter (x.typeOfWithin depth c) memo = memo := typeOfWithin_hit hget
      obtain ⟨hfound', hmemo'⟩ : outcome (typeOfBy x.within room c) memo = .ok t ∧
          memoAfter (typeOfBy x.within room c) memo = memo := typeOfBy_hit hget
      exact ⟨t, hfound, hfound', hmemo'.trans hmemo.symm, hmemo.symm ▸ h⟩
    | none =>
      have hless := forgotten_insert_lt hc hget .errorType
      obtain ⟨depth, rfl⟩ : ∃ d, depth = d + 1 := ⟨depth - 1, by omega⟩
      obtain ⟨room, rfl⟩ : ∃ r, room = r + 1 := ⟨room - 1, by omega⟩
      have hstep : ∀ c, Cursor.Below x.unit.root c →
          x.Agree (n - 1) (x.typeOfWithin depth c) (typeOfBy x.within room c) :=
        ih (n - 1) (by omega) (by omega) (by omega)
      have hsize : x.unit.tree.size ≤ room := by omega
      obtain ⟨t, ha, hb, hmemo, hleft⟩ :=
        (respected_agree hends hroomy (n - 1) hsize).compute hstep hx hc
          (memo.insert c.key .errorType) (by omega)
      refine ⟨t, ?_, ?_, ?_, ?_⟩
      · rw [outcome_typeOfWithin_succ hget, ha]
      · rw [outcome_typeOfBy_succ hget, hb]
      · rw [memoAfter_typeOfWithin_succ hget, memoAfter_typeOfBy_succ hget]
        dsimp only
        rw [ha, hb, hmemo]
      · rw [memoAfter_typeOfWithin_succ hget]
        dsimp only
        rw [ha]
        exact Nat.le_trans (forgotten_insert_le x _ c.key t) (by omega)

/-! ## Questions -/

/-- A question is answered, and with the same answer where there is room for as many typings and as
many readings as the tree has nodes. -/
theorem agree_ask (hx : x.Rooted) {room : Nat} (hroom : 2 * x.unit.tree.size ≤ room) {q : Query}
    (hq : Cursor.Below x.unit.root q.node) :
    x.Agree x.unit.tree.size (x.ask q) ((x.within room).askWith (x.within room).typeOfInRoom q) :=
  (respected_agree hends hroomy _ (show x.unit.tree.size ≤ room by omega)).askWith hx
    (agree_typeOfBy hends hroomy hx _ (Nat.le_refl _)
      (show x.unit.tree.size + x.unit.tree.size ≤ room by omega)) hq

/-- All questions one after another are answered. -/
theorem exists_of_mem_answers (hx : x.Rooted) {qs : List Query}
    (hqs : ∀ q ∈ qs, Cursor.Below x.unit.root q.node) (memo : Memo) :
    ∀ r ∈ x.answers qs memo, ∃ t, r = .ok t := by
  induction qs generalizing memo with
  | nil => simp [answers, answersWith]
  | cons q qs ih =>
    obtain ⟨hq, hqs⟩ := List.forall_mem_cons.1 hqs
    obtain ⟨t, ht, -⟩ := agree_ask hends hroomy hx (Nat.le_refl _) hq memo (forgotten_le x memo)
    exact List.forall_mem_cons.2 ⟨⟨t, ht⟩, ih hqs _⟩

/-- Where there is room enough, the answers do not hang on it. -/
theorem answersInRoom_eq_answers (hx : x.Rooted) {room : Nat}
    (hroom : 2 * x.unit.tree.size ≤ room) {qs : List Query}
    (hqs : ∀ q ∈ qs, Cursor.Below x.unit.root q.node) :
    (x.within room).answersInRoom qs = x.answers qs {} :=
  answersWith_eq_of_confirms
    (fun q hq => (agree_ask hends hroomy hx hroom (hqs q hq)).confirms)
    (exists_of_mem_answers hends hroomy hx hqs {})

end

/-! ## Units -/

/-- Over acyclic bounds a unit can be indexed, whatever its classes extend. -/
theorem exists_build_of_acyclic {u : SourceUnit} (hu : BoundsAcyclic u) (parent : Hierarchy) :
    ∃ x, build u parent = .ok x := by
  refine isOk_iff_exists.1 ((isOk_build_iff u parent).2 fun c hc => boundsAcyclic_iff.1 hu c ?_)
  rcases List.mem_append.1 hc with h | h
  · obtain ⟨d, hd, hc⟩ := List.mem_flatMap.1 h
    exact (below_of_mem_declarations hd).trans (below_of_mem_supertypeNodes hc)
  · exact below_of_mem_thrownNodes h

/-- In some room a unit can be indexed and questions about it are all answered. -/
def Answered (u : SourceUnit) (parent : Hierarchy) (room : Nat) (qs : List Query) : Prop :=
  ∃ x, build u parent room = .ok x ∧ ∀ r ∈ x.answersInRoom qs, ∃ t, r = .ok t

section

variable {u : SourceUnit} {parent : Hierarchy} {qs : List Query}
  (hqs : ∀ q ∈ qs, Cursor.Below u.root q.node)

include hqs

/-- More room is as good. -/
theorem Answered.mono {m n : Nat} (h : Answered u parent m qs) (hmn : m ≤ n) :
    Answered u parent n qs := by
  obtain ⟨x, hx, hanswers⟩ := h
  obtain ⟨rfl, hrooted⟩ := rooted_of_build hx
  refine ⟨x.within n, build_mono hmn hx, ?_⟩
  rwa [answersInRoom_mono hrooted ((room_of_build hx).trans_le hmn) hqs hanswers]

variable (hu : BoundsAcyclic u) {x : Index} (hx : build u parent = .ok x)

include hu hx

/-- Room for as many typings and as many readings as the tree has nodes is enough, and what is found
there is found on a stack without end. -/
theorem answersInRoom_of_le {room : Nat} (hroom : 2 * u.tree.size ≤ room) :
    build u parent room = .ok (x.within room) ∧
      (x.within room).answersInRoom qs = x.answers qs {} := by
  have hroomy := roomy_of_build hx
  refine ⟨build_mono (by omega) hx, ?_⟩
  obtain ⟨rfl, hrooted⟩ := rooted_of_build hx
  exact answersInRoom_eq_answers (boundsAcyclic_iff.1 hu) hroomy hrooted hroom hqs

/-- Wherever all questions are answered, they have these answers: a larger room has them too. -/
theorem Answered.eq_answers {room : Nat} (h : Answered u parent room qs) :
    build u parent room = .ok (x.within room) ∧
      (x.within room).answersInRoom qs = x.answers qs {} := by
  obtain ⟨y, hy, hanswers⟩ := h
  obtain ⟨hlarge, hsame⟩ := answersInRoom_of_le hqs hu hx
    (Nat.le_add_right (2 * u.tree.size) room)
  have hle : room ≤ 2 * u.tree.size + room := Nat.le_add_left _ _
  have heq : y.within (2 * u.tree.size + room) = x.within (2 * u.tree.size + room) :=
    Except.ok.inj ((build_mono hle hy).symm.trans hlarge)
  have hy' : y = x.within room := by
    have hroom : y.within room = y := by rw [← room_of_build hy]; rfl
    have hsmall := congrArg (fun z : Index => z.within room) heq
    exact hroom.symm.trans hsmall
  obtain ⟨hunit, hrooted⟩ := rooted_of_build hy
  have hqs' : ∀ q ∈ qs, Cursor.Below y.unit.root q.node := by rwa [hunit]
  have hmore := answersInRoom_mono hrooted ((room_of_build hy).trans_le hle) hqs' hanswers
  rw [← hy']
  exact ⟨hy, by rw [← hmore, heq, hsame]⟩

end

/-- Over acyclic bounds of type parameters a unit can be indexed, whatever its classes extend, and
every question about its nodes is answered, after whatever other questions, on a stack without end;
and so it is from some room on, which is at most twice as much as the tree has nodes. With less
room the index or an answer ends in `Endless`; and for each room there is a unit, of a sum with more
terms, for which it is too little. -/
theorem answered_within_room (u : SourceUnit) (parent : Hierarchy) (hu : BoundsAcyclic u) :
    (∃ x, build u parent = .ok x ∧ ∀ qs, (∀ q ∈ qs, Cursor.Below u.root q.node) →
      (∀ r ∈ x.answers qs {}, ∃ t, r = .ok t) ∧
      ∃ least ≤ 2 * u.tree.size, ∀ room,
        (Answered u parent room qs ↔ least ≤ room) ∧
        (least ≤ room → build u parent room = .ok (x.within room) ∧
          (x.within room).answersInRoom qs = x.answers qs {})) ∧
    ∀ room, ∃ v q, BoundsAcyclic v ∧ Cursor.Below v.root q.node ∧
      ∃ y, build v parent room = .ok y ∧ y.answersInRoom [q] = [.error .endless] := by
  obtain ⟨x, hx⟩ := exists_build_of_acyclic hu parent
  refine ⟨⟨x, hx, fun qs hqs => ?_⟩, exists_endless_of_room parent⟩
  have hanswers : ∀ r ∈ x.answers qs {}, ∃ t, r = .ok t := by
    obtain ⟨rfl, hrooted⟩ := rooted_of_build hx
    exact exists_of_mem_answers (boundsAcyclic_iff.1 hu) (roomy_of_build hx) hrooted hqs {}
  have hlarge : Answered u parent (2 * u.tree.size) qs := by
    obtain ⟨hbuild, hsame⟩ := answersInRoom_of_le hqs hu hx (Nat.le_refl _)
    exact ⟨_, hbuild, by rwa [hsame]⟩
  classical
  have hexists : ∃ room, Answered u parent room qs := ⟨_, hlarge⟩
  have hleast : ∀ {room}, Nat.find hexists ≤ room → Answered u parent room qs :=
    (Nat.find_spec hexists).mono hqs
  refine ⟨hanswers, Nat.find hexists, Nat.find_min' hexists hlarge, fun room => ⟨?_, ?_⟩⟩
  · exact ⟨Nat.find_min' hexists, hleast⟩
  · exact fun h => (hleast h).eq_answers hqs hu hx

/-- A class that extends itself, with a field that is initialised from itself. -/
def selfMade : SourceUnit where
  path := "A.java"
  source := Utf8.ofText "class A<S extends A, T extends S> extends A \x7b var x = x; \x7d"
  tree :=
    .node { kind := "program", start := 0, stop := 58 } [
      .node { kind := "class_declaration", start := 0, stop := 58 } [
        .node { kind := "class", isNamed := false, start := 0, stop := 5 } [],
        .node { kind := "identifier", start := 6, stop := 7, field := some "name" } [],
        .node { kind := "type_parameters", start := 7, stop := 33,
                field := some "type_parameters" } [
          .node { kind := "<", isNamed := false, start := 7, stop := 8 } [],
          .node { kind := "type_parameter", start := 8, stop := 19 } [
            .node { kind := "type_identifier", start := 8, stop := 9 } [],
            .node { kind := "type_bound", start := 10, stop := 19 } [
              .node { kind := "extends", isNamed := false, start := 10, stop := 17 } [],
              .node { kind := "type_identifier", start := 18, stop := 19 } []]],
          .node { kind := ",", isNamed := false, start := 19, stop := 20 } [],
          .node { kind := "type_parameter", start := 21, stop := 32 } [
            .node { kind := "type_identifier", start := 21, stop := 22 } [],
            .node { kind := "type_bound", start := 23, stop := 32 } [
              .node { kind := "extends", isNamed := false, start := 23, stop := 30 } [],
              .node { kind := "type_identifier", start := 31, stop := 32 } []]],
          .node { kind := ">", isNamed := false, start := 32, stop := 33 } []],
        .node { kind := "superclass", start := 34, stop := 43, field := some "superclass" } [
          .node { kind := "extends", isNamed := false, start := 34, stop := 41 } [],
          .node { kind := "type_identifier", start := 42, stop := 43 } []],
        .node { kind := "class_body", start := 44, stop := 58, field := some "body" } [
          .node { kind := "\x7b", isNamed := false, start := 44, stop := 45 } [],
          .node { kind := "field_declaration", start := 46, stop := 56 } [
            .node { kind := "type_identifier", start := 46, stop := 49, field := some "type" } [],
            .node { kind := "variable_declarator", start := 50, stop := 55,
                    field := some "declarator" } [
              .node { kind := "identifier", start := 50, stop := 51, field := some "name" } [],
              .node { kind := "=", isNamed := false, start := 52, stop := 53 } [],
              .node { kind := "identifier", start := 54, stop := 55, field := some "value" } []],
            .node { kind := ";", isNamed := false, start := 55, stop := 56 } []],
          .node { kind := "\x7d", isNamed := false, start := 57, stop := 58 } []]]]

/-- Each type written in the class can be read. -/
theorem boundsAcyclic_selfMade : BoundsAcyclic selfMade := by
  have hok : ∀ c ∈ selfMade.root.preorder, ((ofNames selfMade {}).writtenType c).isOk := by
    decide +kernel
  refine boundsAcyclic_iff.2 fun c hc => ?_
  have hends := not_circular_of_isOk (hok c (Cursor.mem_preorder_iff.2 hc))
  rwa [unit_ofNames selfMade {}] at hends

/-- The field gets a type, and so do the class around it and the variable of its name, where there
is any room. -/
theorem answered_within_room_selfMade :
    let value := Rule.nodeAt selfMade "identifier" 54
    let qs := [.variableOf "x" value, .type value, .enclosing value]
    BoundsAcyclic selfMade ∧ ∃ x, build selfMade {} = .ok x ∧
      (x.hierarchy.get? "A").map ClassInfo.supertypes = some ["A"] ∧
      (∀ r ∈ x.answers qs {}, ∃ t, r = .ok t) ∧
      ∃ least, 0 < least ∧ ∀ room, Answered selfMade {} room qs ↔ least ≤ room := by
  intro value qs
  obtain ⟨⟨x, hx, hanswers⟩, -⟩ := answered_within_room selfMade {} boundsAcyclic_selfMade
  have hsupers : (build selfMade {}).toOption.map
      (fun x => (x.hierarchy.get? "A").map ClassInfo.supertypes) = some (some ["A"]) := by
    decide +kernel
  have hnone : (build selfMade {} 0).isOk = false := by decide +kernel
  have hqs : ∀ q ∈ qs, Cursor.Below selfMade.root q.node := by
    simp only [qs, List.forall_mem_cons]
    exact ⟨Rule.below_nodeAt _ _ _, Rule.below_nodeAt _ _ _, Rule.below_nodeAt _ _ _, by simp⟩
  obtain ⟨hok, least, -, hroom⟩ := hanswers qs hqs
  rw [hx] at hsupers
  refine ⟨boundsAcyclic_selfMade, x, hx, Option.some.inj hsupers, hok, least, ?_,
    fun room => (hroom room).1⟩
  refine Nat.pos_of_ne_zero fun hzero => ?_
  obtain ⟨y, hy, -⟩ := (hroom 0).1.2 (Nat.le_of_eq hzero)
  rw [hy] at hnone
  cases hnone

end CauseLint.Index
