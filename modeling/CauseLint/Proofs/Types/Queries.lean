import CauseLint.Proofs.Effects
import CauseLint.Proofs.Rule.History
import CauseLint.Proofs.Types.Memory

/-!
# Asking the oracle of a unit

The oracle of a unit is asked for the types of expressions, for what calls are dispatched on, for
the class around a node and for the variable that a name means. Each question starts with the
memory that the ones before it left, also where these failed. The other questions, whether one class
descends from another and what a name means, do not see the memory.

Results:

* `Index.Respected.askWith`: what passes from the typings of nodes to the answer of a question.
* `Index.keeps_entry_ask`: a question changes nothing that is remembered.
* `Index.answer_remembered`: what was answered once is answered for good.
-/

namespace CauseLint.Index

/-- A question about a node. -/
inductive Query where
  /-- The type of an expression. -/
  | type (c : Cursor)
  /-- The type that a call is dispatched on. -/
  | receiver (call : Cursor)
  /-- The type of the class around a node. -/
  | enclosing (c : Cursor)
  /-- The type of the variable of a name that is visible at a node. -/
  | variableOf (name : String) (use : Cursor)

/-- The node that a question is about. -/
def Query.node : Query → Cursor
  | .type c | .receiver c | .enclosing c | .variableOf _ c => c

/-- The answer to a question, given how expressions are typed. Only a variable can be missing. -/
def askWith (x : Index) (typeOf : Cursor → Typing StaticType) : Query → Typing (Option StaticType)
  | .type c => some <$> typeOf c
  | .receiver call => some <$> receiverTypeWith x typeOf call
  | .enclosing c => some <$> x.enclosingClassType c
  | .variableOf name use => variableIn x typeOf name use use.parents

/-- The answer to a question. -/
def ask (x : Index) (q : Query) : Typing (Option StaticType) := x.askWith x.typeOf q

/-- The answers to questions one after another. -/
def answersWith (x : Index) (typeOf : Cursor → Typing StaticType) :
    List Query → Memo → List (Except Endless (Option StaticType))
  | [], _ => []
  | q :: qs, memo =>
    outcome (x.askWith typeOf q) memo ::
      x.answersWith typeOf qs (memoAfter (x.askWith typeOf q) memo)

/-- The answers to questions one after another. -/
def answers (x : Index) (qs : List Query) (memo : Memo) :
    List (Except Endless (Option StaticType)) :=
  x.answersWith x.typeOf qs memo

/-- The memory behind questions one after another. -/
def memoBehind (x : Index) (qs : List Query) (memo : Memo) : Memo :=
  qs.foldl (fun memo q => memoAfter (x.ask q) memo) memo

/-- What passes from the typings of the nodes of a unit to expressions passes to the answers. -/
theorem Respected.askWith {x y : Index} {R : {α : Type} → Typing α → Typing α → Prop}
    (hR : Respected x y R) (hx : x.Rooted) {f g : Cursor → Typing StaticType}
    (h : ∀ c, Cursor.Below x.unit.root c → R (f c) (g c)) {q : Query}
    (hq : Cursor.Below x.unit.root q.node) : R (x.askWith f q) (y.askWith g q) := by
  cases q with
  | type c => exact hR.map _ (h c hq)
  | receiver call => exact hR.map _ (hR.receiverTypeWith h hq)
  | enclosing c => exact hR.map _ (hR.enclosingClassType hq)
  | variableOf name use =>
    exact hR.variableIn h hx name use fun d hd => Cursor.parents_below rfl hq hd

section

variable {x : Index} (hx : x.Rooted)

include hx

/-- A question changes nothing that is remembered. -/
theorem keeps_entry_ask {q : Query} (hq : Cursor.Below x.unit.root q.node) (k : NodeKey)
    (t : StaticType) : Keeps (fun memo => memo.get? k = some t) (x.ask q) :=
  (respected_keeps x _).askWith (g := x.typeOf) hx (keeps_entry hx k t x.unit.tree.size) hq

/-- Neither do several questions. -/
theorem get?_memoBehind {qs : List Query} (hqs : ∀ q ∈ qs, Cursor.Below x.unit.root q.node)
    {memo : Memo} {k : NodeKey} {t : StaticType} (h : memo.get? k = some t) :
    (x.memoBehind qs memo).get? k = some t := by
  induction qs generalizing memo with
  | nil => exact h
  | cons q qs ih =>
    obtain ⟨hq, hqs⟩ := List.forall_mem_cons.1 hqs
    exact ih hqs (keeps_entry_ask hx hq k t memo h)

end

/-- A type that was found is remembered. -/
theorem get?_memoAfter_typeOf {x : Index} {c : Cursor} {memo : Memo} {t : StaticType}
    (h : outcome (x.typeOf c) memo = .ok t) :
    (memoAfter (x.typeOf c) memo).get? c.key = some t := by
  unfold typeOf at h ⊢
  cases hget : memo.get? c.key with
  | some s =>
    rw [(typeOfWithin_hit hget).1] at h
    rw [(typeOfWithin_hit hget).2, hget, Except.ok.inj h]
  | none =>
    obtain ⟨depth, hdepth⟩ : ∃ n, x.unit.tree.size = n + 1 :=
      ⟨x.unit.tree.size - 1, by have := x.unit.tree.size_pos; omega⟩
    rw [hdepth] at h ⊢
    rw [outcome_typeOfWithin_succ hget] at h
    rw [memoAfter_typeOfWithin_succ hget]
    dsimp only
    rw [h, Table.get?_insert, if_pos BEq.rfl]

/-- A question, answered or not, leaves everything that was remembered before it. Once the type of
an expression is found, each node with its key has this type, whatever is asked in between, and
asking for it again changes nothing. -/
theorem answer_remembered {u : SourceUnit} {parent : Hierarchy} {x : Index}
    (hx : build u parent = .ok x) :
    (∀ q, Cursor.Below u.root q.node → ∀ memo k t, memo.get? k = some t →
      (memoAfter (x.ask q) memo).get? k = some t) ∧
    ∀ before c t, outcome (x.typeOf c) (x.memoBehind before {}) = .ok t →
      ∀ between, (∀ q ∈ between, Cursor.Below u.root q.node) → ∀ d, d.key = c.key →
        let memo := x.memoBehind (before ++ .type c :: between) {}
        outcome (x.typeOf d) memo = .ok t ∧ memoAfter (x.typeOf d) memo = memo := by
  obtain ⟨rfl, hrooted⟩ := rooted_of_build hx
  refine ⟨fun q hq memo k t h => keeps_entry_ask hrooted hq k t memo h, ?_⟩
  intro before c t hfound between hbetween d hkey memo
  have hask : memoAfter (x.ask (.type c)) (x.memoBehind before {}) =
      memoAfter (x.typeOf c) (x.memoBehind before {}) := by
    show memoAfter (some <$> x.typeOf c) _ = _
    rw [map_eq_pure_bind, memoAfter_bind, hfound]
    rfl
  have hget : memo.get? d.key = some t := by
    show (x.memoBehind (before ++ .type c :: between) {}).get? d.key = some t
    rw [hkey, memoBehind, List.foldl_append, List.foldl_cons]
    refine get?_memoBehind hrooted hbetween ?_
    rw [← memoBehind, hask]
    exact get?_memoAfter_typeOf hfound
  exact typeOfWithin_hit hget

theorem build_selfTyped : build Rule.selfTyped {} = .ok Rule.selfTypedIndex := by
  have hok : (build Rule.selfTyped {}).isOk = true := by decide +kernel
  unfold Rule.selfTypedIndex
  cases h : build Rule.selfTyped {} with
  | ok x => rfl
  | error e =>
    rw [h] at hok
    cases hok

/-- The name of a class keeps its type across questions about a parameter of which some fail. -/
theorem answer_remembered_selfTyped :
    let x := Rule.selfTypedIndex
    let name := Rule.nodeAt Rule.selfTyped "identifier" 6
    let parameter := Rule.nodeAt Rule.selfTyped "identifier" 49
    let between := [.type parameter, .receiver (Rule.nodeAt Rule.selfTyped "method_invocation" 49),
      .variableOf "t" parameter, .enclosing parameter]
    build Rule.selfTyped {} = .ok x ∧
    (x.answers between (x.memoBehind [.type name] {})).map Except.isOk =
      [false, true, false, true] ∧
    ∃ t, t.text = "N" ∧ outcome (x.typeOf name) {} = .ok t ∧
      outcome (x.typeOf name) (x.memoBehind (.type name :: between) {}) = .ok t := by
  intro x name parameter between
  have hknown : (x.answers between (x.memoBehind [.type name] {})).map Except.isOk =
        [false, true, false, true] ∧
      (outcome (x.typeOf name) {}).toOption.map StaticType.text = some "N" := by
    decide +kernel
  obtain ⟨t, ht, htext⟩ := Option.map_eq_some_iff.1 hknown.2
  have hfound : outcome (x.typeOf name) {} = .ok t := eq_ok_of_toOption ht
  have hbetween : ∀ q ∈ between, Cursor.Below Rule.selfTyped.root q.node := by
    simp only [between, List.forall_mem_cons]
    exact ⟨Rule.below_nodeAt _ _ _, Rule.below_nodeAt _ _ _, Rule.below_nodeAt _ _ _,
      Rule.below_nodeAt _ _ _, by simp⟩
  exact ⟨build_selfTyped, hknown.1, t, htext, hfound,
    ((answer_remembered build_selfTyped).2 [] name t hfound between hbetween name rfl).1⟩

end CauseLint.Index
