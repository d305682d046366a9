import CauseLint.Proofs.Syntax.Receivers
import CauseLint.Proofs.Types.Memory
import CauseLint.Rule

/-!
# Verdicts and what was asked before

The oracle of an index remembers the types it found, so what it says of an expression, and what the
rule says of a call, could depend on what was asked before. A call is judged by the typings of nodes
below it only. When all of these have types, the verdict is the same after every history, and so
calls can be judged in any order. An expression whose typing fails shows the history: when it is
asked for again it counts as untypeable.

Results:

* `Rule.Stepwise.evaluate`: what holds of the questions about nodes below a call holds of its
  verdict.
* `Rule.settled_evaluate`: a verdict that no history changes.
* `Rule.verdicts_after_history`: what histories change and what they leave.
-/

namespace CauseLint

namespace Rule

/-- A property of computations that goes through one step after another and does not mind what is
noted on the way. -/
structure Stepwise (Q : {α : Type} → LogT (StateM Memo) α → Prop) : Prop where
  pure : ∀ {α : Type} (a : α), Q (pure a)
  bind : ∀ {α β : Type} {a : LogT (StateM Memo) α} {f : α → LogT (StateM Memo) β}, Q a →
    (∀ v, Q (f v)) → Q (a >>= f)
  note : ∀ (level : Level) (channel : Channel) (message : String), Q (note level channel message)

/-- A property holds of all questions about the types of the nodes below an expression. -/
def Asks (x : Index) (Q : {α : Type} → LogT (StateM Memo) α → Prop) (c : Cursor) : Prop :=
  ∀ d, Cursor.Below c d → Q (StateT.lift (Typing.answer (x.typeOf d)))

namespace Stepwise

variable {Q : {α : Type} → LogT (StateM Memo) α → Prop} (hQ : Stepwise Q) {x : Index} {c : Cursor}

include hQ

theorem lift_bind {α β : Type} {a : StateM Memo α} {f : α → StateM Memo β}
    (ha : Q (StateT.lift a)) (hf : ∀ v, Q (StateT.lift (f v))) : Q (StateT.lift (a >>= f)) :=
  hQ.bind (f := fun v => StateT.lift (f v)) ha hf

theorem lift_pure {α : Type} (a : α) : Q (StateT.lift (Pure.pure a)) := hQ.pure a

variable (hc : Asks x Q c)

include hc

theorem dispatchType : Q (StateT.lift (Matcher.dispatchType x.oracle c)) := by
  unfold Matcher.dispatchType
  split
  · rename_i receiver h
    obtain ⟨object, hobject, hstrip⟩ := Option.bind_eq_some_iff.1 h
    exact hc receiver ((Cursor.below_of_childByField? hobject).trans
      (Cursor.below_of_stripParens hstrip))
  · show Q (StateT.lift (Typing.answer (Index.receiverTypeWith x x.typeOf c)))
    unfold Index.receiverTypeWith
    split
    · rename_i receiver h
      exact hc receiver (Cursor.below_of_childByField? h)
    · refine hQ.lift_bind (hQ.lift_pure (x.enclosingType c.parents)) ?_
      rintro (_ | t) <;> exact hQ.lift_pure _

theorem acceptsReceiver (p : Matcher) : Q (StateT.lift (p.acceptsReceiver x.oracle c)) := by
  refine hQ.lift_bind (hQ.dispatchType hc) ?_
  intro answer
  split
  · exact hQ.lift_pure _
  · exact hQ.lift_pure _
  · split
    · exact hQ.lift_pure _
    · split
      · exact hQ.lift_pure _
      · refine hQ.lift_bind (hQ.lift_pure _) fun verdict => ?_
        split <;> exact hQ.lift_pure _
  · exact hQ.lift_pure _

theorem isMatch (p : Matcher) (u : SourceUnit) : Q (p.isMatch u x.oracle (some c)) := by
  unfold Matcher.isMatch
  split
  · exact hQ.pure _
  · rename_i call h
    have hcall : Asks x Q call := fun d hd => hc d ((Cursor.below_of_call? h).trans hd)
    split
    · exact hQ.pure _
    split
    · exact hQ.pure _
    · refine hQ.bind (hQ.acceptsReceiver hcall p) fun accepted => ?_
      split
      · exact hQ.pure _
      · exact hQ.bind (hQ.note _ _ _) fun _ => hQ.pure _

theorem isThrowable : Q (StateT.lift (isThrowable x.oracle c)) := by
  refine hQ.lift_bind (hc c (Cursor.Below.refl c)) fun answer => ?_
  split
  · exact hQ.lift_pure _
  · exact hQ.lift_pure _
  · refine hQ.lift_bind (hQ.lift_pure _) fun isNull => ?_
    split
    · exact hQ.lift_pure _
    · exact hQ.lift_pure _
    · refine hQ.lift_bind (hQ.lift_pure _) fun verdict => ?_
      split <;> exact hQ.lift_pure _

omit hc

variable {s : Subject (StateM Memo)} (hs : s.oracle = x.oracle)

include hs

theorem firstThrowable {args : List Cursor} (hargs : ∀ a ∈ args, Asks x Q a) :
    Q (firstThrowable s args) := by
  induction args with
  | nil => exact hQ.pure _
  | cons a rest ih =>
    obtain ⟨ha, hrest⟩ := List.forall_mem_cons.1 hargs
    unfold Rule.firstThrowable
    rw [hs]
    refine hQ.bind (hQ.isThrowable ha) fun answer => ?_
    split
    · exact hQ.pure _
    · exact ih hrest
    · exact hQ.bind (hQ.note _ _ _) fun _ => ih hrest

theorem anyCause {links : List Cursor} (hlinks : ∀ l ∈ links, Asks x Q l) :
    Q (anyCause s links) := by
  induction links with
  | nil => exact hQ.pure _
  | cons l rest ih =>
    obtain ⟨hl, hrest⟩ := List.forall_mem_cons.1 hlinks
    unfold Rule.anyCause isCauseCall
    rw [hs]
    refine hQ.bind (hQ.isMatch hl _ _) fun attached => ?_
    split
    · exact hQ.pure _
    · exact ih hrest

include hc

theorem chainHasCause : Q (chainHasCause s c) := by
  have hlinks : ∀ l ∈ c.links.take Cursor.maxChainDepth, Asks x Q l := fun l hl d hd =>
    hc d ((Cursor.below_of_mem_links (List.mem_of_mem_take hl)).trans hd)
  refine hQ.bind (hQ.anyCause hs hlinks) fun attached => ?_
  split
  · exact hQ.pure _
  · refine hQ.bind ?_ fun _ => hQ.pure _
    unfold noteTruncated
    split
    · exact hQ.pure _
    · exact hQ.note _ _ _

/-- What holds of the questions about the nodes below an expression, and goes through one step after
another, holds of the verdict on the expression. -/
theorem evaluate : Q (evaluate s (some c)) := by
  unfold Rule.evaluate
  split
  · exact hQ.pure _
  · rename_i call h
    have hcall : Asks x Q call := fun d hd => hc d ((Cursor.below_of_call? h).trans hd)
    have hargs : ∀ a ∈ call.arguments.reverse, Asks x Q a := fun a ha d hd =>
      hcall d ((Cursor.below_of_mem_arguments (List.mem_reverse.1 ha)).trans hd)
    have hlog : Q (isLogCall s (some call)) := by
      unfold isLogCall
      rw [hs]
      exact hQ.isMatch hcall _ _
    refine hQ.bind hlog fun isLog => ?_
    split
    · exact hQ.pure _
    refine hQ.bind (hQ.firstThrowable hs hargs) fun argument => ?_
    split
    · exact hQ.pure _
    refine hQ.bind (hQ.chainHasCause hcall hs) fun attached => ?_
    split
    · exact hQ.bind (hQ.note _ _ _) fun _ => hQ.pure _
    split <;> exact hQ.bind (hQ.note _ _ _) fun _ => hQ.pure _

omit hc

/-- It goes on to what is found among some calls. -/
theorem matchesAmong {calls : List Cursor} (hcalls : ∀ c ∈ calls, Asks x Q c) :
    Q (matchesAmong s calls) := by
  induction calls with
  | nil => exact hQ.pure _
  | cons c rest ih =>
    obtain ⟨hcall, hrest⟩ := List.forall_mem_cons.1 hcalls
    unfold Rule.matchesAmong
    refine hQ.bind (hQ.evaluate hcall hs) fun found => ?_
    split
    · exact hQ.bind (ih hrest) fun _ => hQ.pure _
    · exact ih hrest

end Stepwise

/-! ## What histories keep -/

/-- A computation keeps a property of the memory. -/
def Keeps (p : Memo → Prop) {α : Type} (a : LogT (StateM Memo) α) : Prop :=
  ∀ log memo, p memo → p ((a.run log).run memo).2

/-- A computation keeps a property of the memory and has the same value with all memories that have
it. -/
def Settled (p : Memo → Prop) {α : Type} (a : LogT (StateM Memo) α) : Prop :=
  ∃ v, ∀ log memo, p memo → ((a.run log).run memo).1.1 = v ∧ p ((a.run log).run memo).2

theorem stepwise_keeps (p : Memo → Prop) : Stepwise (Keeps p) where
  pure _ _ _ h := h
  bind ha hf log memo h := hf _ _ _ (ha log memo h)
  note _ _ _ _ _ h := h

theorem stepwise_settled (p : Memo → Prop) : Stepwise (Settled p) where
  pure a := ⟨a, fun _ _ h => ⟨rfl, h⟩⟩
  bind := by
    intro α β a f ⟨v, ha⟩ hf
    obtain ⟨w, hw⟩ := hf v
    refine ⟨w, fun log memo h => ?_⟩
    obtain ⟨hv, hp⟩ := ha log memo h
    show ((((f ((a.run log).run memo).1.1).run _).run _).1.1 = w ∧
      p (((f ((a.run log).run memo).1.1).run _).run _).2)
    rw [hv]
    exact hw _ _ hp
  note _ _ _ := ⟨(), fun _ _ h => ⟨rfl, h⟩⟩

/-- What an oracle answers for what a typing comes to. -/
def answerOf : Except Endless StaticType → Except Failure Answer
  | .ok t => .ok (.type t)
  | .error .endless => .error .endless

theorem run_answer (a : Typing StaticType) (memo : Memo) :
    (Typing.answer a).run memo = (answerOf (Index.outcome a memo), Index.memoAfter a memo) := by
  show StateT.run (match Index.outcome a memo with
      | .ok t => (pure (Except.ok (.type t)) : StateM Memo (Except Failure Answer))
      | .error .endless => pure (Except.error .endless)) (Index.memoAfter a memo) = _
  cases Index.outcome a memo with
  | error e => cases e; rfl
  | ok t => rfl

theorem answerOf_eq_error {e : Except Endless StaticType} {f : Failure}
    (h : answerOf e = .error f) : e = .error .endless := by
  cases e with
  | error e => cases e; rfl
  | ok t => cases h

section

variable {x : Index} (hx : x.Rooted) {c : Cursor} (hc : Cursor.Below x.unit.root c)

include hx hc

/-- What is remembered of a node stays. -/
theorem asks_keeps_entry (k : NodeKey) (t : StaticType) :
    Asks x (Keeps fun memo => memo.get? k = some t) c := by
  intro d hd log memo h
  show ((Typing.answer (x.typeOf d)).run memo).2.get? k = some t
  rw [run_answer]
  exact Index.keeps_entry hx k t _ d (hc.trans hd) memo h

variable (hkeys : x.KeysApart)

include hkeys

theorem asks_keeps_sound : Asks x (Keeps (x.Sound [])) c := by
  intro d hd log memo h
  show x.Sound [] ((Typing.answer (x.typeOf d)).run memo).2
  rw [run_answer]
  exact Index.sound_typeOf hx hkeys (hc.trans hd) memo h

theorem asks_settled (htyped : x.Typed c) :
    Asks x (Settled (x.Sound [])) c := by
  intro d hd
  obtain ⟨t, ht⟩ := htyped d hd
  refine ⟨.ok (.type t), fun log memo h => ?_⟩
  show ((Typing.answer (x.typeOf d)).run memo).1 = .ok (.type t) ∧
    x.Sound [] ((Typing.answer (x.typeOf d)).run memo).2
  rw [run_answer, Index.outcome_of_hasType hx hkeys (hc.trans hd) ht h]
  exact ⟨rfl, Index.sound_typeOf hx hkeys (hc.trans hd) memo h⟩

end

/-- What an oracle can remember after it was asked for types and calls were judged with it, in any
order. -/
inductive After (s : Subject (StateM Memo)) (start : Memo) : Memo → Prop
  | start : After s start start
  | typed {memo : Memo} {c : Cursor} : After s start memo → Cursor.Below s.unit.root c →
    After s start ((s.oracle.typeOf c).run memo).2
  | judged {memo : Memo} {c : Cursor} (log : Log) : After s start memo →
    Cursor.Below s.unit.root c → After s start (((evaluate s (some c)).run log).run memo).2

/-- What all questions about the nodes of the unit keep is kept by every history. -/
theorem After.keeps {s : Subject (StateM Memo)} {x : Index} (hs : s.oracle = x.oracle)
    {p : Memo → Prop} (hp : ∀ c, Cursor.Below s.unit.root c → Asks x (Keeps p) c)
    {start memo : Memo} (h : After s start memo) (hstart : p start) : p memo := by
  induction h with
  | start => exact hstart
  | typed _ hc ih =>
    rw [hs]
    exact hp _ hc _ (Cursor.Below.refl _) [] _ ih
  | judged log _ hc ih => exact (stepwise_keeps p).evaluate (hp _ hc) hs log _ ih

/-- What is remembered after a history is sound. -/
theorem After.sound {x : Index} (hx : x.Rooted) (hkeys : x.KeysApart) {render : Cursor → String}
    {memo : Memo} (h : After { unit := x.unit, oracle := x.oracle, render } {} memo) :
    x.Sound [] memo :=
  h.keeps rfl (fun _ hc => asks_keeps_sound hx hc hkeys) (x.sound_empty [])

/-- What is found among calls whose verdicts no history changes. -/
theorem fst_run_run_bind {σ τ α β : Type} {x : StateT σ (StateM τ) α}
    {f : α → StateT σ (StateM τ) β} {s : σ} {t : τ} {a : α} (h : ((x.run s).run t).1.1 = a) :
    (((x >>= f).run s).run t).1.1 =
      (((f a).run ((x.run s).run t).1.2).run ((x.run s).run t).2).1.1 := by
  subst h
  rfl

theorem matchesAmong_of_settled {s : Subject (StateM Memo)} {p : Memo → Prop}
    {verdict : Cursor → Option Match} {calls : List Cursor}
    (h : ∀ c ∈ calls, ∀ log memo, p memo →
      (((evaluate s (some c)).run log).run memo).1.1 = verdict c ∧
        p (((evaluate s (some c)).run log).run memo).2) (log : Log) {memo : Memo} (hp : p memo) :
    (((matchesAmong s calls).run log).run memo).1.1 = calls.filterMap verdict := by
  induction calls generalizing log memo with
  | nil => rfl
  | cons c rest ih =>
    obtain ⟨hc, hrest⟩ := List.forall_mem_cons.1 h
    obtain ⟨hv, hafter⟩ := hc log memo hp
    have hrest := ih hrest (((evaluate s (some c)).run log).run memo).1.2 hafter
    rw [matchesAmong, List.filterMap_cons, fst_run_run_bind hv]
    cases verdict c with
    | none => exact hrest
    | some found => exact congrArg (found :: ·) hrest

/-- Histories of questions and verdicts leave the type of every expression that has one, and the
verdict on every call below which all expressions have types; among such calls the same are found in
every order. An expression whose typing fails counts as untypeable when it is asked for again. The
stack is idealised: a typing fails when it never ends, not when it only goes deep. -/
theorem verdicts_after_history {u : SourceUnit} {parent : Hierarchy} {x : Index}
    (hx : Index.build u parent = .ok x) (hkeys : x.KeysApart) (render : Cursor → String) :
    let s : Subject (StateM Memo) := { unit := u, oracle := x.oracle, render }
    (∀ c t, Cursor.Below u.root c → x.HasType c t → ∀ memo, After s {} memo →
      ((s.oracle.typeOf c).run memo).1 = .ok (.type t)) ∧
    (∀ c failure memo, Cursor.Below u.root c →
      ((s.oracle.typeOf c).run memo).1 = .error failure →
        ∀ later, After s ((s.oracle.typeOf c).run memo).2 later →
          ((s.oracle.typeOf c).run later).1 = .ok (.type .errorType)) ∧
    (∀ c, Cursor.Below u.root c → x.Typed c → ∀ memo memo' log log', After s {} memo →
      After s {} memo' → (((evaluate s (some c)).run log).run memo).1.1 =
        (((evaluate s (some c)).run log').run memo').1.1) ∧
    ∀ calls calls', calls.Perm calls' → (∀ c ∈ calls, Cursor.Below u.root c ∧ x.Typed c) →
      ∀ log log', (((matchesAmong s calls).run log).run {}).1.1.Perm
        (((matchesAmong s calls').run log').run {}).1.1 := by
  intro s
  obtain ⟨rfl, hrooted⟩ := Index.rooted_of_build hx
  have hsound : ∀ memo, After s {} memo → x.Sound [] memo := fun memo h =>
    h.keeps rfl (fun c hc => asks_keeps_sound hrooted hc hkeys) (x.sound_empty [])
  have hsettled : ∀ c, Cursor.Below x.unit.root c → x.Typed c →
      Settled (x.Sound []) (evaluate s (some c)) := fun c hc htyped =>
    (stepwise_settled _).evaluate (asks_settled hrooted hc hkeys htyped) rfl
  refine ⟨?_, ?_, ?_, ?_⟩
  · intro c t hc ht memo hmemo
    show ((Typing.answer (x.typeOf c)).run memo).1 = _
    rw [run_answer, Index.outcome_of_hasType hrooted hkeys hc ht (hsound memo hmemo)]
    rfl
  · intro c failure memo hc hfails later hlater
    have hfails : ((Typing.answer (x.typeOf c)).run memo).1 = .error failure := hfails
    rw [run_answer] at hfails
    have hentry : later.get? c.key = some .errorType := by
      refine hlater.keeps (p := fun memo => memo.get? c.key = some .errorType) rfl
        (fun d hd => asks_keeps_entry hrooted hd c.key .errorType) ?_
      show ((Typing.answer (x.typeOf c)).run memo).2.get? c.key = some .errorType
      rw [run_answer]
      exact Index.remembered_after_failure hrooted hc (answerOf_eq_error hfails)
    show ((Typing.answer (x.typeOf c)).run later).1 = _
    rw [run_answer, Index.typeOf, (Index.typeOfWithin_hit hentry).1]
    rfl
  · intro c hc htyped memo memo' log log' hmemo hmemo'
    obtain ⟨v, hv⟩ := hsettled c hc htyped
    rw [(hv log memo (hsound memo hmemo)).1, (hv log' memo' (hsound memo' hmemo')).1]
  · intro calls calls' hperm hcalls log log'
    have hfound : ∀ c ∈ calls, ∀ log memo, x.Sound [] memo →
        (((evaluate s (some c)).run log).run memo).1.1 =
            (((evaluate s (some c)).run []).run {}).1.1 ∧
          x.Sound [] (((evaluate s (some c)).run log).run memo).2 := by
      intro c hc log memo hmemo
      obtain ⟨v, hv⟩ := hsettled c (hcalls c hc).1 (hcalls c hc).2
      rw [(hv [] {} (x.sound_empty [])).1]
      exact hv log memo hmemo
    rw [matchesAmong_of_settled hfound log (x.sound_empty []),
      matchesAmong_of_settled (fun c hc => hfound c (hperm.mem_iff.2 hc)) log'
        (x.sound_empty [])]
    exact hperm.filterMap _

/-- The unit of a class whose type variable occurs in its own bound and types a parameter. -/
def selfTyped : SourceUnit where
  path := "N.java"
  source := Utf8.ofText "class N<T extends Comparable<T>> \x7b void f(T t) \x7b t.log(t); \x7d \x7d"
  tree :=
    .node { kind := "program", start := 0, stop := 62 } [
      .node { kind := "class_declaration", start := 0, stop := 62 } [
        .node { kind := "class", isNamed := false, start := 0, stop := 5 } [],
        .node { kind := "identifier", start := 6, stop := 7, field := some "name" } [],
        .node { kind := "type_parameters", start := 7, stop := 32,
                field := some "type_parameters" } [
          .node { kind := "<", isNamed := false, start := 7, stop := 8 } [],
          .node { kind := "type_parameter", start := 8, stop := 31 } [
            .node { kind := "type_identifier", start := 8, stop := 9 } [],
            .node { kind := "type_bound", start := 10, stop := 31 } [
              .node { kind := "extends", isNamed := false, start := 10, stop := 17 } [],
              .node { kind := "generic_type", start := 18, stop := 31 } [
                .node { kind := "type_identifier", start := 18, stop := 28 } [],
                .node { kind := "type_arguments", start := 28, stop := 31 } [
                  .node { kind := "<", isNamed := false, start := 28, stop := 29 } [],
                  .node { kind := "type_identifier", start := 29, stop := 30 } [],
                  .node { kind := ">", isNamed := false, start := 30, stop := 31 } []]]]],
          .node { kind := ">", isNamed := false, start := 31, stop := 32 } []],
        .node { kind := "class_body", start := 33, stop := 62, field := some "body" } [
          .node { kind := "\x7b", isNamed := false, start := 33, stop := 34 } [],
          .node { kind := "method_declaration", start := 35, stop := 60 } [
            .node { kind := "void_type", start := 35, stop := 39, field := some "type" } [],
            .node { kind := "identifier", start := 40, stop := 41, field := some "name" } [],
            .node { kind := "formal_parameters", start := 41, stop := 46,
                    field := some "parameters" } [
              .node { kind := "(", isNamed := false, start := 41, stop := 42 } [],
              .node { kind := "formal_parameter", start := 42, stop := 45 } [
                .node { kind := "type_identifier", start := 42, stop := 43,
                        field := some "type" } [],
                .node { kind := "identifier", start := 44, stop := 45, field := some "name" } []],
              .node { kind := ")", isNamed := false, start := 45, stop := 46 } []],
            .node { kind := "block", start := 47, stop := 60, field := some "body" } [
              .node { kind := "\x7b", isNamed := false, start := 47, stop := 48 } [],
              .node { kind := "expression_statement", start := 49, stop := 58 } [
                .node { kind := "method_invocation", start := 49, stop := 57 } [
                  .node { kind := "identifier", start := 49, stop := 50,
                          field := some "object" } [],
                  .node { kind := ".", isNamed := false, start := 50, stop := 51 } [],
                  .node { kind := "identifier", start := 51, stop := 54,
                          field := some "name" } [],
                  .node { kind := "argument_list", start := 54, stop := 57,
                          field := some "arguments" } [
                    .node { kind := "(", isNamed := false, start := 54, stop := 55 } [],
                    .node { kind := "identifier", start := 55, stop := 56 } [],
                    .node { kind := ")", isNamed := false, start := 56, stop := 57 } []]],
                .node { kind := ";", isNamed := false, start := 57, stop := 58 } []],
              .node { kind := "\x7d", isNamed := false, start := 59, stop := 60 } []]],
          .node { kind := "\x7d", isNamed := false, start := 61, stop := 62 } []]]]

/-- The index of the class over an empty hierarchy. -/
def selfTypedIndex : Index :=
  match Index.build selfTyped {} with
  | .ok x => x
  | .error _ => { unit := selfTyped, hierarchy := {} }

/-- The node of some kind that begins at an offset. -/
def nodeAt (u : SourceUnit) (kind : String) (start : Nat) : Cursor :=
  (u.root.preorder.find? fun c => c.kind = kind && c.start = start).getD u.root

theorem below_nodeAt (u : SourceUnit) (kind : String) (start : Nat) :
    Cursor.Below u.root (nodeAt u kind start) := by
  unfold nodeAt
  cases h : u.root.preorder.find? fun c => c.kind = kind && c.start = start with
  | none => exact Cursor.Below.refl _
  | some c => exact Cursor.mem_preorder_iff.1 (List.mem_of_find?_eq_some h)

/-- Why something fails, if it does. -/
def failure? {α : Type} : Except Failure α → Option Failure
  | .error f => some f
  | .ok _ => none

/-- The parameter in the body fails to get a type and counts as untypeable from then on, while the
name of the class means the class before and after. -/
theorem verdicts_after_history_selfTyped :
    Index.build selfTyped {} = .ok selfTypedIndex ∧ selfTypedIndex.KeysApart ∧
    let ask (c : Cursor) := (selfTypedIndex.oracle.typeOf c).run
    let parameter := nodeAt selfTyped "identifier" 49
    (ask parameter {}).1 = .error .endless ∧
    (ask parameter (ask parameter {}).2).1 = .ok (.type .errorType) ∧
    ∃ t, t.text = "N" ∧ (ask (nodeAt selfTyped "identifier" 6) {}).1 = .ok (.type t) ∧
      (ask (nodeAt selfTyped "identifier" 6) (ask parameter {}).2).1 = .ok (.type t) := by
  have hbuild : Index.build selfTyped {} = .ok selfTypedIndex := by
    unfold selfTypedIndex
    cases h : Index.build selfTyped {} with
    | ok x => rfl
    | error e =>
      have hok : (Index.build selfTyped {}).isOk = true := by decide +kernel
      rw [h] at hok
      cases hok
  have hkeys : selfTypedIndex.KeysApart := by
    unfold Index.KeysApart
    decide +kernel
  obtain ⟨hknown, hfailed, -, -⟩ := verdicts_after_history hbuild hkeys selfTyped.textOf
  have hfails : ((selfTypedIndex.oracle.typeOf (nodeAt selfTyped "identifier" 49)).run {}).1 =
      .error .endless := by
    have hsome : failure? ((selfTypedIndex.oracle.typeOf
        (nodeAt selfTyped "identifier" 49)).run {}).1 = some .endless := by decide +kernel
    cases hf : ((selfTypedIndex.oracle.typeOf (nodeAt selfTyped "identifier" 49)).run {}).1 with
    | error f =>
      rw [hf] at hsome
      rw [Option.some.inj hsome]
    | ok answer =>
      rw [hf] at hsome
      cases hsome
  have htype : ∃ t, t.text = "N" ∧ selfTypedIndex.HasType (nodeAt selfTyped "identifier" 6) t := by
    have hsome : (Index.outcome (selfTypedIndex.plainWithin 1
        (nodeAt selfTyped "identifier" 6)) {}).toOption.map (·.text) = some "N" := by
      decide +kernel
    cases ht : Index.outcome (selfTypedIndex.plainWithin 1
        (nodeAt selfTyped "identifier" 6)) {} with
    | error failure =>
      rw [ht] at hsome
      cases hsome
    | ok t =>
      rw [ht] at hsome
      exact ⟨t, Option.some.inj hsome, 1, ht⟩
  obtain ⟨t, htext, ht⟩ := htype
  refine ⟨hbuild, hkeys, hfails, ?_, t, htext, ?_, ?_⟩
  · exact hfailed _ _ _ (below_nodeAt _ _ _) hfails _ .start
  · exact hknown _ t (below_nodeAt _ _ _) ht _ .start
  · exact hknown _ t (below_nodeAt _ _ _) ht _ (.typed .start (below_nodeAt _ _ _))

end Rule

end CauseLint
