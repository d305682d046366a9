import CauseLint.Hierarchy.Builtin
import CauseLint.Proofs.Rule.Chains
import CauseLint.Proofs.Rule.History

/-!
# Fluent calls

Methods that return their own receiver can be called one behind another. A chain of such calls has
the type of the expression it begins at, type arguments included, as long as nothing about the chain
is remembered but the type of that expression; a class that the expression names becomes a value.
The typing goes down the chain, each node under its own placeholder, and these are placeholders of
different nodes, so none of them is met again. But each call waits for the one before it, and so do
parentheses for what they enclose, so a chain needs room for all its typings at once.

Results:

* `Index.returnType_of_self`: what a method returns whose nearest entry is the receiver itself.
* `Cursor.depth_of_chain`: a chain is as deep as it has calls, or up to twice as deep.
* `Index.outcome_typeOfBy_of_chain`: the type of a chain, or no room for it, by induction along it.
* `Rule.fluent_chain_typed_iff_room`: the same of the oracle, and the log statement behind the
  chain.
-/

namespace CauseLint

namespace Cursor

/-- An expression inside nested parentheses, the outermost first, of which there are no more than
are looked through. -/
def Enclosed (parens : List Cursor) (c d : Cursor) : Prop :=
  Wraps parens c d ∧ parens.length ≤ maxChainDepth ∧
    (parens ≠ [] → d.kind ≠ "parenthesized_expression")

/-- Calls behind one another on a base expression: the calls, and all nodes of the chain but the
base, both from the outside in; and how many typings wait for one another, one for each call and one
for the parentheses around a receiver, however many there are. -/
inductive CallChain (base : Cursor) : Cursor → List Cursor → List Cursor → Nat → Prop
  | base : CallChain base base [] [] 0
  | call {c receiver d : Cursor} {parens calls nodes : List Cursor} {depth : Nat} :
    c.kind = "method_invocation" → c.object? = some receiver → Enclosed parens receiver d →
    CallChain base d calls nodes depth →
    CallChain base c (c :: calls) (c :: (parens ++ nodes)) (depth + min parens.length 1 + 1)

/-- A chain is as deep as it has calls, or up to twice as deep. -/
theorem depth_of_chain {base c : Cursor} {calls nodes : List Cursor} {depth : Nat}
    (h : CallChain base c calls nodes depth) :
    calls.length ≤ depth ∧ depth ≤ 2 * calls.length := by
  induction h with
  | base => exact ⟨Nat.le_refl _, Nat.le_refl _⟩
  | call _ _ _ _ ih =>
    rw [List.length_cons]
    omega

/-- What stands in parentheses is what is found inside them. -/
theorem Enclosed.stripParens {parens : List Cursor} {c d : Cursor} (h : Enclosed parens c d)
    (hne : parens ≠ []) : c.stripParens = some d :=
  stripParens_eq_some_iff.2 ⟨h.2.2 hne, parens, h.2.1, h.1⟩

/-- A chain with calls in it is found inside the parentheses around it. -/
theorem stripParens_of_chain {base c receiver : Cursor} {calls nodes parens : List Cursor}
    {depth : Nat} (hchain : CallChain base c calls nodes depth) (hcalls : calls ≠ [])
    (h : Enclosed parens receiver c) : receiver.stripParens = some c := by
  obtain ⟨hwraps, hlength, -⟩ := h
  refine stripParens_eq_some_iff.2 ⟨?_, parens, hlength, hwraps⟩
  cases hchain with
  | base => exact absurd rfl hcalls
  | call hkind _ _ _ => rw [hkind]; decide

end Cursor

namespace Index

open Cursor (Enclosed CallChain)

variable {x : Index}

/-! ## Methods that return their receiver -/

/-- The first entry of a method in some classes: its declarations in the unit, or what the hierarchy
says that it returns. -/
def entryAmong? (x : Index) (method : String) : List String → Option (List Cursor ⊕ String)
  | [] => none
  | c :: rest =>
    match (x.classes.get? c).bind fun d => d.methods.get? method with
    | some declarations => some (.inl declarations)
    | none =>
      match (x.hierarchy.get? c).bind fun info => info.methods.get? method with
      | some marker => some (.inr marker)
      | none => x.entryAmong? method rest

@[simp] theorem entryAmong?_within (room : Nat) (method : String) (classes : List String) :
    (x.within room).entryAmong? method classes = x.entryAmong? method classes := by
  induction classes with
  | nil => rfl
  | cons c rest ih =>
    rw [entryAmong?, entryAmong?, ih]
    rfl

/-- A method whose nearest entry is the receiver itself returns a value of the receiver's type. -/
theorem returnType_of_self {method : String} {arity : Nat} {receiver : StaticType}
    {classes : List String} (h : x.entryAmong? method classes = some (.inr selfMarker)) :
    returnType x method arity receiver classes = pure receiver.asInstance := by
  induction classes with
  | nil => cases h
  | cons c rest ih =>
    rw [entryAmong?] at h
    rw [returnType]
    cases hunit : (x.classes.get? c).bind fun d => d.methods.get? method with
    | some declarations =>
      rw [hunit] at h
      cases h
    | none =>
      rw [hunit] at h
      cases hentry : (x.hierarchy.get? c).bind fun info => info.methods.get? method with
      | none =>
        rw [hentry] at h
        exact ih h
      | some marker =>
        rw [hentry] at h
        obtain rfl : marker = selfMarker := Sum.inr.inj (Option.some.inj h)
        simp [markedType]

/-! ## The type of a chain -/

/-- What a typing comes to in some room when it needs a given depth. -/
def typedFrom (depth : Nat) (t : StaticType) (room : Nat) : Except Endless StaticType :=
  if depth ≤ room then .ok t else .error .endless

@[simp] theorem typedFrom_succ_zero (depth : Nat) (t : StaticType) :
    typedFrom (depth + 1) t 0 = .error .endless := rfl

@[simp] theorem typedFrom_succ_succ (depth : Nat) (t : StaticType) (room : Nat) :
    typedFrom (depth + 1) t (room + 1) = typedFrom depth t room := by
  simp only [typedFrom, Nat.add_le_add_iff_right]

section

variable {memo : Memo} {name : String} {args : List StaticType}

/-- An expression in parentheses has the type of what they enclose, which is asked for with a
placeholder for the parentheses and in one place less. -/
theorem outcome_typeOfBy_of_enclosed {parens : List Cursor} {c d : Cursor}
    (h : Enclosed parens c d) (hnew : ∀ p ∈ parens, memo.get? p.key = none) {depth : Nat}
    {t : StaticType}
    (hd : ∀ room memo', (∀ k, (∀ p ∈ parens, p.key ≠ k) → memo'.get? k = memo.get? k) →
      outcome (typeOfBy x.within room d) memo' = typedFrom depth t room) (room : Nat) :
    outcome (typeOfBy x.within room c) memo = typedFrom (depth + min parens.length 1) t room := by
  cases hparens : parens with
  | nil =>
    obtain ⟨hwraps, -⟩ := h
    rw [hparens] at hwraps
    cases hwraps
    exact hd room memo fun _ _ => rfl
  | cons p rest =>
    have hstrip : c.stripParens = some d := h.stripParens (by simp [hparens])
    have hdepth : min (p :: rest).length 1 = 1 := by simp
    obtain ⟨hwraps, -⟩ := h
    rw [hparens] at hwraps
    rw [hdepth]
    cases hwraps with
    | paren hkind _ _ =>
      have hmiss : memo.get? c.key = none := hnew c (by simp [hparens])
      cases room with
      | zero =>
        rw [outcome_typeOfBy_zero hmiss, typedFrom_succ_zero]
      | succ room =>
        rw [outcome_typeOfBy_succ hmiss, compute, hkind]
        show outcome (typeOf? (typeOfBy x.within room) c.stripParens) _ = _
        rw [hstrip, typedFrom_succ_succ]
        refine hd room _ fun k hk => ?_
        have hne : ¬ (k == c.key) = true := fun heq =>
          hk c (by simp [hparens]) (eq_of_beq heq).symm
        rw [Table.get?_insert, if_neg hne]

/-- A call returns a value of its receiver's type when the nearest entry of its method is the
receiver itself; where there is no room for its receiver there is none for the call. -/
theorem outcome_compute_of_self {c receiver : Cursor} {f : Cursor → Typing StaticType} {flag : Bool}
    {depth room : Nat} (hkind : c.kind = "method_invocation") (hobject : c.object? = some receiver)
    (hself : x.entryAmong? (x.unit.methodName c) (x.hierarchy.ancestors name) =
      some (.inr selfMarker))
    (hreceiver : outcome (f receiver) memo = typedFrom depth (.cls name args flag) room) :
    outcome (compute x f c) memo = typedFrom depth (.cls name args false) room := by
  rw [compute, hkind]
  show outcome (callType x f c) memo = _
  rw [callType, receiverTypeWith, hobject]
  dsimp only
  rw [outcome_bind, hreceiver]
  by_cases hroom : depth ≤ room
  · rw [typedFrom, typedFrom, if_pos hroom, if_pos hroom]
    dsimp only
    rw [returnType_of_self hself]
    rfl
  · rw [typedFrom, typedFrom, if_neg hroom, if_neg hroom]

/-- A chain of calls that return their receivers has the type of its base, as a value when there is
a call, wherever there is room for it. The induction is along the chain: every step remembers a
placeholder for nodes that the rest of the chain does not have. -/
theorem outcome_typeOfBy_of_chain {base c : Cursor} {calls nodes : List Cursor} {depth : Nat}
    {flag : Bool} (h : CallChain base c calls nodes depth)
    (hself : ∀ call ∈ calls, x.entryAmong? (x.unit.methodName call) (x.hierarchy.ancestors name) =
      some (.inr selfMarker))
    (hkeys : ((nodes ++ [base]).map Cursor.key).Nodup)
    (hbase : memo.get? base.key = some (.cls name args flag))
    (hnew : ∀ d ∈ nodes, memo.get? d.key = none) (room : Nat) :
    outcome (typeOfBy x.within room c) memo =
      typedFrom depth (.cls name args (calls.isEmpty && flag)) room := by
  induction h generalizing memo room with
  | base => exact (typeOfBy_hit hbase).1
  | @call c receiver d parens calls nodes depth hkind hobject henclosed _ ih =>
    obtain ⟨hselfc, hself⟩ := List.forall_mem_cons.1 hself
    obtain ⟨hnewc, hnew⟩ := List.forall_mem_cons.1 hnew
    rw [List.forall_mem_append] at hnew
    rw [List.cons_append, List.map_cons, List.nodup_cons, List.append_assoc] at hkeys
    obtain ⟨hapartc, hkeys⟩ := hkeys
    rw [List.map_append, List.nodup_append] at hkeys
    obtain ⟨-, hkeys, hapart⟩ := hkeys
    cases room with
    | zero =>
      rw [outcome_typeOfBy_zero hnewc, typedFrom_succ_zero]
    | succ room =>
      have hframe : ∀ e ∈ parens ++ (nodes ++ [base]),
          (memo.insert c.key .errorType).get? e.key = memo.get? e.key := by
        intro e he
        have hne : ¬ (e.key == c.key) = true := fun heq =>
          hapartc (List.mem_map.2 ⟨e, he, eq_of_beq heq⟩)
        rw [Table.get?_insert, if_neg hne]
      have hreceiver : outcome (typeOfBy x.within room receiver)
          (memo.insert c.key .errorType) =
            typedFrom (depth + min parens.length 1) (.cls name args (calls.isEmpty && flag))
              room := by
        refine outcome_typeOfBy_of_enclosed henclosed
          (fun p hp => (hframe p (List.mem_append_left _ hp)).trans (hnew.1 p hp)) ?_ room
        intro room' memo' hmemo'
        have hframe' : ∀ e ∈ nodes ++ [base], memo'.get? e.key = memo.get? e.key := fun e he =>
          (hmemo' e.key fun p hp =>
            hapart _ (List.mem_map_of_mem hp) _ (List.mem_map_of_mem he)).trans
              (hframe e (List.mem_append_right _ he))
        refine ih hself hkeys ((hframe' base (by simp)).trans hbase) (fun e he => ?_) room'
        exact (hframe' e (List.mem_append_left _ he)).trans (hnew.2 e he)
      rw [outcome_typeOfBy_succ hnewc, typedFrom_succ_succ]
      exact outcome_compute_of_self (x := x.within room) hkind hobject
        ((entryAmong?_within room _ _).trans hselfc) hreceiver

end

end Index

namespace Rule

open Cursor (Enclosed CallChain)

/-- The oracle's answer about a chain of calls that return their receivers, or none where there is no
room for the chain. -/
theorem run_typeOf_of_chain {x : Index} {base c : Cursor} {calls nodes : List Cursor} {depth : Nat}
    {memo : Memo} {name : String} {args : List StaticType} {flag : Bool}
    (hchain : CallChain base c calls nodes depth) (hcalls : calls ≠ [])
    (hkeys : ((nodes ++ [base]).map Cursor.key).Nodup)
    (hbase : memo.get? base.key = some (.cls name args flag))
    (hnew : ∀ d ∈ nodes, memo.get? d.key = none)
    (hself : ∀ call ∈ calls, x.entryAmong? (x.unit.methodName call) (x.hierarchy.ancestors name) =
      some (.inr selfMarker)) :
    ((x.oracleInRoom.typeOf c).run memo).1 =
      if depth ≤ x.room then .ok (.type (StaticType.cls name args flag).asInstance)
      else .error .endless := by
  have htype := Index.outcome_typeOfBy_of_chain hchain hself hkeys hbase hnew x.room
  rw [List.isEmpty_eq_false_iff.2 hcalls, Bool.false_and, Index.typedFrom] at htype
  show ((Typing.answer (x.typeOfInRoom c)).run memo).1 = _
  rw [run_answer]
  show answerOf (Index.outcome (Index.typeOfBy x.within x.room c) memo) = _
  rw [htype]
  split <;> rfl

/-- Calls behind one another that return their receivers keep the type of the base expression, as a
value and with its type arguments, exactly where there is room for as many typings as the chain is
deep; otherwise there is no answer. So a call of `log` behind them on a type of the logging
interface emits a log statement exactly where there is that room: a longer chain hides it. -/
theorem fluent_chain_typed_iff_room {x : Index} {base c : Cursor} {calls nodes : List Cursor}
    {depth : Nat} {memo : Memo} {name : String} {args : List StaticType} {flag : Bool}
    (hchain : CallChain base c calls nodes depth) (hcalls : calls ≠ [])
    (hkeys : ((nodes ++ [base]).map Cursor.key).Nodup)
    (hbase : memo.get? base.key = some (.cls name args flag))
    (hnew : ∀ d ∈ nodes, memo.get? d.key = none)
    (hself : ∀ call ∈ calls, x.entryAmong? (x.unit.methodName call) (x.hierarchy.ancestors name) =
      some (.inr selfMarker)) :
    ((x.oracleInRoom.typeOf c).run memo).1 =
      (if depth ≤ x.room then .ok (.type (StaticType.cls name args flag).asInstance)
        else .error .endless) ∧
    (x.hierarchy.subtyping name loggingApi = .yes →
      ∀ (call receiver : Cursor) (parens : List Cursor), call.kind = "method_invocation" →
        x.unit.methodName call = "log" → call.object? = some receiver →
        Enclosed parens receiver c → ∀ (render : Cursor → String) (log : Log),
          let s : Subject (StateM Memo) := { unit := x.unit, oracle := x.oracleInRoom, render }
          ((((isLogCall s (some call)).run log).run memo).1.1 = true ↔ depth ≤ x.room)) := by
  have hanswer := run_typeOf_of_chain hchain hcalls hkeys hbase hnew hself
  refine ⟨hanswer, ?_⟩
  intro hsub call receiver parens hkind hname hobject henclosed render log s
  have hstrip := Cursor.stripParens_of_chain hchain hcalls henclosed
  have hdispatch : Matcher.dispatchType x.oracleInRoom call = x.oracleInRoom.typeOf c := by
    rw [Matcher.dispatchType, hobject, Option.bind_some, hstrip]
  have hbare : call.stripParens = some call :=
    Cursor.stripParens_of_kind_ne (by rw [hkind]; decide)
  refine (isMatch_iff_saysApiCall hbare log memo).trans ?_
  unfold SaysApiCall
  dsimp only
  rw [hdispatch, hanswer]
  constructor
  · rintro ⟨-, -, owner, targs, hfound, -⟩
    by_contra hdeep
    rw [if_neg hdeep] at hfound
    cases hfound
  · intro hroom
    exact ⟨hkind, hname, name, args, if_pos hroom, congrArg Except.ok hsub⟩

/-- A type below the logging interface, one method of which returns its receiver. -/
def fluentTypes : Hierarchy :=
  [Hierarchy.classInfo objectClass [],
   Hierarchy.interfaceInfo loggingApi [] [("every", selfMarker)],
   Hierarchy.interfaceInfo "Api" [loggingApi]].foldl Hierarchy.declare {}

/-- The unit of a class whose method logs behind two calls that limit the rate, one of them in
parentheses. -/
def rateLimited : SourceUnit where
  path := "F.java"
  source := Utf8.ofText ("class F \x7b void f(Api<X> l) \x7b " ++
    "(l.every(1)).every(2).log(e); \x7d \x7d")
  tree :=
    .node { kind := "program", start := 0, stop := 62 } [
      .node { kind := "class_declaration", start := 0, stop := 62 } [
        .node { kind := "class", isNamed := false, start := 0, stop := 5 } [],
        .node { kind := "identifier", start := 6, stop := 7, field := some "name" } [],
        .node { kind := "class_body", start := 8, stop := 62, field := some "body" } [
          .node { kind := "\x7b", isNamed := false, start := 8, stop := 9 } [],
          .node { kind := "method_declaration", start := 10, stop := 60 } [
            .node { kind := "void_type", start := 10, stop := 14, field := some "type" } [],
            .node { kind := "identifier", start := 15, stop := 16, field := some "name" } [],
            .node { kind := "formal_parameters", start := 16, stop := 26,
                    field := some "parameters" } [
              .node { kind := "(", isNamed := false, start := 16, stop := 17 } [],
              .node { kind := "formal_parameter", start := 17, stop := 25 } [
                .node { kind := "generic_type", start := 17, stop := 23, field := some "type" } [
                  .node { kind := "type_identifier", start := 17, stop := 20 } [],
                  .node { kind := "type_arguments", start := 20, stop := 23 } [
                    .node { kind := "<", isNamed := false, start := 20, stop := 21 } [],
                    .node { kind := "type_identifier", start := 21, stop := 22 } [],
                    .node { kind := ">", isNamed := false, start := 22, stop := 23 } []]],
                .node { kind := "identifier", start := 24, stop := 25, field := some "name" } []],
              .node { kind := ")", isNamed := false, start := 25, stop := 26 } []],
            .node { kind := "block", start := 27, stop := 60, field := some "body" } [
              .node { kind := "\x7b", isNamed := false, start := 27, stop := 28 } [],
              .node { kind := "expression_statement", start := 29, stop := 58 } [
                .node { kind := "method_invocation", start := 29, stop := 57 } [
                  .node { kind := "method_invocation", start := 29, stop := 50,
                          field := some "object" } [
                    .node { kind := "parenthesized_expression", start := 29, stop := 41,
                            field := some "object" } [
                      .node { kind := "(", isNamed := false, start := 29, stop := 30 } [],
                      .node { kind := "method_invocation", start := 30, stop := 40 } [
                        .node { kind := "identifier", start := 30, stop := 31,
                                field := some "object" } [],
                        .node { kind := ".", isNamed := false, start := 31, stop := 32 } [],
                        .node { kind := "identifier", start := 32, stop := 37,
                                field := some "name" } [],
                        .node { kind := "argument_list", start := 37, stop := 40,
                                field := some "arguments" } [
                          .node { kind := "(", isNamed := false, start := 37, stop := 38 } [],
                          .node { kind := "decimal_integer_literal", start := 38, stop := 39 } [],
                          .node { kind := ")", isNamed := false, start := 39, stop := 40 } []]],
                      .node { kind := ")", isNamed := false, start := 40, stop := 41 } []],
                    .node { kind := ".", isNamed := false, start := 41, stop := 42 } [],
                    .node { kind := "identifier", start := 42, stop := 47,
                            field := some "name" } [],
                    .node { kind := "argument_list", start := 47, stop := 50,
                            field := some "arguments" } [
                      .node { kind := "(", isNamed := false, start := 47, stop := 48 } [],
                      .node { kind := "decimal_integer_literal", start := 48, stop := 49 } [],
                      .node { kind := ")", isNamed := false, start := 49, stop := 50 } []]],
                  .node { kind := ".", isNamed := false, start := 50, stop := 51 } [],
                  .node { kind := "identifier", start := 51, stop := 54,
                          field := some "name" } [],
                  .node { kind := "argument_list", start := 54, stop := 57,
                          field := some "arguments" } [
                    .node { kind := "(", isNamed := false, start := 54, stop := 55 } [],
                    .node { kind := "identifier", start := 55, stop := 56 } [],
                    .node { kind := ")", isNamed := false, start := 56, stop := 57 } []]],
                .node { kind := ";", isNamed := false, start := 57, stop := 58 } []],
              .node { kind := "\x7d", isNamed := false, start := 59, stop := 60 } []]],
          .node { kind := "\x7d", isNamed := false, start := 61, stop := 62 } []]]]

/-- The index of the class over the logging interface. -/
def rateLimitedIndex : Index :=
  (Index.build rateLimited fluentTypes).toOption.getD { unit := rateLimited, hierarchy := {} }

/-- The call of `log`, its receiver, the receiver of that in its parentheses, and the parameter that
the chain begins at, whose type is remembered from a question before. -/
theorem known_rateLimited :
    let x := rateLimitedIndex
    let log := nodeAt rateLimited "method_invocation" 29
    (Index.build rateLimited fluentTypes).isOk = true ∧ log.kind = "method_invocation" ∧
    x.unit.methodName log = "log" ∧ x.hierarchy.subtyping "Api" loggingApi = .yes ∧
    (x.entryAmong? "every" (x.hierarchy.ancestors "Api")).bind Sum.getRight? = some selfMarker ∧
    ∃ outer ∈ log.object?, ∃ parens ∈ outer.object?, ∃ inner ∈ parens.parts.head?,
      ∃ base ∈ inner.object?,
      [outer, parens, inner, base].map Cursor.kind = ["method_invocation",
        "parenthesized_expression", "method_invocation", "identifier"] ∧
      x.unit.methodName outer = "every" ∧ x.unit.methodName inner = "every" ∧
      ([outer, parens, inner, base].map Cursor.key).Nodup ∧
      let memo := Index.memoAfter (x.typeOf base) {}
      memo.get? base.key = some (.cls "Api" [.ofClass "X"] false) ∧
        ∀ d ∈ [outer, parens, inner], memo.get? d.key = none := by
  decide +kernel

theorem build_rateLimited : Index.build rateLimited fluentTypes = .ok rateLimitedIndex :=
  eq_ok_getD_of_isOk known_rateLimited.1 _

/-- With the parentheses the two calls are three deep: in that room they keep the type of the
parameter with its type argument, and the call behind them emits a log statement; in less room
neither is seen. -/
theorem fluent_chain_typed_iff_room_rateLimited :
    let x := rateLimitedIndex
    let log := nodeAt rateLimited "method_invocation" 29
    let s (room : Nat) : Subject (StateM Memo) :=
      { unit := x.unit, oracle := (x.within room).oracleInRoom }
    Index.build rateLimited fluentTypes = .ok x ∧ ∃ base chain, log.object? = some chain ∧
      let memo := Index.memoAfter (x.typeOf base) {}
      memo.get? base.key = some (.cls "Api" [.ofClass "X"] false) ∧
      (((s 3).oracle.typeOf chain).run memo).1 = .ok (.type (.cls "Api" [.ofClass "X"] false)) ∧
      (((isLogCall (s 3) (some log)).run []).run memo).1.1 = true ∧
      (((s 2).oracle.typeOf chain).run memo).1 = .error .endless ∧
      (((isLogCall (s 2) (some log)).run []).run memo).1.1 = false := by
  intro x log s
  obtain ⟨-, hlogkind, hlog, hsub, hentry, outer, houter, parens, hparens, inner, hinner, base,
    hbase, hkinds, houtername, hinnername, hkeys, htype, hnew⟩ := known_rateLimited
  simp only [List.map_cons, List.map_nil, List.cons.injEq] at hkinds
  obtain ⟨houterkind, hparenskind, hinnerkind, hbasekind, -⟩ := hkinds
  have hself : x.entryAmong? "every" (x.hierarchy.ancestors "Api") = some (.inr selfMarker) := by
    obtain ⟨entry, hentry, hright⟩ := Option.bind_eq_some_iff.1 hentry
    rw [hentry, Sum.getRight?_eq_some_iff.1 hright]
  have hchain : CallChain base outer [outer, inner] [outer, parens, inner] 3 :=
    .call houterkind hparens ⟨.paren hparenskind hinner (.bare inner), (by decide : 1 ≤ 256),
        fun _ => by rw [hinnerkind]; decide⟩
      (.call hinnerkind hbase ⟨.bare base, by decide, by simp⟩ .base)
  have hcalls : ∀ room, ∀ call ∈ [outer, inner],
      (x.within room).entryAmong? (x.unit.methodName call) (x.hierarchy.ancestors "Api") =
        some (.inr selfMarker) := by
    intro room
    simp only [Index.entryAmong?_within, List.forall_mem_cons]
    exact ⟨houtername ▸ hself, hinnername ▸ hself, by simp⟩
  obtain ⟨henough, hshown⟩ :=
    fluent_chain_typed_iff_room (x := x.within 3) hchain (by simp) hkeys htype hnew (hcalls 3)
  obtain ⟨hshort, hhidden⟩ :=
    fluent_chain_typed_iff_room (x := x.within 2) hchain (by simp) hkeys htype hnew (hcalls 2)
  have hbare : Enclosed [] outer outer := ⟨.bare outer, by decide, by simp⟩
  refine ⟨build_rateLimited, base, outer, houter, htype, henough, ?_, hshort, ?_⟩
  · exact (hshown hsub log outer [] hlogkind hlog houter hbare _ []).2 (Nat.le_refl 3)
  · refine Bool.eq_false_iff.2 fun h => ?_
    exact absurd ((hhidden hsub log outer [] hlogkind hlog houter hbare _ []).1 h)
      (by decide : ¬ 3 ≤ 2)

end Rule

end CauseLint
