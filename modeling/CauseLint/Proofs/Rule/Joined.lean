import CauseLint.Hierarchy.Builtin
import CauseLint.Proofs.Effects
import CauseLint.Proofs.Rule.History
import CauseLint.Proofs.Types.Joins

/-!
# Caught and chosen throwables

The parameter of a clause that catches several throwables, and a choice between two, are passed to
log statements like other throwables. The rule recognises them when their join is a throwable, which
it need not be: going up from the first of them, an interface that all implement can be met before
any throwable that all descend from.

Results:

* `Rule.isThrowable_of_hasType`: what the rule says of an expression with a type, after every
  history.
* `Rule.isThrowable_join_iff`: which joins of throwables are throwables, and which caught parameters
  and choices the rule recognises.
-/

namespace CauseLint.Rule

/-- Asked for an expression, the oracle of an index gives a type and the rule an answer: the type is
a throwable one, and the answer yes, exactly on a condition. -/
def Recognises (x : Index) (memo : Memo) (c : Cursor) (condition : Prop) : Prop :=
  ∃ type answer, ((x.oracle.typeOf c).run memo).1 = .ok (.type type) ∧
    ((isThrowable x.oracle c).run memo).1 = .ok answer ∧
    (x.subtyping type throwableClass = .yes ↔ condition) ∧ (answer = true ↔ condition)

/-- An expression is a throwable for the rule by the type that it is given. -/
theorem isThrowable_of_run {x : Index} {c : Cursor} {t : StaticType} {memo memo' : Memo}
    (h : (x.oracle.typeOf c).run memo = (.ok (.type t), memo')) :
    ((isThrowable x.oracle c).run memo).1 =
      .ok (!t.isNull && decide (x.subtyping t throwableClass = .yes)) := by
  unfold isThrowable
  rw [StateT.run_bind, h]
  cases t <;> rfl

section

variable {x : Index} (hx : x.Rooted) (hkeys : x.KeysApart) {c : Cursor}
  (hc : Cursor.Below x.unit.root c) {t : StaticType} (ht : x.HasType c t) {memo : Memo}
  (hmemo : x.Sound [] memo)

include hx hkeys hc ht hmemo

theorem run_typeOf_of_hasType :
    (x.oracle.typeOf c).run memo = (.ok (.type t), Index.memoAfter (x.typeOf c) memo) := by
  show (Typing.answer (x.typeOf c)).run memo = _
  rw [run_answer, Index.outcome_of_hasType hx hkeys hc ht hmemo]
  rfl

/-- An expression with a type is a throwable for the rule by its type alone. -/
theorem isThrowable_of_hasType :
    ((isThrowable x.oracle c).run memo).1 =
      .ok (!t.isNull && decide (x.subtyping t throwableClass = .yes)) :=
  isThrowable_of_run (run_typeOf_of_hasType hx hkeys hc ht hmemo)

/-- An expression that is not always null is recognised by its type. -/
theorem recognises_of_hasType (hnull : t.isNull = false) {condition : Prop}
    (hiff : x.subtyping t throwableClass = .yes ↔ condition) : Recognises x memo c condition := by
  refine ⟨t, _, ?_, isThrowable_of_hasType hx hkeys hc ht hmemo, hiff, ?_⟩
  · rw [run_typeOf_of_hasType hx hkeys hc ht hmemo]
  · rw [hnull, ← hiff]
    simp

end

/-- The join of throwables is above all of them, and it is a throwable exactly when a throwable that
they share is met before everything else that they share; that it is nearer is enough, and that
something else is nearer than each shared throwable is enough against it. After every history the
rule recognises a caught parameter exactly when its alternatives meet so, and a choice between
throwables that are not both null exactly when a branch is null, one descends from the other, or
they meet so. -/
theorem isThrowable_join_iff (first : StaticType) (others : List StaticType) :
    (∀ (h : Hierarchy) (default : String),
      (∀ t ∈ first :: others, t.isClass = true ∧ h.Throws t.name) →
      ∃ c, Index.leastUpperBound h (first :: others) default = .ofClass c ∧
        h.Shared first.name (others.map StaticType.name) c ∧
        (h.Throws c ↔ h.MeetsThrown first.name (others.map StaticType.name))) ∧
    (∀ (h : Hierarchy) (a : String) (names : List String),
      ((∀ c, h.Shared a names c → ¬ h.Throws c →
        ∃ d, h.Throws d ∧ h.Shared a names d ∧ h.Nearer a d c) → h.MeetsThrown a names) ∧
      ((∃ c, h.Shared a names c ∧ ¬ h.Throws c ∧
        ∀ d, h.Throws d → h.Shared a names d → h.Nearer a c d) → ¬ h.MeetsThrown a names)) ∧
    ∀ (u : SourceUnit) (parent : Hierarchy) (x : Index) (render : Cursor → String),
      Index.build u parent = .ok x → x.KeysApart →
      let s : Subject (StateM Memo) := { unit := u, oracle := x.oracle, render }
      (∀ c, Cursor.Below u.root c → x.MeansCaught c (first :: others) →
        (∀ t ∈ first :: others, t.isClass = true ∧ x.hierarchy.Throws t.name) →
        ∀ memo, After s {} memo → Recognises x memo c
          (x.hierarchy.MeetsThrown first.name (others.map StaticType.name))) ∧
      ∀ c a b second, Cursor.Below u.root c → c.kind = "ternary_expression" →
        c.childByField? "consequence" = some a → c.childByField? "alternative" = some b →
        x.HasType a first → x.subtyping first throwableClass = .yes →
        x.HasType b second → x.subtyping second throwableClass = .yes →
        ¬ (first.isNull = true ∧ second.isNull = true) →
        ∀ memo, After s {} memo → Recognises x memo c
          (first.isNull ∨ second.isNull ∨
            x.hierarchy.subtyping first.name second.name = .yes ∨
            x.hierarchy.subtyping second.name first.name = .yes ∨
            x.hierarchy.MeetsThrown first.name [second.name]) := by
  refine ⟨fun h default hall => Hierarchy.throws_leastUpperBound hall default,
    fun h a names => ⟨Hierarchy.MeetsThrown.of_nearer, ?_⟩, ?_⟩
  · rintro ⟨c, hc, hthrows, hnearer⟩
    exact Hierarchy.not_meetsThrown hc hthrows hnearer
  intro u parent x render hx hkeys s
  obtain ⟨rfl, hrooted⟩ := Index.rooted_of_build hx
  have hsound : ∀ memo, After s {} memo → x.Sound [] memo := fun memo h =>
    h.keeps rfl (fun c hc => asks_keeps_sound hrooted hc hkeys) (x.sound_empty [])
  refine ⟨?_, ?_⟩
  · intro c hc hcaught hall memo hmemo
    obtain ⟨hclass, hiff⟩ := Index.subtyping_caughtType hall
    obtain ⟨name, args, flag, htype⟩ := StaticType.eq_cls_of_isClass _ hclass
    have hhas := Index.hasType_of_caught hrooted hc hcaught
    rw [htype] at hhas hiff
    exact recognises_of_hasType hrooted hkeys hc hhas (hsound memo hmemo) rfl hiff
  · intro c a b second hc hkind ha hb hfirst hthrows hsecond hthrows' hnull memo hmemo
    have hhas := Index.hasType_of_choice hrooted hc hkind ha hb hfirst hsecond
    refine recognises_of_hasType hrooted hkeys hc hhas (hsound memo hmemo) ?_
      (Index.subtyping_joinTypes_iff hthrows hthrows')
    rw [Index.isNull_joinTypes]
    simpa using hnull

/-- Two exceptions that share a marker interface, which is nearer to both than the class that both
descend from. -/
def markedExceptions : Hierarchy :=
  [Hierarchy.classInfo objectClass [],
   Hierarchy.classInfo throwableClass [objectClass],
   Hierarchy.classInfo "java.io.IOException" [throwableClass],
   Hierarchy.classInfo "java.lang.RuntimeException" [throwableClass],
   Hierarchy.interfaceInfo "Failure" [],
   Hierarchy.classInfo "Weird" ["java.io.IOException", "Failure"],
   Hierarchy.classInfo "Other" ["java.lang.RuntimeException", "Failure"]].foldl Hierarchy.declare {}

/-- The unit of a class whose initializer logs a caught parameter and a choice. -/
def loggedJoins : SourceUnit where
  path := "F.java"
  source := Utf8.ofText ("class F \x7b \x7b try \x7b \x7d catch (Weird | Other e) " ++
    "\x7b l.log(e, b ? new Weird() : new Other()); \x7d \x7d \x7d")
  tree :=
    .node { kind := "program", start := 0, stop := 92 } [
      .node { kind := "class_declaration", start := 0, stop := 92 } [
        .node { kind := "class", isNamed := false, start := 0, stop := 5 } [],
        .node { kind := "identifier", start := 6, stop := 7, field := some "name" } [],
        .node { kind := "class_body", start := 8, stop := 92, field := some "body" } [
          .node { kind := "\x7b", isNamed := false, start := 8, stop := 9 } [],
          .node { kind := "block", start := 10, stop := 90 } [
            .node { kind := "\x7b", isNamed := false, start := 10, stop := 11 } [],
            .node { kind := "try_statement", start := 12, stop := 88 } [
              .node { kind := "try", isNamed := false, start := 12, stop := 15 } [],
              .node { kind := "block", start := 16, stop := 19, field := some "body" } [
                .node { kind := "\x7b", isNamed := false, start := 16, stop := 17 } [],
                .node { kind := "\x7d", isNamed := false, start := 18, stop := 19 } []],
              .node { kind := "catch_clause", start := 20, stop := 88 } [
                .node { kind := "catch", isNamed := false, start := 20, stop := 25 } [],
                .node { kind := "(", isNamed := false, start := 26, stop := 27 } [],
                .node { kind := "catch_formal_parameter", start := 27, stop := 42 } [
                  .node { kind := "catch_type", start := 27, stop := 40 } [
                    .node { kind := "type_identifier", start := 27, stop := 32 } [],
                    .node { kind := "|", isNamed := false, start := 33, stop := 34 } [],
                    .node { kind := "type_identifier", start := 35, stop := 40 } []],
                  .node { kind := "identifier", start := 41, stop := 42,
                          field := some "name" } []],
                .node { kind := ")", isNamed := false, start := 42, stop := 43 } [],
                .node { kind := "block", start := 44, stop := 88, field := some "body" } [
                  .node { kind := "\x7b", isNamed := false, start := 44, stop := 45 } [],
                  .node { kind := "expression_statement", start := 46, stop := 86 } [
                    .node { kind := "method_invocation", start := 46, stop := 85 } [
                      .node { kind := "identifier", start := 46, stop := 47,
                              field := some "object" } [],
                      .node { kind := ".", isNamed := false, start := 47, stop := 48 } [],
                      .node { kind := "identifier", start := 48, stop := 51,
                              field := some "name" } [],
                      .node { kind := "argument_list", start := 51, stop := 85,
                              field := some "arguments" } [
                        .node { kind := "(", isNamed := false, start := 51, stop := 52 } [],
                        .node { kind := "identifier", start := 52, stop := 53 } [],
                        .node { kind := ",", isNamed := false, start := 53, stop := 54 } [],
                        .node { kind := "ternary_expression", start := 55, stop := 84 } [
                          .node { kind := "identifier", start := 55, stop := 56,
                                  field := some "condition" } [],
                          .node { kind := "?", isNamed := false, start := 57, stop := 58 } [],
                          .node { kind := "object_creation_expression", start := 59, stop := 70,
                                  field := some "consequence" } [
                            .node { kind := "new", isNamed := false, start := 59, stop := 62 } [],
                            .node { kind := "type_identifier", start := 63, stop := 68,
                                    field := some "type" } [],
                            .node { kind := "argument_list", start := 68, stop := 70,
                                    field := some "arguments" } [
                              .node { kind := "(", isNamed := false, start := 68, stop := 69 } [],
                              .node { kind := ")", isNamed := false, start := 69, stop := 70 } []]],
                          .node { kind := ":", isNamed := false, start := 71, stop := 72 } [],
                          .node { kind := "object_creation_expression", start := 73, stop := 84,
                                  field := some "alternative" } [
                            .node { kind := "new", isNamed := false, start := 73, stop := 76 } [],
                            .node { kind := "type_identifier", start := 77, stop := 82,
                                    field := some "type" } [],
                            .node { kind := "argument_list", start := 82, stop := 84,
                                    field := some "arguments" } [
                              .node { kind := "(", isNamed := false, start := 82, stop := 83 } [],
                              .node
                                { kind := ")", isNamed := false, start := 83, stop := 84 } []]]],
                        .node { kind := ")", isNamed := false, start := 84, stop := 85 } []]],
                    .node { kind := ";", isNamed := false, start := 85, stop := 86 } []],
                  .node { kind := "\x7d", isNamed := false, start := 87, stop := 88 } []]]],
            .node { kind := "\x7d", isNamed := false, start := 89, stop := 90 } []],
          .node { kind := "\x7d", isNamed := false, start := 91, stop := 92 } []]]]

/-- The index of the class over the two exceptions. -/
def loggedJoinsIndex : Index :=
  match Index.build loggedJoins markedExceptions with
  | .ok x => x
  | .error _ => { unit := loggedJoins, hierarchy := {} }

/-- The logged parameter. -/
def loggedParameter : Cursor := nodeAt loggedJoins "identifier" 52

/-- The logged choice. -/
def loggedChoice : Cursor := nodeAt loggedJoins "ternary_expression" 55

/-- What is known of the two exceptions and what is written around their uses, in one evaluation,
because each builds the index anew. -/
theorem known_loggedJoins :
    let x := loggedJoinsIndex
    let name := x.unit.textOf loggedParameter
    let scopes := loggedParameter.parents
    let branch (field : String) := (loggedChoice.childByField? field).bind fun value =>
      (Index.outcome (x.plainWithin 1 value) {}).toOption
    (Index.build loggedJoins markedExceptions).isOk = true ∧
    (x.unit.root.preorder.map Cursor.key).Nodup ∧
    (x.hierarchy.subtyping "Weird" throwableClass = .yes ∧
      x.hierarchy.subtyping "Other" throwableClass = .yes ∧
      x.hierarchy.subtyping "Failure" throwableClass = .no ∧
      x.hierarchy.subtyping "Weird" "Other" = .no ∧ x.hierarchy.subtyping "Other" "Weird" = .no ∧
      Index.leastUpperBound x.hierarchy [.ofClass "Weird", .ofClass "Other"] throwableClass =
        .ofClass "Failure") ∧
    (loggedParameter.kind = "identifier" ∧ scopes[4]?.map Cursor.kind = some "catch_clause" ∧
      (scopes[4]?.bind fun clause => (x.alternatives? clause name).bind fun cs =>
        (Index.outcome (x.writtenTypes cs) {}).toOption) =
          some [.ofClass "Weird", .ofClass "Other"] ∧
      ∀ scope ∈ scopes.take 4, (Index.outcome
        (Index.boundBy x (x.plainWithin 0) name loggedParameter scope) {}).toOption = some none) ∧
    loggedChoice.kind = "ternary_expression" ∧
      branch "consequence" = some (.ofClass "Weird") ∧
      branch "alternative" = some (.ofClass "Other") := by
  decide +kernel

/-- The parameter means values of the two exceptions. -/
theorem meansCaught_loggedJoins :
    loggedJoinsIndex.MeansCaught loggedParameter [.ofClass "Weird", .ofClass "Other"] := by
  obtain ⟨-, -, -, ⟨hkind, hclause, hcatches, hfree⟩, -⟩ := known_loggedJoins
  obtain ⟨clause, hclause, hcatch⟩ := Option.map_eq_some_iff.1 hclause
  rw [hclause, Option.bind_some] at hcatches
  obtain ⟨cs, hcs, htypes⟩ := Option.bind_eq_some_iff.1 hcatches
  have hwritten := Index.outcome_writtenTypes_iff.1 (eq_ok_of_toOption htypes)
  exact ⟨hkind, _, clause, _, eq_take_append_cons hclause, ⟨hcatch, cs, hcs, hwritten⟩, 0,
    fun scope hscope => eq_ok_of_toOption (hfree scope hscope)⟩

/-- A branch of the choice has the type that is found for it. -/
theorem hasType_branch {field : String} {t : StaticType}
    (h : ((loggedChoice.childByField? field).bind fun value =>
      (Index.outcome (loggedJoinsIndex.plainWithin 1 value) {}).toOption) = some t) :
    ∃ value, loggedChoice.childByField? field = some value ∧ loggedJoinsIndex.HasType value t := by
  obtain ⟨value, hvalue, ht⟩ := Option.bind_eq_some_iff.1 h
  exact ⟨value, hvalue, 1, eq_ok_of_toOption ht⟩

/-- The two exceptions meet at the interface that marks them, so neither the parameter nor the
choice is recognised. -/
theorem isThrowable_join_iff_loggedJoins :
    Index.build loggedJoins markedExceptions = .ok loggedJoinsIndex ∧
    loggedJoinsIndex.KeysApart ∧
    loggedJoinsIndex.hierarchy.Throws "Weird" ∧ loggedJoinsIndex.hierarchy.Throws "Other" ∧
    Index.leastUpperBound loggedJoinsIndex.hierarchy [.ofClass "Weird", .ofClass "Other"]
      throwableClass = .ofClass "Failure" ∧
    ¬ loggedJoinsIndex.hierarchy.MeetsThrown "Weird" ["Other"] ∧
    ((isThrowable loggedJoinsIndex.oracle loggedParameter).run {}).1 = .ok false ∧
    ((isThrowable loggedJoinsIndex.oracle loggedChoice).run {}).1 = .ok false := by
  obtain ⟨hok, hkeys, ⟨hweird, hother, hfailure, hapart, hapart', hlub⟩, -, hkind, hleft, hright⟩ :=
    known_loggedJoins
  have hbuild : Index.build loggedJoins markedExceptions = .ok loggedJoinsIndex := by
    unfold loggedJoinsIndex
    cases h : Index.build loggedJoins markedExceptions with
    | ok x => rfl
    | error e =>
      rw [h] at hok
      cases hok
  obtain ⟨hjoin, -, huses⟩ := isThrowable_join_iff (.ofClass "Weird") [.ofClass "Other"]
  obtain ⟨hcaught, hchoice⟩ := huses _ _ _ loggedJoins.textOf hbuild hkeys
  have hall : ∀ t ∈ [StaticType.ofClass "Weird", .ofClass "Other"],
      t.isClass = true ∧ loggedJoinsIndex.hierarchy.Throws t.name := by
    simp only [List.forall_mem_cons]
    exact ⟨⟨rfl, hweird⟩, ⟨rfl, hother⟩, by simp⟩
  have hmeets : ¬ loggedJoinsIndex.hierarchy.MeetsThrown "Weird" ["Other"] := by
    obtain ⟨c, hc, -, hiff⟩ := hjoin _ throwableClass hall
    obtain rfl : "Failure" = c := congrArg StaticType.name (hlub.symm.trans hc)
    intro hmeets
    have hyes : Subtyping.no = .yes := hfailure.symm.trans (hiff.2 hmeets)
    cases hyes
  refine ⟨hbuild, hkeys, hweird, hother, hlub, hmeets, ?_, ?_⟩
  · obtain ⟨-, answer, -, hanswer, -, hiff⟩ :=
      hcaught loggedParameter (below_nodeAt _ _ _) meansCaught_loggedJoins hall {} .start
    rw [hanswer, Bool.eq_false_iff.2 fun htrue => hmeets (hiff.1 htrue)]
  · obtain ⟨a, ha, hs⟩ := hasType_branch hleft
    obtain ⟨b, hb, ht⟩ := hasType_branch hright
    obtain ⟨-, answer, -, hanswer, -, hiff⟩ :=
      hchoice loggedChoice a b _ (below_nodeAt _ _ _) hkind ha hb hs hweird ht hother
        (by simp [StaticType.isNull, StaticType.ofClass]) {} .start
    refine hanswer.trans (congrArg Except.ok (Bool.eq_false_iff.2 fun htrue => ?_))
    have hcases := hiff.1 htrue
    simp only [StaticType.isNull, StaticType.ofClass, StaticType.name, hapart, hapart'] at hcases
    simp [hmeets] at hcases

end CauseLint.Rule
