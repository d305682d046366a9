import CauseLint.Proofs.Rule.Verdict

/-!
# Questions without an answer

An oracle may fail on any of its questions. A failure counts for the rule as the answer that helps
least: what cannot be typed has no type, what cannot be told from null counts as null, and what is
not known of a class is unknown. So an oracle that fails here and there is judged by like one that
never does (`Oracle.answering`), and a failure costs the candidate it was asked about and no other.

Results:

* `Rule.isApiCall_answering_iff`, `Rule.qualifies_answering_iff`: each candidate counts as before.
* `Rule.evaluate_answering`: what is found is the same, in the arguments and in the chain.
-/

namespace CauseLint

/-- The answer to a question, or another one where there is none. -/
def answerOr {α : Type} (default : α) : Except Failure α → α
  | .ok answer => answer
  | .error _ => default

/-- The oracle that gives the least helpful answer where another oracle fails. -/
def Oracle.answering (o : Oracle Id) : Oracle Id where
  typeOf c := .ok (answerOr (.type .errorType) (o.typeOf c))
  receiverType c := .ok (answerOr (.type .errorType) (o.receiverType c))
  isSubtype a root := .ok (answerOr .unknown (o.isSubtype a root))
  isNullType a := .ok (answerOr true (o.isNullType a))

theorem answerOr_eq_iff {α : Type} {default a : α} (h : a ≠ default) {x : Except Failure α} :
    answerOr default x = a ↔ x = .ok a := by
  cases x with
  | ok b => simp [answerOr]
  | error f => simp [answerOr, h.symm]

namespace Rule

variable {u : SourceUnit} {o : Oracle Id}

theorem dispatchType_answering (o : Oracle Id) (call : Cursor) :
    Matcher.dispatchType o.answering call =
      .ok (answerOr (.type .errorType) (Matcher.dispatchType o call)) := by
  unfold Matcher.dispatchType
  split <;> rfl

theorem isSubtype_answering_iff {a : Answer} {root : String} :
    o.answering.isSubtype a root = .ok .yes ↔ o.isSubtype a root = .ok .yes :=
  (Except.ok.injEq _ _).to_iff.trans (answerOr_eq_iff (by decide))

theorem isNullType_answering_iff {a : Answer} :
    o.answering.isNullType a = .ok false ↔ o.isNullType a = .ok false :=
  (Except.ok.injEq _ _).to_iff.trans (answerOr_eq_iff (by decide))

/-- A receiver that cannot be typed is of no class. -/
theorem isApiCall_answering_iff {name : String} {call : Cursor} :
    IsApiCall u o.answering name call ↔ IsApiCall u o name call := by
  have hdispatch : ∀ owner args,
      Matcher.dispatchType o.answering call = .ok (.type (.cls owner args false)) ↔
        Matcher.dispatchType o call = .ok (.type (.cls owner args false)) := by
    intro owner args
    rw [dispatchType_answering]
    exact (Except.ok.injEq _ _).to_iff.trans (answerOr_eq_iff (by simp [StaticType.errorType]))
  unfold IsApiCall
  simp only [hdispatch, isSubtype_answering_iff]

/-- An argument that cannot be typed is no throwable, as nothing is known to be one without a
type. -/
theorem qualifies_answering_iff
    (ho : ∀ root, o.isSubtype (.type .errorType) root ≠ .ok .yes) {arg : Cursor} :
    Qualifies o.answering arg ↔ Qualifies o arg := by
  unfold Qualifies
  simp only [isSubtype_answering_iff, isNullType_answering_iff]
  constructor
  · rintro ⟨answer, htype, hne, hnull, hsub⟩
    refine ⟨answer, (answerOr_eq_iff ?_).1 (Except.ok.inj htype), hne, hnull, hsub⟩
    rintro rfl
    exact ho throwableClass hsub
  · rintro ⟨answer, htype, hne, hnull, hsub⟩
    refine ⟨answer, ?_, hne, hnull, hsub⟩
    show Except.ok (answerOr _ (o.typeOf arg)) = .ok answer
    rw [htype]
    rfl

/-- Where an oracle fails, the rule finds what it would find by the least helpful answers: the same
argument in a call, the same causes in its chain, and the same missing cause. -/
theorem evaluate_answering (s : Subject Id)
    (hs : ∀ root, s.oracle.isSubtype (.type .errorType) root ≠ .ok .yes) (log log' : Log) :
    let answering : Subject Id := { s with oracle := s.oracle.answering }
    (∀ call, ((exceptionArgument s call).run log).1 =
      ((exceptionArgument answering call).run log').1) ∧
    (∀ call, ((chainHasCause s call).run log).1 = ((chainHasCause answering call).run log').1) ∧
    ∀ c, ((evaluate s c).run log).1 = ((evaluate answering c).run log').1 := by
  intro answering
  have hqualifies : ∀ a, Qualifies answering.oracle a ↔ Qualifies s.oracle a :=
    fun a => qualifies_answering_iff hs
  have hcall : ∀ name c, IsApiCall answering.unit answering.oracle name c ↔
      IsApiCall s.unit s.oracle name c := fun name c => isApiCall_answering_iff
  refine ⟨fun call => Option.ext fun arg => ?_, fun call => ?_, fun c => ?_⟩
  · rw [exceptionArgument_eq_some_iff, exceptionArgument_eq_some_iff]
    simp only [hqualifies]
  · rw [Bool.eq_iff_iff, chainHasCause_iff, chainHasCause_iff]
    simp only [hcall]
  · cases c with
    | none => rfl
    | some c =>
      refine Option.ext fun found => ?_
      rw [evaluate_eq_some_iff, evaluate_eq_some_iff]
      simp only [hqualifies, hcall]
      exact Iff.rfl

/-- The unit of the source `l.log(e, x)`. -/
def twoArguments : SourceUnit where
  path := "A.java"
  source := Utf8.ofText "l.log(e, x)"
  tree :=
    .node { kind := "method_invocation", start := 0, stop := 11 } [
      .node { kind := "identifier", start := 0, stop := 1, field := some "object" } [],
      .node { kind := ".", isNamed := false, start := 1, stop := 2 } [],
      .node { kind := "identifier", start := 2, stop := 5, field := some "name" } [],
      .node { kind := "argument_list", start := 5, stop := 11, field := some "arguments" } [
        .node { kind := "(", isNamed := false, start := 5, stop := 6 } [],
        .node { kind := "identifier", start := 6, stop := 7 } [],
        .node { kind := ",", isNamed := false, start := 7, stop := 8 } [],
        .node { kind := "identifier", start := 9, stop := 10 } [],
        .node { kind := ")", isNamed := false, start := 10, stop := 11 } []]]

/-- An oracle that cannot type `x` and knows nothing of what has no class. -/
def doubtful : Oracle Id where
  typeOf c := if c.start = 9 then .error .endless else .ok (.type (.cls "T" [] false))
  receiverType _ := .error (.missing "this")
  isSubtype a _ :=
    match a with
    | .type (.cls _ _ _) => .ok .yes
    | _ => .error (.other "no class")
  isNullType _ := .ok false

/-- The argument before the one that cannot be typed is found all the same. -/
theorem evaluate_answering_doubtful :
    (∀ root, doubtful.isSubtype (.type .errorType) root ≠ .ok .yes) ∧
    (((evaluate { unit := twoArguments, oracle := doubtful } (some twoArguments.root)).run []).1.map
      fun found => (found.argument.start, found.fix.text)) = some (6, ".withCause(e)") ∧
    (((evaluate { unit := twoArguments, oracle := doubtful.answering }
      (some twoArguments.root)).run []).1.map
        fun found => (found.argument.start, found.fix.text)) = some (6, ".withCause(e)") := by
  have hdoubt : ∀ root, doubtful.isSubtype (.type .errorType) root ≠ .ok .yes := by
    intro root h
    cases h
  obtain ⟨-, -, heval⟩ :=
    evaluate_answering { unit := twoArguments, oracle := doubtful } hdoubt [] []
  have hfound : (((evaluate { unit := twoArguments, oracle := doubtful }
      (some twoArguments.root)).run []).1.map
        fun found => (found.argument.start, found.fix.text)) = some (6, ".withCause(e)") := by
    decide +kernel
  refine ⟨hdoubt, hfound, ?_⟩
  rw [← hfound]
  exact (congrArg (Option.map _) (heval (some twoArguments.root))).symm

end Rule

end CauseLint
