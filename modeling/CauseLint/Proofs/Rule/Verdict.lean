import CauseLint.Proofs.Edit.Splice
import CauseLint.Proofs.Syntax.Receivers
import CauseLint.Rule
import Mathlib.Data.List.Basic

/-!
# What the rule finds

For an oracle that keeps no memory the rule is a plain decision about the syntax tree and the
oracle's answers: a call of `log` on the logging interface, with a receiver to attach a cause to,
with a throwable among its arguments, and without `withCause` among the first links of its chain.
A question that fails counts against the candidate it was asked about and nothing else.

Results:

* `Rule.isMatch_apiMethod`: the matchers of the rule pick out the calls on the logging interface.
* `Rule.evaluate_eq_some_iff`: what is found is determined by the rightmost throwable argument.
-/

namespace CauseLint

/-! ## Questions to an oracle without memory -/

namespace Rule

variable (u : SourceUnit) (o : Oracle Id)

/-- A call of a method of the logging interface, dispatched on a value. -/
def IsApiCall (name : String) (call : Cursor) : Prop :=
  call.kind = "method_invocation" ∧ u.methodName call = name ∧
    ∃ owner args, Matcher.dispatchType o call = .ok (.type (.cls owner args false)) ∧
      o.isSubtype (.type (.cls owner args false)) loggingApi = .ok .yes

/-- An argument that is known to be a throwable and not the null constant. -/
def Qualifies (arg : Cursor) : Prop :=
  ∃ answer, o.typeOf arg = .ok answer ∧ answer ≠ .stray .nothing ∧
    o.isNullType answer = .ok false ∧ o.isSubtype answer throwableClass = .ok .yes

/-- The calls of one method of the logging interface. -/
def apiMethod (name : String) : Matcher :=
  (Matcher.instanceMethod.onDescendantOf loggingApi).named name

variable {u o}

theorem acceptsReceiver_apiMethod {name owner : String} {args : List StaticType} {call : Cursor}
    (hd : Matcher.dispatchType o call = .ok (.type (.cls owner args false)))
    (hs : o.isSubtype (.type (.cls owner args false)) loggingApi = .ok .yes) :
    (apiMethod name).acceptsReceiver o call = (.ok true : Except Failure Bool) := by
  unfold Matcher.acceptsReceiver
  rw [hd]
  show (match o.isSubtype (.type (.cls owner args false)) loggingApi with
    | .error f => (.error f : Except Failure Bool)
    | .ok answer => .ok (decide (answer = Subtyping.yes))) = .ok true
  rw [hs]
  rfl

theorem of_acceptsReceiver_apiMethod {name : String} {call : Cursor}
    (h : (apiMethod name).acceptsReceiver o call = (.ok true : Except Failure Bool)) :
    ∃ owner args, Matcher.dispatchType o call = .ok (.type (.cls owner args false)) ∧
      o.isSubtype (.type (.cls owner args false)) loggingApi = .ok .yes := by
  unfold Matcher.acceptsReceiver at h
  generalize Matcher.dispatchType o call = d at h
  rcases d with f | (t | given)
  · cases h
  · cases t with
    | cls owner args isTypeName =>
      cases isTypeName with
      | true => cases h
      | false =>
        refine ⟨owner, args, rfl, ?_⟩
        replace h : (match o.isSubtype (.type (.cls owner args false)) loggingApi with
          | .error f => (.error f : Except Failure Bool)
          | .ok answer => .ok (decide (answer = Subtyping.yes))) = .ok true := h
        split at h
        · cases h
        · rename_i answer ha
          rw [ha, of_decide_eq_true (Except.ok.inj h)]
    | primitive | array | null | void | error => cases h
  · cases h

/-- The matchers of the rule pick out the calls on the logging interface. -/
theorem isMatch_apiMethod {name : String} {c : Cursor} (log : Log) :
    (((apiMethod name).isMatch u o (some c)).run log).1 = true ↔
      ∃ call, c.call? = some call ∧ IsApiCall u o name call := by
  unfold Matcher.isMatch
  rw [Option.bind_some]
  split
  · rename_i hc
    show false = true ↔ _
    simp [hc]
  · rename_i call hc
    have hk := (Cursor.call?_eq_some_iff.1 hc).2
    by_cases hn : u.methodName call = name
    · have hnames : (!(apiMethod name).names.isEmpty &&
          !(apiMethod name).names.contains (u.methodName call)) = false := by
        simp [apiMethod, Matcher.named, hn]
      rw [hnames]
      constructor
      · intro h
        generalize ha : (apiMethod name).acceptsReceiver o call = accepts at h
        cases accepts with
        | error f => cases h
        | ok answer =>
          obtain rfl : answer = true := h
          exact ⟨call, hc, hk, hn, of_acceptsReceiver_apiMethod ha⟩
      · rintro ⟨call', hc', -, -, owner, args, hd, hs⟩
        obtain rfl : call = call' := Option.some.inj (hc ▸ hc')
        rw [acceptsReceiver_apiMethod hd hs]
        rfl
    · have hnames : (!(apiMethod name).names.isEmpty &&
          !(apiMethod name).names.contains (u.methodName call)) = true := by
        simp [apiMethod, Matcher.named, hn]
      rw [hnames]
      show false = true ↔ _
      constructor
      · intro h
        cases h
      · rintro ⟨call', hc', -, hn', -⟩
        obtain rfl : call = call' := Option.some.inj (hc ▸ hc')
        exact absurd hn' hn

/-! ## Throwable arguments -/

theorem isThrowable_eq {arg : Cursor} {answer : Answer} (ht : o.typeOf arg = .ok answer)
    (hne : answer ≠ .stray .nothing) :
    isThrowable o arg =
      (match o.isNullType answer with
      | .error f => (.error f : Except Failure Bool)
      | .ok true => .ok false
      | .ok false =>
        match o.isSubtype answer throwableClass with
        | .error f => .error f
        | .ok verdict => .ok (decide (verdict = Subtyping.yes))) := by
  unfold isThrowable
  rw [ht]
  rcases answer with t | (_ | b | v)
  · rfl
  · exact absurd rfl hne
  · rfl
  · rfl

theorem isThrowable_eq_ok_true_iff {arg : Cursor} :
    isThrowable o arg = (.ok true : Except Failure Bool) ↔ Qualifies o arg := by
  constructor
  · intro h
    rcases ht : o.typeOf arg with f | answer
    · unfold isThrowable at h
      rw [ht] at h
      cases h
    by_cases hne : answer = .stray .nothing
    · unfold isThrowable at h
      rw [ht, hne] at h
      cases h
    refine ⟨answer, ht, hne, ?_⟩
    rw [isThrowable_eq ht hne] at h
    split at h
    · cases h
    · cases h
    · rename_i hnull
      refine ⟨hnull, ?_⟩
      split at h
      · cases h
      · rename_i verdict hv
        rw [hv, of_decide_eq_true (Except.ok.inj h)]
  · rintro ⟨answer, ht, hne, hnull, hsub⟩
    rw [isThrowable_eq ht hne, hnull, hsub]
    rfl

theorem firstThrowable_cons_of_qualifies {s : Subject Id} {arg : Cursor} (rest : List Cursor)
    (h : Qualifies s.oracle arg) (log : Log) :
    ((firstThrowable s (arg :: rest)).run log).1 = some arg := by
  show ((match isThrowable s.oracle arg with
    | .ok true => (pure (some arg) : LogM (Option Cursor))
    | .ok false => firstThrowable s rest
    | .error f => do
      note .debug .checking s!"skipping argument {quoted (s.render arg)}: {f.text}"
      firstThrowable s rest).run log).1 = some arg
  rw [isThrowable_eq_ok_true_iff.2 h]
  rfl

/-- An argument that does not qualify is skipped, at the cost of a note in the log at most. -/
theorem firstThrowable_cons_of_not_qualifies {s : Subject Id} {arg : Cursor} (rest : List Cursor)
    (h : ¬ Qualifies s.oracle arg) (log : Log) :
    ∃ log', ((firstThrowable s (arg :: rest)).run log).1 =
      ((firstThrowable s rest).run log').1 := by
  show ∃ log', ((match isThrowable s.oracle arg with
    | .ok true => (pure (some arg) : LogM (Option Cursor))
    | .ok false => firstThrowable s rest
    | .error f => do
      note .debug .checking s!"skipping argument {quoted (s.render arg)}: {f.text}"
      firstThrowable s rest).run log).1 = _
  split
  · rename_i ht
    exact absurd (isThrowable_eq_ok_true_iff.1 ht) h
  · exact ⟨log, rfl⟩
  · exact ⟨_, rfl⟩

/-- The first qualifying argument of a list is found, whatever the oracle says of the others. -/
theorem firstThrowable_eq_some_iff {s : Subject Id} {args : List Cursor} {arg : Cursor} (log : Log) :
    ((firstThrowable s args).run log).1 = some arg ↔
      ∃ before after, args = before ++ arg :: after ∧ Qualifies s.oracle arg ∧
        ∀ a ∈ before, ¬ Qualifies s.oracle a := by
  induction args generalizing log with
  | nil =>
    constructor
    · intro h
      cases h
    · rintro ⟨before, after, h, -⟩
      exact absurd h (by simp)
  | cons a rest ih =>
    by_cases ha : Qualifies s.oracle a
    · rw [firstThrowable_cons_of_qualifies rest ha, Option.some.injEq]
      constructor
      · rintro rfl
        exact ⟨[], rest, rfl, ha, by simp⟩
      · rintro ⟨before, after, h, -, hb⟩
        cases before with
        | nil => exact (List.cons.inj h).1
        | cons b before =>
          obtain rfl := (List.cons.inj h).1
          exact absurd ha (hb a List.mem_cons_self)
    · obtain ⟨log', hlog⟩ := firstThrowable_cons_of_not_qualifies rest ha log
      rw [hlog, ih]
      constructor
      · rintro ⟨before, after, rfl, hq, hb⟩
        refine ⟨a :: before, after, rfl, hq, ?_⟩
        intro b hmem
        rcases List.mem_cons.1 hmem with rfl | hmem
        · exact ha
        · exact hb b hmem
      · rintro ⟨before, after, h, hq, hb⟩
        cases before with
        | nil =>
          obtain rfl := (List.cons.inj h).1
          exact absurd hq ha
        | cons b before =>
          exact ⟨before, after, (List.cons.inj h).2, hq,
            fun x hx => hb x (List.mem_cons_of_mem _ hx)⟩

theorem firstThrowable_isSome_iff {s : Subject Id} {args : List Cursor} (log : Log) :
    ((firstThrowable s args).run log).1.isSome ↔ ∃ a ∈ args, Qualifies s.oracle a := by
  induction args generalizing log with
  | nil =>
    constructor
    · intro h
      cases h
    · rintro ⟨a, h, -⟩
      cases h
  | cons a rest ih =>
    by_cases ha : Qualifies s.oracle a
    · rw [firstThrowable_cons_of_qualifies rest ha]
      exact ⟨fun _ => ⟨a, List.mem_cons_self, ha⟩, fun _ => rfl⟩
    · obtain ⟨log', hlog⟩ := firstThrowable_cons_of_not_qualifies rest ha log
      rw [hlog, ih]
      simp [ha]

/-! ## Causes in the chain -/

theorem isCauseCall_iff {s : Subject Id} {link : Cursor} (hl : link.stripParens = some link)
    (log : Log) :
    ((isCauseCall s (some link)).run log).1 = true ↔
      IsApiCall s.unit s.oracle "withCause" link := by
  refine (isMatch_apiMethod log).trans ⟨?_, ?_⟩
  · rintro ⟨call, hc, h⟩
    obtain rfl : link = call := Option.some.inj (hl ▸ (Cursor.call?_eq_some_iff.1 hc).1)
    exact h
  · intro h
    exact ⟨link, Cursor.call?_of_kind h.1, h⟩

theorem anyCause_iff {s : Subject Id} {links : List Cursor}
    (hl : ∀ link ∈ links, link.stripParens = some link) (log : Log) :
    ((anyCause s links).run log).1 = true ↔
      ∃ link ∈ links, IsApiCall s.unit s.oracle "withCause" link := by
  induction links generalizing log with
  | nil =>
    constructor
    · intro h
      cases h
    · rintro ⟨link, h, -⟩
      cases h
  | cons link rest ih =>
    have hlink := isCauseCall_iff (s := s) (hl link List.mem_cons_self) log
    show ((if ((isCauseCall s (some link)).run log).1 = true then (pure true : LogM Bool)
      else anyCause s rest).run ((isCauseCall s (some link)).run log).2).1 = true ↔ _
    by_cases h : ((isCauseCall s (some link)).run log).1 = true
    · rw [if_pos h]
      exact ⟨fun _ => ⟨link, List.mem_cons_self, hlink.1 h⟩, fun _ => rfl⟩
    · rw [if_neg h, ih fun l hmem => hl l (List.mem_cons_of_mem _ hmem)]
      simp [mt hlink.2 h]

/-- The chain of a call has a cause exactly when one of its first links attaches one. -/
theorem chainHasCause_iff {s : Subject Id} {call : Cursor} (log : Log) :
    ((chainHasCause s call).run log).1 = true ↔
      ∃ link ∈ call.links.take Cursor.maxChainDepth,
        IsApiCall s.unit s.oracle "withCause" link := by
  have hl : ∀ link ∈ call.links.take Cursor.maxChainDepth, link.stripParens = some link :=
    fun link h => Cursor.stripParens_of_mem_links (List.mem_of_mem_take h)
  rw [← anyCause_iff hl log]
  show ((if ((anyCause s (call.links.take Cursor.maxChainDepth)).run log).1 = true
    then (pure true : LogM Bool)
    else do
      noteTruncated Cursor.maxChainDepth (call.links.drop Cursor.maxChainDepth).head?
      return false).run
        ((anyCause s (call.links.take Cursor.maxChainDepth)).run log).2).1 = true ↔ _
  by_cases h : ((anyCause s (call.links.take Cursor.maxChainDepth)).run log).1 = true
  · rw [if_pos h]
    exact ⟨fun _ => h, fun _ => rfl⟩
  · rw [if_neg h]
    constructor
    · intro h'
      cases h'
    · intro h'
      exact absurd h' h

/-! ## The verdict -/

/-- The value of a computation goes into the one that follows. -/
theorem fst_run_bind {α β : Type} {x : LogM α} {f : α → LogM β} {log : Log} {a : α}
    (h : (x.run log).1 = a) : ((x >>= f).run log).1 = ((f a).run (x.run log).2).1 := by
  subst h
  rfl

/-- The verdict in three questions, each asked with the log that the ones before it left. -/
theorem evaluate_run {s : Subject Id} {c call : Cursor} (hc : c.call? = some call) (log : Log) :
    ∃ log₁ log₂, ((evaluate s (some c)).run log).1 =
      if ((isLogCall s (some call)).run log).1 = true then
        match ((exceptionArgument s call).run log₁).1 with
        | none => none
        | some argument =>
          if ((chainHasCause s call).run log₂).1 = true then none
          else (buildFix? s call argument).map fun fix => ⟨call, fix, argument⟩
      else none := by
  unfold evaluate
  rw [Option.bind_some, hc]
  refine ⟨((isLogCall s (some call)).run log).2,
    ((exceptionArgument s call).run ((isLogCall s (some call)).run log).2).2, ?_⟩
  cases h1 : ((isLogCall s (some call)).run log).1 with
  | false =>
    rw [fst_run_bind h1]
    rfl
  | true =>
    rw [fst_run_bind h1, if_pos rfl]
    generalize ((isLogCall s (some call)).run log).2 = log₁
    cases h2 : ((exceptionArgument s call).run log₁).1 with
    | none =>
      refine (fst_run_bind h2).trans ?_
      rfl
    | some argument =>
      refine (fst_run_bind h2).trans ?_
      generalize ((exceptionArgument s call).run log₁).2 = log₂
      cases h3 : ((chainHasCause s call).run log₂).1 with
      | true =>
        refine (fst_run_bind h3).trans ?_
        rfl
      | false =>
        refine (fst_run_bind h3).trans ?_
        cases h4 : buildFix? s call argument <;> simp [h4] <;> rfl

theorem isLogCall_iff {s : Subject Id} {call : Cursor} (hk : call.kind = "method_invocation")
    (log : Log) :
    ((isLogCall s (some call)).run log).1 = true ↔ IsApiCall s.unit s.oracle "log" call := by
  refine (isMatch_apiMethod log).trans ⟨?_, ?_⟩
  · rintro ⟨call', hc, h⟩
    obtain rfl : call = call' := Option.some.inj (Cursor.call?_of_kind hk ▸ hc)
    exact h
  · intro h
    exact ⟨call, Cursor.call?_of_kind hk, h⟩

/-- The argument that is taken is the rightmost one that qualifies. -/
theorem exceptionArgument_eq_some_iff {s : Subject Id} {call arg : Cursor} (log : Log) :
    ((exceptionArgument s call).run log).1 = some arg ↔
      ∃ before after, call.arguments = before ++ arg :: after ∧ Qualifies s.oracle arg ∧
        ∀ a ∈ after, ¬ Qualifies s.oracle a := by
  refine (firstThrowable_eq_some_iff log).trans ⟨?_, ?_⟩
  · rintro ⟨before, after, h, hq, hb⟩
    refine ⟨after.reverse, before.reverse, ?_, hq, fun a ha => hb a (List.mem_reverse.1 ha)⟩
    rw [← List.reverse_reverse call.arguments, h]
    simp
  · rintro ⟨before, after, h, hq, ha⟩
    refine ⟨after.reverse, before.reverse, ?_, hq, fun a hb => ha a (List.mem_reverse.1 hb)⟩
    rw [h]
    simp

theorem exceptionArgument_isSome_iff {s : Subject Id} {call : Cursor} (log : Log) :
    ((exceptionArgument s call).run log).1.isSome ↔ ∃ a ∈ call.arguments, Qualifies s.oracle a := by
  refine (firstThrowable_isSome_iff log).trans ?_
  simp only [List.mem_reverse]

theorem evaluate_eq_none_of_call? {s : Subject Id} {c : Cursor} (hc : c.call? = none) (log : Log) :
    ((evaluate s (some c)).run log).1 = none := by
  unfold evaluate
  rw [Option.bind_some, hc]
  rfl

/-- What is found: the call that the expression is, with its rightmost qualifying argument. -/
theorem evaluate_eq_some_iff {s : Subject Id} {c : Cursor} {found : Match} (log : Log) :
    ((evaluate s (some c)).run log).1 = some found ↔
      c.call? = some found.anchor ∧ IsApiCall s.unit s.oracle "log" found.anchor ∧
        (∃ before after, found.anchor.arguments = before ++ found.argument :: after ∧
          Qualifies s.oracle found.argument ∧ ∀ a ∈ after, ¬ Qualifies s.oracle a) ∧
        (∀ link ∈ found.anchor.links.take Cursor.maxChainDepth,
          ¬ IsApiCall s.unit s.oracle "withCause" link) ∧
        buildFix? s found.anchor found.argument = some found.fix := by
  cases hc : c.call? with
  | none => simp [evaluate_eq_none_of_call? hc]
  | some call =>
    have hk := (Cursor.call?_eq_some_iff.1 hc).2
    obtain ⟨log₁, log₂, hrun⟩ := evaluate_run (s := s) hc log
    rw [hrun]
    constructor
    · intro h
      split at h
      case isFalse => cases h
      rename_i hlog
      split at h
      · cases h
      · rename_i argument harg
        split at h
        · cases h
        · rename_i hcause
          obtain ⟨fix, hfix, rfl⟩ := Option.map_eq_some_iff.1 h
          refine ⟨rfl, (isLogCall_iff hk log).1 hlog, (exceptionArgument_eq_some_iff log₁).1 harg,
            ?_, hfix⟩
          intro link hl hw
          exact hcause ((chainHasCause_iff log₂).2 ⟨link, hl, hw⟩)
    · rintro ⟨hanchor, hlog, harg, hcause, hfix⟩
      obtain rfl : call = found.anchor := Option.some.inj hanchor
      have hno : ¬ ((chainHasCause s found.anchor).run log₂).1 = true := by
        rw [chainHasCause_iff]
        rintro ⟨link, hl, hw⟩
        exact hcause link hl hw
      rw [if_pos ((isLogCall_iff hk log).2 hlog), (exceptionArgument_eq_some_iff log₁).2 harg]
      simp only
      rw [if_neg hno, hfix, Option.map_some]

/-- When there is something to find. -/
theorem evaluate_isSome_iff {s : Subject Id} {c : Cursor} (log : Log) :
    ((evaluate s (some c)).run log).1.isSome ↔
      ∃ call, c.stripParens = some call ∧ IsApiCall s.unit s.oracle "log" call ∧
        (∃ receiver, call.object? = some receiver) ∧
        (∃ a ∈ call.arguments, Qualifies s.oracle a) ∧
        ∀ link ∈ call.links.take Cursor.maxChainDepth,
          ¬ IsApiCall s.unit s.oracle "withCause" link := by
  rw [Option.isSome_iff_exists]
  constructor
  · rintro ⟨found, h⟩
    obtain ⟨hc, hlog, ⟨before, after, hargs, hq, -⟩, hcause, hfix⟩ := (evaluate_eq_some_iff log).1 h
    obtain ⟨receiver, hr, -⟩ := Option.map_eq_some_iff.1 hfix
    refine ⟨found.anchor, (Cursor.call?_eq_some_iff.1 hc).1, hlog, ⟨receiver, hr⟩,
      ⟨found.argument, ?_, hq⟩, hcause⟩
    rw [hargs]
    simp
  · rintro ⟨call, hc, hlog, ⟨receiver, hr⟩, hq, hcause⟩
    obtain ⟨arg, harg⟩ := Option.isSome_iff_exists.1
      ((exceptionArgument_isSome_iff (s := s) []).2 hq)
    obtain ⟨fix, hfix⟩ : ∃ fix, buildFix? s call arg = some fix := by
      rw [buildFix?, hr]
      exact ⟨_, rfl⟩
    exact ⟨⟨call, fix, arg⟩, (evaluate_eq_some_iff log).2
      ⟨Cursor.call?_eq_some_iff.2 ⟨hc, hlog.1⟩, hlog, (exceptionArgument_eq_some_iff []).1 harg,
        hcause, hfix⟩⟩

/-- What is found at an expression when nothing has been logged before. -/
def verdict (s : Subject Id) (c : Cursor) : Option Match := ((evaluate s (some c)).run []).1

/-- The log has no part in what is found. -/
theorem evaluate_eq_verdict (s : Subject Id) (c : Cursor) (log : Log) :
    ((evaluate s (some c)).run log).1 = verdict s c := by
  refine Option.ext fun found => ?_
  exact (evaluate_eq_some_iff log).trans (evaluate_eq_some_iff []).symm

/-- What is found at a call is about that call. -/
theorem anchor_of_verdict {s : Subject Id} {c : Cursor} (hk : c.kind = "method_invocation")
    {found : Match} (h : verdict s c = some found) : c = found.anchor := by
  obtain ⟨hc, -⟩ := (evaluate_eq_some_iff []).1 h
  exact Option.some.inj ((Cursor.call?_of_kind hk).symm.trans hc)

theorem matchesAmong_run (s : Subject Id) (cs : List Cursor) (log : Log) :
    ((matchesAmong s cs).run log).1 = cs.filterMap (verdict s) := by
  induction cs generalizing log with
  | nil => rfl
  | cons c cs ih =>
    unfold matchesAmong
    cases h : verdict s c with
    | none =>
      rw [List.filterMap_cons_none h, fst_run_bind ((evaluate_eq_verdict s c log).trans h)]
      exact ih _
    | some found =>
      rw [List.filterMap_cons_some h, fst_run_bind ((evaluate_eq_verdict s c log).trans h)]
      exact congrArg (found :: ·) (ih _)

/-- The rule finds what it finds at each call of the unit. -/
theorem findAll_run (s : Subject Id) (log : Log) :
    ((findAll s).run log).1 = s.unit.invocations.filterMap (verdict s) :=
  matchesAmong_run s s.unit.invocations log

/-! ## The fix -/

theorem applyFixes_insertAfter {source : Bytes} {offset : Nat} (h : offset ≤ source.length)
    (text description : String) :
    applyFixes source [Fix.insertAfter offset text description] =
      .ok (source.take offset ++ Utf8.ofText text ++ source.drop offset) := by
  have hs : applyFixes source [Fix.insertAfter offset text description] =
      .ok (splice source 0 (insertions [(offset, text)])) :=
    applyFixes_insertions (by simp [Fix.insertAfter, insertions]) (List.pairwise_singleton _ _)
      (by simpa using h)
  rw [hs]
  simp [splice, insertions, Replacement.insertion]

/-- The bytes that a fix inserts for an argument between two boundaries. -/
theorem ofText_withCause {arg : Cursor} (hstart : Utf8.IsBoundary u.source arg.start)
    (hstop : Utf8.IsBoundary u.source arg.stop) :
    Utf8.ofText s!".withCause({u.textOf arg})" =
      Utf8.ofText ".withCause(" ++ u.bytesOf arg ++ Utf8.ofText ")" := by
  have hvalid : Utf8.isValid (u.bytesOf arg) = true := Utf8.isValid_slice hstart hstop
  show Utf8.ofText (".withCause(" ++ u.textOf arg ++ ")") = _
  rw [Utf8.ofText_append, Utf8.ofText_append, SourceUnit.textOf, Utf8.ofText_toText hvalid]

/-- The rule finds exactly the calls of `log` on the logging interface that have a receiver, a
qualifying argument, and no `withCause` among the first 256 links. What it finds is the call, with
the rightmost qualifying argument, and its fix writes that argument behind the receiver. -/
theorem evaluate_finds_missing_cause (u : SourceUnit) (o : Oracle Id) (c : Cursor) (log : Log) :
    let result := ((evaluate { unit := u, oracle := o } (some c)).run log).1
    (result.isSome ↔ ∃ call, c.stripParens = some call ∧ IsApiCall u o "log" call ∧
      (∃ receiver, call.object? = some receiver) ∧ (∃ a ∈ call.arguments, Qualifies o a) ∧
      ∀ link ∈ call.links.take 256, ¬ IsApiCall u o "withCause" link) ∧
    ∀ found, result = some found →
      c.stripParens = some found.anchor ∧
      (∃ before after, found.anchor.arguments = before ++ found.argument :: after ∧
        Qualifies o found.argument ∧ ∀ a ∈ after, ¬ Qualifies o a) ∧
      (c ∈ u.root.preorder →
        (∀ d ∈ u.root.preorder,
          Utf8.IsBoundary u.source d.start ∧ Utf8.IsBoundary u.source d.stop) →
        ∃ receiver, found.anchor.object? = some receiver ∧
          applyFixes u.source [found.fix] =
            .ok (u.source.take receiver.stop ++ Utf8.ofText ".withCause(" ++
              u.bytesOf found.argument ++ Utf8.ofText ")" ++ u.source.drop receiver.stop)) := by
  intro result
  refine ⟨evaluate_isSome_iff log, ?_⟩
  intro found hfound
  obtain ⟨hc, -, harg, -, hfix⟩ := (evaluate_eq_some_iff log).1 hfound
  have hstrip := (Cursor.call?_eq_some_iff.1 hc).1
  refine ⟨hstrip, harg, ?_⟩
  intro hmem hb
  obtain ⟨receiver, hr, hfix⟩ := Option.map_eq_some_iff.1 hfix
  obtain ⟨before, after, hargs, -⟩ := harg
  -- receiver and argument are nodes of the unit, so their ends are boundaries
  have hanchor := (Cursor.mem_preorder_iff.1 hmem).trans (Cursor.below_of_stripParens hstrip)
  have hreceiver := hb receiver
    (Cursor.mem_preorder_iff.2 (hanchor.trans (Cursor.below_of_childByField? hr)))
  have hargument := hb found.argument
    (Cursor.mem_preorder_iff.2 (hanchor.trans
      (Cursor.below_of_mem_arguments (by rw [hargs]; simp))))
  refine ⟨receiver, hr, ?_⟩
  rw [← hfix]
  refine (applyFixes_insertAfter hreceiver.2.1 _ _).trans ?_
  rw [ofText_withCause hargument.1 hargument.2]
  simp only [List.append_assoc]

/-- The tree of a call `l.log(…)` that begins at an offset. -/
def sampleCall (start : Nat) (argument : Tree) : Tree :=
  .node { kind := "method_invocation", start, stop := argument.stop + 1 } [
    .node { kind := "identifier", start, stop := start + 1, field := some "object" } [],
    .node { kind := ".", isNamed := false, start := start + 1, stop := start + 2 } [],
    .node { kind := "identifier", start := start + 2, stop := start + 5, field := some "name" } [],
    .node { kind := "argument_list", start := start + 5, stop := argument.stop + 1,
            field := some "arguments" } [
      .node { kind := "(", isNamed := false, start := start + 5, stop := start + 6 } [],
      argument,
      .node { kind := ")", isNamed := false, start := argument.stop, stop := argument.stop + 1 } []]]

/-- The unit of the source `l.log(l.log(e))`. -/
def sample : SourceUnit where
  path := "A.java"
  source := Utf8.ofText "l.log(l.log(e))"
  tree :=
    .node { kind := "program", start := 0, stop := 15 } [
      sampleCall 0 (sampleCall 6 (.node { kind := "identifier", start := 12, stop := 13 } []))]

/-- An oracle to which every expression is a logger and a throwable. -/
def agreeable : Oracle Id where
  typeOf _ := .ok (.type (.cls "T" [] false))
  receiverType _ := .ok (.type (.cls "T" [] false))
  isSubtype _ _ := .ok .yes
  isNullType _ := .ok false

theorem qualifies_agreeable (c : Cursor) : Qualifies agreeable c := ⟨_, rfl, by simp, rfl, rfl⟩

theorem isApiCall_agreeable {u : SourceUnit} {name : String} {call : Cursor}
    (hk : call.kind = "method_invocation") (hn : u.methodName call = name) :
    IsApiCall u agreeable name call := by
  refine ⟨hk, hn, "T", [], ?_, rfl⟩
  unfold Matcher.dispatchType
  split <;> rfl

theorem isBoundary_sample {n : Nat} (hn : n ≤ 15) : Utf8.IsBoundary sample.source n :=
  Utf8.isBoundary_of_ascii (by decide +kernel) hn

/-- The outer call of the sample. -/
def outer : Cursor :=
  ⟨sampleCall 0 (sampleCall 6 (.node { kind := "identifier", start := 12, stop := 13 } [])),
    [(sample.tree, 0)]⟩

theorem outer_mem_preorder : outer ∈ sample.root.preorder :=
  Cursor.mem_preorder_iff.2 ((Cursor.Below.refl _).child List.mem_cons_self)

theorem spans_sample : ∀ d ∈ sample.root.preorder, d.start ≤ 15 ∧ d.stop ≤ 15 := by
  simp [SourceUnit.root, Cursor.preorder_eq, Cursor.children, Cursor.childrenFrom, sample,
    sampleCall, Tree.children, Cursor.start, Cursor.stop, Tree.start, Tree.stop, Tree.label]

/-- The receiver of a sample call is a name, which attaches no cause. -/
theorem bare_sampleCall {u : SourceUnit} {o : Oracle Id} {c : Cursor} {start : Nat}
    {argument : Tree} (hc : c.focus = sampleCall start argument) :
    ∀ link ∈ c.links.take 256, ¬ IsApiCall u o "withCause" link := by
  obtain ⟨focus, above⟩ := c
  obtain rfl : focus = sampleCall start argument := hc
  obtain ⟨l, hl, hk, hn⟩ : ∃ l, (Cursor.mk (sampleCall start argument) above).nextLink? = some l ∧
      l.kind = "identifier" ∧ l.nextLink? = none := ⟨_, rfl, rfl, rfl⟩
  rw [Cursor.links_eq, hl]
  simp only
  rw [Cursor.links_eq, hn]
  intro link hlink hcall
  obtain rfl : link = l := by simpa using hlink
  exact absurd (hk.symm.trans hcall.1) (by decide)

theorem evaluate_finds_missing_cause_sample :
    ∃ found, ((evaluate { unit := sample, oracle := agreeable } (some outer)).run []).1 =
      some found ∧ applyFixes sample.source [found.fix] =
        .ok (Utf8.ofText "l.withCause(l.log(e)).log(l.log(e))") := by
  obtain ⟨hiff, hfix⟩ := evaluate_finds_missing_cause sample agreeable outer []
  have hname : sample.methodName outer = "log" := Utf8.toText_ofText "log"
  obtain ⟨found, hfound⟩ := Option.isSome_iff_exists.1 (hiff.2 ⟨outer, rfl,
    isApiCall_agreeable rfl hname, ⟨_, rfl⟩, ⟨_, List.mem_cons_self, qualifies_agreeable _⟩,
    bare_sampleCall rfl⟩)
  refine ⟨found, hfound, ?_⟩
  obtain ⟨hanchor, ⟨before, after, hargs, -⟩, happly⟩ := hfix found hfound
  obtain ⟨receiver, hreceiver, happly⟩ := happly outer_mem_preorder fun d hd =>
    ⟨isBoundary_sample (spans_sample d hd).1, isBoundary_sample (spans_sample d hd).2⟩
  rw [happly]
  rw [← Option.some.inj hanchor] at hargs hreceiver
  obtain ⟨rfl, ha, -⟩ : before = [] ∧ _ ∧ after = [] := by
    rcases List.append_eq_singleton_iff.1 hargs.symm with ⟨h, h'⟩ | ⟨-, h⟩
    · exact ⟨h, List.cons.inj h'⟩
    · cases h
  rw [ha, ← Option.some.inj hreceiver]
  decide

end Rule

end CauseLint
