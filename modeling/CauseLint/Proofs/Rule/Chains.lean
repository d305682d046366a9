import CauseLint.Proofs.Effects
import CauseLint.Proofs.Rule.Verdict

/-!
# Causes along a chain

A log statement has its cause when one of the first links of its receiver chain attaches one. The
links are asked about one after another, from the outermost inwards, until the oracle confirms one.
An oracle may change its mind on the way: what counts is what it says of a link in the state that
the questions about the links before it left.

Results:

* `Rule.isMatch_iff_saysApiCall`: what the oracle has to say of a link.
* `Rule.chainHasCause_iff_attaches`: what it has to say along a chain.
* `Rule.cause_found_along_chain`: where causes are looked for, and what follows when one is found.
-/

namespace CauseLint.Rule

variable {σ : Type} {u : SourceUnit} {o : Oracle (StateM σ)} {s : Subject (StateM σ)}

/-! ## Questions to an oracle with a state -/

/-- Asked in a state, an oracle says of a call that it is one of a method of the logging interface,
dispatched on a value. -/
def SaysApiCall (u : SourceUnit) (o : Oracle (StateM σ)) (name : String) (call : Cursor)
    (state : σ) : Prop :=
  call.kind = "method_invocation" ∧ u.methodName call = name ∧
    let dispatched := (Matcher.dispatchType o call).run state
    ∃ owner args, dispatched.1 = .ok (.type (.cls owner args false)) ∧
      ((o.isSubtype (.type (.cls owner args false)) loggingApi).run dispatched.2).1 = .ok .yes

/-- The state behind the questions about some links. -/
def stateBehind (s : Subject (StateM σ)) (links : List Cursor) (state : σ) : σ :=
  links.foldl (fun state link => (((isCauseCall s (some link)).run []).run state).2) state

/-- Asked about links one after another, an oracle says of one that it attaches a cause. -/
def AttachesCause (s : Subject (StateM σ)) (links : List Cursor) (state : σ) : Prop :=
  ∃ before link after, links = before ++ link :: after ∧
    SaysApiCall s.unit s.oracle "withCause" link (stateBehind s before state)

/-- What comes behind a computation goes on with its value and its state. -/
theorem run_bind_of_run {α β : Type} {x : StateM σ α} {f : α → StateM σ β} {state state' : σ}
    {a : α} (h : x.run state = (a, state')) : (x >>= f).run state = (f a).run state' := by
  show (f (x.run state).1).run (x.run state).2 = _
  rw [h]

/-- What an oracle has to say of the receiver of a call. -/
theorem acceptsReceiver_eq_ok_true_iff (name : String) {call : Cursor} {state : σ} :
    (((apiMethod name).acceptsReceiver o call).run state).1 = .ok true ↔
      let dispatched := (Matcher.dispatchType o call).run state
      ∃ owner args, dispatched.1 = .ok (.type (.cls owner args false)) ∧
        ((o.isSubtype (.type (.cls owner args false)) loggingApi).run dispatched.2).1 =
          .ok .yes := by
  unfold Matcher.acceptsReceiver
  rcases hd : (Matcher.dispatchType o call).run state with ⟨d, state'⟩
  rw [run_bind_of_run hd]
  have hrefused : ∀ {q : Except Failure Bool}, q ≠ .ok true →
      (∀ owner args, d ≠ .ok (.type (.cls owner args false))) →
      (q = .ok true ↔ ∃ owner args, d = .ok (.type (.cls owner args false)) ∧
        ((o.isSubtype (.type (.cls owner args false)) loggingApi).run state').1 = .ok .yes) :=
    fun hq hne => iff_of_false hq fun ⟨owner, args, h, _⟩ => hne owner args h
  cases d with
  | error f => exact hrefused (fun h => nomatch h) fun _ _ h => nomatch h
  | ok answer =>
    cases answer with
    | stray given => exact hrefused (fun h => nomatch h) fun _ _ h => nomatch h
    | type t =>
      cases t with
      | cls owner args isTypeName =>
        cases isTypeName with
        | true => exact hrefused (fun h => nomatch h) fun _ _ h => nomatch h
        | false =>
          rcases hs : (o.isSubtype (.type (.cls owner args false)) loggingApi).run state' with
            ⟨verdict, state''⟩
          show (((o.isSubtype (.type (.cls owner args false)) loggingApi) >>= _).run state').1 = _ ↔ _
          rw [run_bind_of_run hs]
          cases verdict with
          | error f => simp [hs]
          | ok answer =>
            show (.ok (decide (answer = .yes)) : Except Failure Bool) = .ok true ↔ _
            simp [hs]
      | primitive | array | null | void | error =>
        exact hrefused (fun h => nomatch h) fun _ _ h => nomatch h

theorem run_run_bind_of_run {α β : Type} {x : LogT (StateM σ) α} {f : α → LogT (StateM σ) β}
    {log log' : Log} {state state' : σ} {a : α}
    (h : (x.run log).run state = ((a, log'), state')) :
    ((x >>= f).run log).run state = ((f a).run log').run state' := by
  show ((f ((x.run log).run state).1.1).run ((x.run log).run state).1.2).run
    ((x.run log).run state).2 = _
  rw [h]

/-- What is asked next is asked in the state that the question before left. -/
theorem run_run_lift_bind {α β : Type} {x : StateM σ α} {f : α → LogT (StateM σ) β}
    {state state' : σ} {a : α} (h : x.run state = (a, state')) (log : Log) :
    ((StateT.lift x >>= f).run log).run state = ((f a).run log).run state' := by
  refine run_run_bind_of_run ?_
  show (((x.run state).1, log), (x.run state).2) = _
  rw [h]

/-- What a matcher finds of an expression that stands in no parentheses. -/
theorem isMatch_iff_saysApiCall {name : String} {link : Cursor}
    (hlink : link.stripParens = some link) (log : Log) (state : σ) :
    ((((apiMethod name).isMatch u o (some link)).run log).run state).1.1 = true ↔
      SaysApiCall u o name link state := by
  unfold Matcher.isMatch
  rw [Option.bind_some]
  split
  · rename_i hnone
    refine iff_of_false Bool.false_ne_true ?_
    rintro ⟨hkind, -⟩
    rw [Cursor.call?_of_kind hkind] at hnone
    cases hnone
  · rename_i call hcall
    obtain ⟨hstrip, hkind⟩ := Cursor.call?_eq_some_iff.1 hcall
    obtain rfl : link = call := Option.some.inj (hlink ▸ hstrip)
    by_cases hname : u.methodName link = name
    · have hnames : (!(apiMethod name).names.isEmpty &&
          !(apiMethod name).names.contains (u.methodName link)) = false := by
        simp [apiMethod, Matcher.named, hname]
      rw [hnames, SaysApiCall, ← acceptsReceiver_eq_ok_true_iff name]
      rcases hr : ((apiMethod name).acceptsReceiver o link).run state with ⟨accepts, state'⟩
      show (((StateT.lift ((apiMethod name).acceptsReceiver o link) >>= _).run log).run
        state).1.1 = true ↔ _
      rw [run_run_lift_bind hr]
      cases accepts with
      | error f =>
        refine iff_of_false Bool.false_ne_true ?_
        rintro ⟨_, _, h⟩
        cases h
      | ok answer =>
        show answer = true ↔ _
        simp [hkind, hname]
    · have hnames : (!(apiMethod name).names.isEmpty &&
          !(apiMethod name).names.contains (u.methodName link)) = true := by
        simp [apiMethod, Matcher.named, hname]
      rw [hnames]
      exact iff_of_false Bool.false_ne_true fun h => hname h.2.1

/-- The state behind a matcher does not depend on what the log holds. -/
theorem stateAfter_isMatch (p : Matcher) (c : Option Cursor) (log : Log) (state : σ) :
    (((p.isMatch u o c).run log).run state).2 = (((p.isMatch u o c).run []).run state).2 := by
  unfold Matcher.isMatch
  split
  · rfl
  · rename_i call hcall
    split
    · rfl
    · split
      · rfl
      · rcases hr : (p.acceptsReceiver o call).run state with ⟨accepts, state'⟩
        rw [run_run_lift_bind hr, run_run_lift_bind hr]
        cases accepts <;> rfl

/-! ## Questions along a chain -/

theorem attachesCause_nil {state : σ} : ¬ AttachesCause s [] state := by
  rintro ⟨before, link, after, h, -⟩
  exact absurd h (by simp)

/-- The first link attaches a cause, or one of those behind it does, asked about later. -/
theorem attachesCause_cons {link : Cursor} {rest : List Cursor} {state : σ} :
    AttachesCause s (link :: rest) state ↔ SaysApiCall s.unit s.oracle "withCause" link state ∨
      AttachesCause s rest (((isCauseCall s (some link)).run []).run state).2 := by
  constructor
  · rintro ⟨before, found, after, h, hsaid⟩
    cases before with
    | nil =>
      obtain ⟨rfl, -⟩ := List.cons.inj h
      exact .inl hsaid
    | cons first before =>
      obtain ⟨rfl, rfl⟩ := List.cons.inj h
      exact .inr ⟨before, found, after, rfl, hsaid⟩
  · rintro (hsaid | ⟨before, found, after, rfl, hsaid⟩)
    · exact ⟨[], link, rest, rfl, hsaid⟩
    · exact ⟨link :: before, found, after, rfl, hsaid⟩

theorem anyCause_iff_attaches {links : List Cursor}
    (hlinks : ∀ link ∈ links, link.stripParens = some link) (log : Log) (state : σ) :
    (((anyCause s links).run log).run state).1.1 = true ↔ AttachesCause s links state := by
  induction links generalizing log state with
  | nil => exact iff_of_false Bool.false_ne_true attachesCause_nil
  | cons link rest ih =>
    obtain ⟨hlink, hrest⟩ := List.forall_mem_cons.1 hlinks
    have hsaid : (((isCauseCall s (some link)).run log).run state).1.1 = true ↔
        SaysApiCall s.unit s.oracle "withCause" link state :=
      isMatch_iff_saysApiCall hlink log state
    have hstate : (((isCauseCall s (some link)).run log).run state).2 =
        (((isCauseCall s (some link)).run []).run state).2 := stateAfter_isMatch _ _ log state
    rw [attachesCause_cons, ← hsaid, ← hstate]
    rcases hr : ((isCauseCall s (some link)).run log).run state with ⟨⟨found, log'⟩, state'⟩
    rw [anyCause, run_run_bind_of_run hr]
    cases found with
    | true => exact iff_of_true rfl (.inl rfl)
    | false => exact (ih hrest log' state').trans (or_iff_right Bool.false_ne_true).symm

/-- What an oracle has to say along a chain. -/
theorem chainHasCause_iff_attaches (c : Cursor) (log : Log) (state : σ) :
    (((chainHasCause s c).run log).run state).1.1 = true ↔
      AttachesCause s (c.links.take Cursor.maxChainDepth) state := by
  rw [← anyCause_iff_attaches
    (fun link h => Cursor.stripParens_of_mem_links (List.mem_of_mem_take h)) log state]
  rcases hr : ((anyCause s (c.links.take Cursor.maxChainDepth)).run log).run state with
    ⟨⟨found, log'⟩, state'⟩
  show (((anyCause s (c.links.take Cursor.maxChainDepth) >>= _).run log).run state).1.1 = true ↔ _
  rw [run_run_bind_of_run hr]
  cases found with
  | true => exact iff_of_true rfl rfl
  | false =>
    rw [if_neg Bool.false_ne_true]
    cases (c.links.drop Cursor.maxChainDepth).head? <;>
      exact iff_of_false Bool.false_ne_true Bool.false_ne_true

/-- The state behind the questions whether a call emits a log statement and which of its arguments
is a throwable. -/
def stateBehindCall (s : Subject (StateM σ)) (call : Cursor) (log : Log) (state : σ) : σ :=
  (((isLogCall s (some call) >>= fun _ => exceptionArgument s call).run log).run state).2

/-- Nothing is found at a call whose chain attaches a cause. -/
theorem evaluate_eq_none_of_attaches {c call : Cursor} (hcall : c.call? = some call) {log : Log}
    {state : σ} (h : AttachesCause s (call.links.take Cursor.maxChainDepth)
      (stateBehindCall s call log state)) :
    (((evaluate s (some c)).run log).run state).1.1 = none := by
  unfold evaluate
  rw [Option.bind_some, hcall]
  unfold stateBehindCall at h
  rcases hlog : ((isLogCall s (some call)).run log).run state with ⟨⟨isLog, log₁⟩, state₁⟩
  rw [run_run_bind_of_run hlog] at h
  dsimp only
  rw [run_run_bind_of_run hlog]
  cases isLog with
  | false => rfl
  | true =>
    rw [if_neg (by decide)]
    rcases harg : ((exceptionArgument s call).run log₁).run state₁ with ⟨⟨arg, log₂⟩, state₂⟩
    rw [harg] at h
    rw [run_run_bind_of_run harg]
    cases arg with
    | none => rfl
    | some argument =>
      have hcause := (chainHasCause_iff_attaches call log₂ state₂).2 h
      rcases hr : ((chainHasCause s call).run log₂).run state₂ with ⟨⟨found, log₃⟩, state₃⟩
      rw [hr] at hcause
      obtain rfl : found = true := hcause
      dsimp only
      rw [run_run_bind_of_run hr]
      rfl

/-- Causes are looked for along the receiver chain of a call, the links of which lie in one another,
and no deeper than the depth that is looked through. One among these links is enough, wherever it
stands, and then nothing is found at the call. -/
theorem cause_found_along_chain (c : Cursor) :
    ∃ chain, Cursor.ReceiverChain c chain ∧
      (∀ other, Cursor.ReceiverChain c other → other = chain) ∧
      List.IsChain (fun link next => Cursor.Below link next ∧ next.focus.size < link.focus.size)
        (c :: chain) ∧
      (∀ depth log, (receiverLinks c depth).run log =
        (chain.take depth.toNat,
          log ++ if h : depth.toNat < chain.length then [truncation depth chain[depth.toNat]]
            else [])) ∧
      (∀ s : Subject Id,
        let attached := ∃ link ∈ chain.take Cursor.maxChainDepth,
          IsApiCall s.unit s.oracle "withCause" link
        (∀ log, ((chainHasCause s c).run log).1 = true ↔ attached) ∧
          (attached → ∀ log, ((evaluate s (some c)).run log).1 = none)) ∧
      ∀ (σ : Type) (s : Subject (StateM σ)) (log : Log) (state : σ),
        ((((chainHasCause s c).run log).run state).1.1 = true ↔
          AttachesCause s (chain.take Cursor.maxChainDepth) state) ∧
        ∀ call, c.call? = some call →
          AttachesCause s (chain.take Cursor.maxChainDepth) (stateBehindCall s call log state) →
            (((evaluate s (some c)).run log).run state).1.1 = none := by
  refine ⟨c.links, Cursor.receiverChain_iff.2 rfl, fun _ => Cursor.receiverChain_iff.1,
    Cursor.isChain_links c, ?_, ?_, ?_⟩
  case refine_1 =>
    intro depth log
    rw [run_receiverLinks]
    split
    · rename_i h
      rw [List.getElem?_eq_getElem h]
      rfl
    · rename_i h
      rw [List.getElem?_eq_none (Nat.le_of_not_lt h)]
      rfl
  case refine_2 =>
    refine fun s => ⟨fun log => chainHasCause_iff log, ?_⟩
    rintro ⟨link, hlink, hsaid⟩ log
    refine Option.eq_none_iff_forall_ne_some.2 fun found h => ?_
    obtain ⟨hcall, -, -, hfree, -⟩ := (evaluate_eq_some_iff log).1 h
    rw [Cursor.links_of_stripParens (Cursor.call?_eq_some_iff.1 hcall).1] at hlink
    exact hfree link hlink hsaid
  case refine_3 =>
    refine fun σ s log state => ⟨chainHasCause_iff_attaches c log state, fun call hcall h => ?_⟩
    rw [Cursor.links_of_stripParens (Cursor.call?_eq_some_iff.1 hcall).1] at h
    exact evaluate_eq_none_of_attaches hcall h

end CauseLint.Rule
