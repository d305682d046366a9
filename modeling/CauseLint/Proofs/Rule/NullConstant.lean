import CauseLint.Proofs.Rule.Chains
import CauseLint.Proofs.Rule.Joined

/-!
# Casts of the null constant

The null constant stays null in parentheses and under a cast. A cast looks for it one level below
itself only: under a second cast it is not seen, and the outer cast gets the type that it is written
with, which is never the null type. So casts of the null constant are null exactly when there is one
at most, and two casts to a throwable make an argument that the rule takes for an exception.

What is remembered of an expression with two casts or more is its placeholder or the type written in
the outermost cast. No question changes this, so it holds after every history, also when the written
type cannot be read.

Results:

* `Index.isNull_typeWithin`: no type node means the null type.
* `Index.outcome_of_recast`: what a question about two casts or more can give.
* `Rule.null_stays_null_iff`: which casts of the null constant are null, and which arguments the
  rule takes.
-/

namespace CauseLint

open Cursor (Unwrapped)

/-- The null constant under casts, the outermost first, with parentheses anywhere. -/
inductive CastsOfNull : List Cursor → Cursor → Prop
  | null {c d : Cursor} : Unwrapped c d → d.kind = "null_literal" → CastsOfNull [] c
  | cast {c d value : Cursor} {casts : List Cursor} : Unwrapped c d → d.kind = "cast_expression" →
    d.childByField? "value" = some value → CastsOfNull casts value → CastsOfNull (d :: casts) c

namespace CastsOfNull

variable {casts : List Cursor} {c d : Cursor}

/-- What the expression is without its parentheses. -/
theorem exists_stripParens (h : CastsOfNull casts c) :
    ∃ d, c.stripParens = some d ∧ (d.kind = "null_literal" ↔ casts = []) := by
  cases h with
  | null hd hkind => exact ⟨_, Cursor.stripParens_eq_some_iff.2 hd, iff_of_true hkind rfl⟩
  | cast hd hkind _ _ =>
    exact ⟨_, Cursor.stripParens_eq_some_iff.2 hd, iff_of_false (by rw [hkind]; decide) (by simp)⟩

theorem stripParens_of_cast (h : CastsOfNull (d :: casts) c) :
    c.stripParens = some d ∧ d.kind = "cast_expression" := by
  cases h with
  | cast hd hkind _ _ => exact ⟨Cursor.stripParens_eq_some_iff.2 hd, hkind⟩

/-- The outermost cast is a cast without its parentheses too. -/
theorem of_stripParens (h : CastsOfNull (d :: casts) c) : CastsOfNull (d :: casts) d := by
  have hdd := Cursor.stripParens_eq_some_iff.1
    (Cursor.stripParens_of_stripParens h.stripParens_of_cast.1)
  cases h with
  | cast _ hkind hvalue hcasts => exact .cast hdd hkind hvalue hcasts

end CastsOfNull

namespace Index

variable {x : Index}

/-! ## Written types -/

theorem isNull_arrayOf (element : StaticType) (dims : Nat) :
    (StaticType.arrayOf element dims).isNull = false := by
  obtain ⟨n, hn⟩ : ∃ n, max dims 1 = n + 1 := ⟨max dims 1 - 1, by omega⟩
  rw [StaticType.arrayOf, hn]
  rfl

/-- No type node means the null type. -/
theorem isNull_typeWithin {depth : Nat} {c : Cursor} {t : StaticType}
    (h : x.typeWithin depth c = .ok t) : t.isNull = false := by
  induction depth generalizing c t with
  | zero => cases h
  | succ depth ih =>
    rw [typeWithin] at h
    split at h
    · exact Except.ok.inj h ▸ rfl
    split at h
    · exact Except.ok.inj h ▸ rfl
    split at h
    · split at h
      · exact ih h
      · exact Except.ok.inj h ▸ rfl
    split at h
    · dsimp only at h
      split at h
      · obtain ⟨element, -, h⟩ := exists_of_bind_eq_ok h
        exact Except.ok.inj h ▸ isNull_arrayOf _ _
      · exact Except.ok.inj h ▸ isNull_arrayOf _ _
    split at h
    · dsimp only at h
      split at h
      · obtain ⟨base, hbase, h⟩ := exists_of_bind_eq_ok h
        obtain ⟨args, -, h⟩ := exists_of_bind_eq_ok h
        cases base with
        | cls name _ _ => exact Except.ok.inj h ▸ rfl
        | primitive | array | null | void | error => exact Except.ok.inj h ▸ ih hbase
      · obtain ⟨base, hbase, h⟩ := exists_of_bind_eq_ok h
        obtain rfl := Except.ok.inj hbase
        obtain ⟨args, -, h⟩ := exists_of_bind_eq_ok h
        exact Except.ok.inj h ▸ rfl
    split at h
    · dsimp only at h
      split at h
      · split at h
        · exact ih h
        · exact Except.ok.inj h ▸ rfl
      · exact Except.ok.inj h ▸ rfl
    split at h
    · exact Except.ok.inj h ▸ rfl
    · exact Except.ok.inj h ▸ rfl

theorem isNull_writtenType? {c : Option Cursor} {t : StaticType} (h : x.writtenType? c = .ok t) :
    t.isNull = false := by
  cases c with
  | none => exact Except.ok.inj h ▸ rfl
  | some c => exact isNull_typeWithin h

/-! ## What a cast asks for -/

section

variable {f : Cursor → Typing StaticType} {casts : List Cursor} {c d e : Cursor}

theorem compute_of_parens (hkind : c.kind = "parenthesized_expression") :
    compute x f c = typeOf? f c.stripParens := by
  rw [compute, hkind]
  rfl

theorem compute_of_cast (hkind : c.kind = "cast_expression") : compute x f c = castType x c := by
  rw [compute, hkind]
  rfl

/-- One cast sees the null constant. -/
theorem castType_of_null (h : CastsOfNull [d] c) : castType x d = pure .nullType := by
  cases h with
  | cast _ _ hvalue hnull =>
    obtain ⟨operand, hoperand, hkind⟩ := hnull.exists_stripParens
    rw [castType, hvalue, Option.bind_some, hoperand]
    exact if_pos (hkind.2 rfl)

/-- A cast does not see it under another cast. -/
theorem castType_of_cast (h : CastsOfNull (d :: e :: casts) c) :
    castType x d = x.written (d.childByField? "type") := by
  cases h with
  | cast _ _ hvalue hcasts =>
    obtain ⟨operand, hoperand, hkind⟩ := hcasts.exists_stripParens
    rw [castType, hvalue, Option.bind_some, hoperand]
    exact if_neg fun hnull => by simpa using hkind.1 hnull

/-- Parentheses have the type of what they enclose. -/
theorem hasType_of_stripParens {t : StaticType} (hd : c.stripParens = some d)
    (ht : x.HasType d t) : x.HasType c t := by
  by_cases hkind : c.kind = "parenthesized_expression"
  · obtain ⟨depth, ht⟩ := ht
    refine ⟨depth + 1, ?_⟩
    rw [plainWithin, compute_of_parens hkind, hd]
    exact ht
  · rw [Cursor.stripParens_of_kind_ne hkind] at hd
    exact Option.some.inj hd ▸ ht

/-- The null constant is null, and so it is under one cast. -/
theorem hasType_null (h : CastsOfNull casts c) (hcasts : casts.length ≤ 1) :
    x.HasType c .nullType := by
  match casts, h with
  | [], h =>
    obtain ⟨d, hd, hkind⟩ := h.exists_stripParens
    refine hasType_of_stripParens hd ⟨1, ?_⟩
    rw [plainWithin, compute, hkind.2 rfl]
    rfl
  | [d], h =>
    obtain ⟨hd, hkind⟩ := h.stripParens_of_cast
    refine hasType_of_stripParens hd ⟨1, ?_⟩
    rw [plainWithin, compute_of_cast hkind, castType_of_null h]
    rfl
  | _ :: _ :: _, _ => simp at hcasts

/-- Two casts or more have the type written in the outermost one. -/
theorem hasType_of_recast (h : CastsOfNull (d :: e :: casts) c) {t : StaticType}
    (ht : x.writtenType? (d.childByField? "type") = .ok t) : x.HasType c t := by
  obtain ⟨hd, hkind⟩ := h.stripParens_of_cast
  refine hasType_of_stripParens hd ⟨1, ?_⟩
  rw [plainWithin, compute_of_cast hkind, castType_of_cast h]
  exact ht

end

/-! ## What is remembered of two casts or more -/

/-- The type written in the outermost cast, or a placeholder. -/
def RecastType (x : Index) (d : Cursor) (t : StaticType) : Prop :=
  t = .errorType ∨ x.writtenType? (d.childByField? "type") = .ok t

/-- What a memory holds of two casts of the null constant or more. -/
def HoldsRecasts (x : Index) (memo : Memo) : Prop :=
  ∀ c d e rest, Cursor.Below x.unit.root c → CastsOfNull (d :: e :: rest) c →
    ∀ t, memo.get? c.key = some t → x.RecastType d t

theorem RecastType.isNull {d : Cursor} {t : StaticType} (h : x.RecastType d t) :
    t.isNull = false := by
  rcases h with rfl | h
  · rfl
  · exact isNull_writtenType? h

theorem HoldsRecasts.insert (hkeys : x.KeysApart) {memo : Memo} (h : x.HoldsRecasts memo)
    {c : Cursor} (hc : Cursor.Below x.unit.root c) {t : StaticType}
    (ht : ∀ d e rest, CastsOfNull (d :: e :: rest) c → x.RecastType d t) :
    x.HoldsRecasts (memo.insert c.key t) := by
  intro c' d e rest hc' hcasts s hs
  rw [Table.get?_insert] at hs
  split at hs
  · rename_i heq
    obtain rfl := hkeys.eq_of_key hc' hc (eq_of_beq heq)
    exact Option.some.inj hs ▸ ht d e rest hcasts
  · exact h c' d e rest hc' hcasts s hs

section

variable (hx : x.Rooted) (hkeys : x.KeysApart)

include hx hkeys

/-- Typing keeps what is remembered of two casts or more, and gives the same for them. Both go
through one induction on the depth: what is remembered next is what was given. -/
theorem recasts_typeOfWithin (depth : Nat) : ∀ c, Cursor.Below x.unit.root c →
    Keeps x.HoldsRecasts (x.typeOfWithin depth c) ∧
    ∀ d e rest, CastsOfNull (d :: e :: rest) c → ∀ memo, x.HoldsRecasts memo →
      ∀ t, outcome (x.typeOfWithin depth c) memo = .ok t → x.RecastType d t := by
  have hhit : ∀ {depth c memo s}, Cursor.Below x.unit.root c → memo.get? c.key = some s →
      ∀ d e rest, CastsOfNull (d :: e :: rest) c → x.HoldsRecasts memo →
        ∀ t, outcome (x.typeOfWithin depth c) memo = .ok t → x.RecastType d t := by
    intro depth c memo s hc hget d e rest hcasts hmemo t ht
    rw [(typeOfWithin_hit hget).1] at ht
    exact Except.ok.inj ht ▸ hmemo c d e rest hc hcasts s hget
  induction depth with
  | zero =>
    refine fun c hc => ⟨fun memo hmemo => ?_, fun d e rest hcasts memo hmemo t ht => ?_⟩
    · rwa [memoAfter_typeOfWithin_zero]
    · cases hget : memo.get? c.key with
      | some s => exact hhit hc hget d e rest hcasts hmemo t ht
      | none => cases (outcome_typeOfBy_zero hget).symm.trans ht
  | succ depth ih =>
    intro c hc
    have hcompute : ∀ memo, x.HoldsRecasts memo → ∀ d e rest, CastsOfNull (d :: e :: rest) c →
        ∀ t, outcome (compute x (x.typeOfWithin depth) c) memo = .ok t → x.RecastType d t := by
      intro memo hmemo d e rest hcasts t ht
      obtain ⟨hd, hcast⟩ := hcasts.stripParens_of_cast
      by_cases hkind : c.kind = "parenthesized_expression"
      · rw [compute_of_parens hkind, hd] at ht
        exact (ih d (hc.trans (Cursor.below_of_stripParens hd))).2 d e rest hcasts.of_stripParens
          memo hmemo t ht
      · obtain rfl := Option.some.inj ((Cursor.stripParens_of_kind_ne hkind).symm.trans hd)
        rw [compute_of_cast hcast, castType_of_cast hcasts] at ht
        exact .inr ht
    have hplaceholder : ∀ memo, x.HoldsRecasts memo →
        x.HoldsRecasts (memo.insert c.key .errorType) := fun memo hmemo =>
      hmemo.insert hkeys hc fun _ _ _ _ => .inl rfl
    refine ⟨fun memo hmemo => ?_, fun d e rest hcasts memo hmemo t ht => ?_⟩
    · cases hget : memo.get? c.key with
      | some s => rwa [(typeOfWithin_hit hget).2]
      | none =>
        have hkept : x.HoldsRecasts (memoAfter (compute x (x.typeOfWithin depth) c)
            (memo.insert c.key .errorType)) :=
          (respected_keeps x _).compute (g := x.typeOfWithin depth) (fun d hd => (ih d hd).1) hx hc
            _ (hplaceholder memo hmemo)
        rw [memoAfter_typeOfWithin_succ hget]
        dsimp only
        cases hout : outcome (compute x (x.typeOfWithin depth) c)
            (memo.insert c.key .errorType) with
        | error failure => exact hkept
        | ok t =>
          exact hkept.insert hkeys hc fun d e rest hcasts =>
            hcompute _ (hplaceholder memo hmemo) d e rest hcasts t hout
    · cases hget : memo.get? c.key with
      | some s => exact hhit hc hget d e rest hcasts hmemo t ht
      | none =>
        rw [outcome_typeOfWithin_succ hget] at ht
        exact hcompute _ (hplaceholder memo hmemo) d e rest hcasts t ht

end

end Index

namespace Rule

/-! ## Arguments -/

section

variable {x : Index} {p : Memo → Prop}

/-- What typing keeps is kept by all questions below a node. -/
theorem asks_keeps (hkeeps : ∀ d, Cursor.Below x.unit.root d → Index.Keeps p (x.typeOf d))
    {c : Cursor} (hc : Cursor.Below x.unit.root c) : Asks x (Keeps p) c := by
  intro d hd log memo h
  show p ((Typing.answer (x.typeOf d)).run memo).2
  rw [run_answer]
  exact hkeeps d (hc.trans hd) memo h

/-- A type that the oracle gives is what the typing comes to. -/
theorem outcome_of_answer {c : Cursor} {memo : Memo} {t : StaticType}
    (h : ((x.oracle.typeOf c).run memo).1 = .ok (.type t)) :
    Index.outcome (x.typeOf c) memo = .ok t := by
  have hrun : (x.oracle.typeOf c).run memo = _ := run_answer (x.typeOf c) memo
  rw [hrun] at h
  cases hout : Index.outcome (x.typeOf c) memo with
  | error e =>
    rw [hout] at h
    cases e
    cases h
  | ok s =>
    rw [hout] at h
    cases h
    rfl

/-- The rule takes for a throwable only what has the type of one. -/
theorem exists_of_isThrowable {c : Cursor} {memo : Memo}
    (h : ((isThrowable x.oracle c).run memo).1 = .ok true) :
    ∃ t, Index.outcome (x.typeOf c) memo = .ok t ∧ x.subtyping t throwableClass = .yes := by
  have hrun : (x.oracle.typeOf c).run memo = _ := run_answer (x.typeOf c) memo
  cases hout : Index.outcome (x.typeOf c) memo with
  | error e =>
    rw [hout] at hrun
    unfold isThrowable at h
    rw [run_bind_of_run hrun] at h
    cases e
    cases h
  | ok t =>
    rw [hout] at hrun
    rw [isThrowable_of_run hrun, Except.ok.injEq, Bool.and_eq_true, decide_eq_true_eq] at h
    exact ⟨t, rfl, h.2⟩

/-- An argument that is never a throwable is not taken. -/
theorem firstThrowable_ne {s : Subject (StateM Memo)} {c : Cursor} {args : List Cursor}
    (hkeeps : ∀ a ∈ args, ∀ memo, p memo → p ((isThrowable s.oracle a).run memo).2)
    (hc : ∀ memo, p memo → ((isThrowable s.oracle c).run memo).1 ≠ .ok true) (log : Log)
    {memo : Memo} (hmemo : p memo) :
    (((firstThrowable s args).run log).run memo).1.1 ≠ some c := by
  induction args generalizing log memo with
  | nil => exact fun h => nomatch h
  | cons a rest ih =>
    obtain ⟨ha, hrest⟩ := List.forall_mem_cons.1 hkeeps
    have hafter := ha memo hmemo
    rcases hrun : (isThrowable s.oracle a).run memo with ⟨answer, memo'⟩
    rw [hrun] at hafter
    rw [firstThrowable, run_run_lift_bind hrun]
    match answer with
    | .ok true =>
      intro h
      obtain rfl : a = c := Option.some.inj h
      refine hc memo hmemo ?_
      rw [hrun]
    | .ok false => exact ih hrest log hafter
    | .error f => exact ih hrest _ hafter

end

/-- The last argument is taken if it is a throwable. -/
theorem exceptionArgument_of_last {s : Subject (StateM Memo)} {call c : Cursor}
    (hlast : call.arguments.getLast? = some c) {log : Log} {memo : Memo}
    (hthrows : ((isThrowable s.oracle c).run memo).1 = .ok true) :
    (((exceptionArgument s call).run log).run memo).1.1 = some c := by
  obtain ⟨others, hothers⟩ := List.getLast?_eq_some_iff.1 hlast
  rcases hrun : (isThrowable s.oracle c).run memo with ⟨answer, memo'⟩
  rw [hrun] at hthrows
  obtain rfl : answer = .ok true := hthrows
  rw [exceptionArgument, hothers, List.reverse_append, List.reverse_singleton,
    List.singleton_append, firstThrowable, run_run_lift_bind hrun]
  rfl

section

variable {x : Index} (hx : x.Rooted) (hkeys : x.KeysApart) {c d e : Cursor}
  (hc : Cursor.Below x.unit.root c) {casts : List Cursor} {memo : Memo}

include hx hkeys hc

/-- Under one cast at most the oracle answers with the null type. -/
theorem run_typeOf_null (hcasts : CastsOfNull casts c) (hle : casts.length ≤ 1)
    (hmemo : x.Sound [] memo) :
    (x.oracle.typeOf c).run memo = (.ok (.type .nullType), Index.memoAfter (x.typeOf c) memo) :=
  run_typeOf_of_hasType hx hkeys hc (Index.hasType_null hcasts hle) hmemo

/-- Then the rule does not take the expression. -/
theorem exceptionArgument_ne_null (hcasts : CastsOfNull casts c) (hle : casts.length ≤ 1)
    {s : Subject (StateM Memo)} (hs : s.oracle = x.oracle) {call : Cursor}
    (hcall : Cursor.Below x.unit.root call) (hmemo : x.Sound [] memo) (log : Log) :
    (((exceptionArgument s call).run log).run memo).1.1 ≠ some c := by
  refine firstThrowable_ne (p := x.Sound []) ?_ ?_ log hmemo <;> rw [hs]
  · intro a ha memo h
    have hbelow := hcall.trans (Cursor.below_of_mem_arguments (List.mem_reverse.1 ha))
    exact (stepwise_keeps (x.Sound [])).isThrowable (asks_keeps_sound hx hbelow hkeys) [] memo h
  · intro memo h hthrows
    rw [isThrowable_of_run (run_typeOf_null hx hkeys hc hcasts hle h)] at hthrows
    cases hthrows

variable {render : Cursor → String}
  (hmemo : After { unit := x.unit, oracle := x.oracle, render } {} memo)

include hmemo

/-- After a history, two casts or more have the type written in the outermost one, if any. -/
theorem recastType_of_outcome (hcasts : CastsOfNull (d :: e :: casts) c) {t : StaticType}
    (ht : Index.outcome (x.typeOf c) memo = .ok t) : x.RecastType d t := by
  have hholds : x.HoldsRecasts memo :=
    hmemo.keeps rfl (fun c hc => asks_keeps
      (fun d hd => (Index.recasts_typeOfWithin hx hkeys _ d hd).1) hc)
      fun _ _ _ _ _ _ _ h => nomatch h
  exact (Index.recasts_typeOfWithin hx hkeys _ c hc).2 d e casts hcasts memo hholds t ht

/-- After a history, the oracle answers with the null type when there is one cast at most. -/
theorem typeOf_null_iff (hcasts : CastsOfNull casts c) :
    ((x.oracle.typeOf c).run memo).1 = .ok (.type .nullType) ↔ casts.length ≤ 1 := by
  constructor
  · intro hnull
    match casts, hcasts with
    | [], _ | [_], _ => simp
    | d :: e :: rest, hcasts =>
      have hrecast := recastType_of_outcome hx hkeys hc hmemo hcasts (outcome_of_answer hnull)
      cases hrecast.isNull
  · intro hle
    rw [run_typeOf_null hx hkeys hc hcasts hle (hmemo.sound hx hkeys)]

/-- After a history, two casts or more of a type that can be read have this type. -/
theorem run_typeOf_recast (hcasts : CastsOfNull (d :: e :: casts) c) {t : StaticType}
    (ht : x.writtenType? (d.childByField? "type") = .ok t) :
    (x.oracle.typeOf c).run memo = (.ok (.type t), Index.memoAfter (x.typeOf c) memo) :=
  run_typeOf_of_hasType hx hkeys hc (Index.hasType_of_recast hcasts ht) (hmemo.sound hx hkeys)

/-- After a history, the rule takes for a throwable what two casts or more turn into one. -/
theorem isThrowable_casts_iff (hcasts : CastsOfNull casts c) :
    ((isThrowable x.oracle c).run memo).1 = .ok true ↔
      ∃ d e rest t, casts = d :: e :: rest ∧ x.writtenType? (d.childByField? "type") = .ok t ∧
        x.subtyping t throwableClass = .yes := by
  constructor
  · intro hthrowable
    obtain ⟨t, hout, hsub⟩ := exists_of_isThrowable hthrowable
    by_cases hle : casts.length ≤ 1
    · rw [isThrowable_of_run
        (run_typeOf_null hx hkeys hc hcasts hle (hmemo.sound hx hkeys))] at hthrowable
      cases hthrowable
    · match casts, hcasts with
      | [], _ | [_], _ => simp at hle
      | d :: e :: rest, hcasts =>
        rcases recastType_of_outcome hx hkeys hc hmemo hcasts hout with rfl | ht
        · cases hsub
        · exact ⟨d, e, rest, t, rfl, ht, hsub⟩
  · rintro ⟨d, e, rest, t, rfl, ht, hsub⟩
    rw [isThrowable_of_run (run_typeOf_recast hx hkeys hc hmemo hcasts ht),
      Index.isNull_writtenType? ht, hsub]
    rfl

end

/-- Casts of the null constant are null exactly when there is one at most, and then the rule does
not take them. Under more casts the type is the one written in the outermost cast, and the
expression is an exception for the rule when this is a throwable. -/
theorem null_stays_null_iff {u : SourceUnit} {parent : Hierarchy} {x : Index}
    (hx : Index.build u parent = .ok x) (hkeys : x.KeysApart) (render : Cursor → String)
    {c : Cursor} {casts : List Cursor} (hc : Cursor.Below u.root c) (hcasts : CastsOfNull casts c) :
    let s : Subject (StateM Memo) := { unit := u, oracle := x.oracle, render }
    ∀ memo, After s {} memo →
      (((s.oracle.typeOf c).run memo).1 = .ok (.type .nullType) ↔ casts.length ≤ 1) ∧
      (∀ d e rest t, casts = d :: e :: rest →
        x.writtenType? (d.childByField? "type") = .ok t →
          ((s.oracle.typeOf c).run memo).1 = .ok (.type t)) ∧
      (((isThrowable s.oracle c).run memo).1 = .ok true ↔
        ∃ d e rest t, casts = d :: e :: rest ∧
          x.writtenType? (d.childByField? "type") = .ok t ∧
          x.subtyping t throwableClass = .yes) ∧
      ∀ call log, Cursor.Below u.root call →
        (casts.length ≤ 1 → (((exceptionArgument s call).run log).run memo).1.1 ≠ some c) ∧
        (call.arguments.getLast? = some c → ((isThrowable s.oracle c).run memo).1 = .ok true →
          (((exceptionArgument s call).run log).run memo).1.1 = some c) := by
  obtain ⟨rfl, hrooted⟩ := Index.rooted_of_build hx
  intro s memo hmemo
  refine ⟨typeOf_null_iff hrooted hkeys hc hmemo hcasts, ?_,
    isThrowable_casts_iff hrooted hkeys hc hmemo hcasts, fun call log hcall => ⟨fun hle => ?_, ?_⟩⟩
  · rintro d e rest t rfl ht
    rw [run_typeOf_recast hrooted hkeys hc hmemo hcasts ht]
  · exact exceptionArgument_ne_null hrooted hkeys hc hcasts hle rfl hcall
      (hmemo.sound hrooted hkeys) log
  · exact fun hlast hthrows => exceptionArgument_of_last hlast hthrows

/-- A throwable class and one below it. -/
def recastTypes : Hierarchy :=
  [Hierarchy.classInfo objectClass [],
   Hierarchy.classInfo throwableClass [objectClass],
   Hierarchy.classInfo "java.lang.Exception" [throwableClass]].foldl Hierarchy.declare {}

/-- The unit of a class whose method logs the null constant under two casts. -/
def recastNull : SourceUnit where
  path := "F.java"
  source := Utf8.ofText ("class F \x7b void f(Api l) \x7b " ++
    "l.log((Exception) (Throwable) null); \x7d \x7d")
  tree :=
    .node { kind := "program", start := 0, stop := 66 } [
      .node { kind := "class_declaration", start := 0, stop := 66 } [
        .node { kind := "class", isNamed := false, start := 0, stop := 5 } [],
        .node { kind := "identifier", start := 6, stop := 7, field := some "name" } [],
        .node { kind := "class_body", start := 8, stop := 66, field := some "body" } [
          .node { kind := "\x7b", isNamed := false, start := 8, stop := 9 } [],
          .node { kind := "method_declaration", start := 10, stop := 64 } [
            .node { kind := "void_type", start := 10, stop := 14, field := some "type" } [],
            .node { kind := "identifier", start := 15, stop := 16, field := some "name" } [],
            .node { kind := "formal_parameters", start := 16, stop := 23,
                    field := some "parameters" } [
              .node { kind := "(", isNamed := false, start := 16, stop := 17 } [],
              .node { kind := "formal_parameter", start := 17, stop := 22 } [
                .node { kind := "type_identifier", start := 17, stop := 20,
                        field := some "type" } [],
                .node { kind := "identifier", start := 21, stop := 22, field := some "name" } []],
              .node { kind := ")", isNamed := false, start := 22, stop := 23 } []],
            .node { kind := "block", start := 24, stop := 64, field := some "body" } [
              .node { kind := "\x7b", isNamed := false, start := 24, stop := 25 } [],
              .node { kind := "expression_statement", start := 26, stop := 62 } [
                .node { kind := "method_invocation", start := 26, stop := 61 } [
                  .node { kind := "identifier", start := 26, stop := 27,
                          field := some "object" } [],
                  .node { kind := ".", isNamed := false, start := 27, stop := 28 } [],
                  .node { kind := "identifier", start := 28, stop := 31,
                          field := some "name" } [],
                  .node { kind := "argument_list", start := 31, stop := 61,
                          field := some "arguments" } [
                    .node { kind := "(", isNamed := false, start := 31, stop := 32 } [],
                    .node { kind := "cast_expression", start := 32, stop := 60 } [
                      .node { kind := "(", isNamed := false, start := 32, stop := 33 } [],
                      .node { kind := "type_identifier", start := 33, stop := 42,
                              field := some "type" } [],
                      .node { kind := ")", isNamed := false, start := 42, stop := 43 } [],
                      .node { kind := "cast_expression", start := 44, stop := 60,
                              field := some "value" } [
                        .node { kind := "(", isNamed := false, start := 44, stop := 45 } [],
                        .node { kind := "type_identifier", start := 45, stop := 54,
                                field := some "type" } [],
                        .node { kind := ")", isNamed := false, start := 54, stop := 55 } [],
                        .node { kind := "null_literal", start := 56, stop := 60,
                                field := some "value" } []]],
                    .node { kind := ")", isNamed := false, start := 60, stop := 61 } []]],
                .node { kind := ";", isNamed := false, start := 61, stop := 62 } []],
              .node { kind := "\x7d", isNamed := false, start := 63, stop := 64 } []]],
          .node { kind := "\x7d", isNamed := false, start := 65, stop := 66 } []]]]

/-- The index of the class over the two throwable classes. -/
def recastNullIndex : Index :=
  (Index.build recastNull recastTypes).toOption.getD { unit := recastNull, hierarchy := {} }

/-- The logged argument is a cast, what it casts is another, and that casts the null constant. -/
theorem known_recastNull :
    let x := recastNullIndex
    let call := nodeAt recastNull "method_invocation" 26
    (Index.build recastNull recastTypes).isOk = true ∧
    (x.unit.root.preorder.map Cursor.key).Nodup ∧
    x.hierarchy.subtyping "java.lang.Exception" throwableClass = .yes ∧
    ∃ outer ∈ call.arguments.getLast?, ∃ inner ∈ outer.childByField? "value",
      ∃ null ∈ inner.childByField? "value",
      [outer, inner, null].map Cursor.kind =
        ["cast_expression", "cast_expression", "null_literal"] ∧
      (x.writtenType? (outer.childByField? "type")).toOption =
        some (.ofClass "java.lang.Exception") := by
  decide +kernel

theorem build_recastNull : Index.build recastNull recastTypes = .ok recastNullIndex :=
  eq_ok_getD_of_isOk known_recastNull.1 _

/-- The second cast makes an exception of the null constant, and the rule takes it. -/
theorem null_stays_null_iff_recastNull :
    let s : Subject (StateM Memo) := { unit := recastNull, oracle := recastNullIndex.oracle }
    let call := nodeAt recastNull "method_invocation" 26
    ∃ outer inner, call.arguments.getLast? = some outer ∧ CastsOfNull [outer, inner] outer ∧
      ((s.oracle.typeOf outer).run {}).1 = .ok (.type (.ofClass "java.lang.Exception")) ∧
      ((isThrowable s.oracle outer).run {}).1 = .ok true ∧
      (((exceptionArgument s call).run []).run {}).1.1 = some outer := by
  intro s call
  obtain ⟨-, hkeys, hsub, outer, houter, inner, hinner, null, hnull, hkinds, hwritten⟩ :=
    known_recastNull
  simp only [List.map_cons, List.map_nil, List.cons.injEq] at hkinds
  obtain ⟨houterkind, hinnerkind, hnullkind, -⟩ := hkinds
  have hwritten := eq_ok_of_toOption hwritten
  have hbare : ∀ {c : Cursor}, c.kind ≠ "parenthesized_expression" → Unwrapped c c := fun h =>
    ⟨h, [], Nat.zero_le _, .bare _⟩
  have hcasts : CastsOfNull [outer, inner] outer :=
    .cast (hbare (by rw [houterkind]; decide)) houterkind hinner
      (.cast (hbare (by rw [hinnerkind]; decide)) hinnerkind hnull
        (.null (hbare (by rw [hnullkind]; decide)) hnullkind))
  have hbelow : Cursor.Below recastNull.root outer := (below_nodeAt _ _ _).trans
    (Cursor.below_of_mem_arguments (List.mem_of_getLast? houter))
  obtain ⟨-, htype, hiff, htaken⟩ :=
    null_stays_null_iff build_recastNull hkeys recastNull.textOf hbelow hcasts {} .start
  have hthrows := hiff.2 ⟨outer, inner, [], _, rfl, hwritten, hsub⟩
  exact ⟨outer, inner, houter, hcasts, htype outer inner [] _ rfl hwritten, hthrows,
    (htaken call [] (below_nodeAt _ _ _)).2 houter hthrows⟩

end Rule

end CauseLint
