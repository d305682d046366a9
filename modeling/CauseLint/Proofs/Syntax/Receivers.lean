import CauseLint.Proofs.Syntax.Traversal
import Mathlib.Data.List.Chain

/-!
# Parentheses and receiver chains

What parentheses an expression stands in, and what its receiver chain is, are relations between
nodes: an expression in parentheses is the first part of the node of the parentheses, and the next
link of a chain is the object of a call or of a field access, parentheses removed. Parentheses that
are nested too deep are not looked through; they end a chain.

Results:

* `Cursor.stripParens_eq_some_iff`: what is found inside parentheses.
* `Cursor.receiverChain_iff`: every expression has one receiver chain.
* `Cursor.isChain_links`: each link lies in the one before and is smaller.
* `run_receiverLinks`: the links up to a depth, and when there is a warning.
-/

namespace CauseLint

namespace Cursor

/-! ## Parentheses -/

/-- Nested parentheses around an expression, the outermost first. -/
inductive Wraps : List Cursor → Cursor → Cursor → Prop
  | bare (c : Cursor) : Wraps [] c c
  | paren {c inner d : Cursor} {parens : List Cursor} : c.kind = "parenthesized_expression" →
    c.parts.head? = some inner → Wraps parens inner d → Wraps (c :: parens) c d

/-- An expression without its parentheses, of which there are no more than are looked through. -/
def Unwrapped (c d : Cursor) : Prop :=
  d.kind ≠ "parenthesized_expression" ∧ ∃ parens, parens.length ≤ maxChainDepth ∧ Wraps parens c d

/-- What is no node of parentheses stands in none. -/
theorem wraps_iff_of_kind_ne {parens : List Cursor} {c d : Cursor}
    (hc : c.kind ≠ "parenthesized_expression") : Wraps parens c d ↔ parens = [] ∧ d = c := by
  constructor
  · intro h
    cases h with
    | bare => exact ⟨rfl, rfl⟩
    | paren hkind _ _ => exact absurd hkind hc
  · rintro ⟨rfl, rfl⟩
    exact .bare d

theorem stripParensWithin_of_kind_ne {c : Cursor} (hc : c.kind ≠ "parenthesized_expression")
    (n : Nat) : stripParensWithin n c = some c := by
  unfold stripParensWithin
  rw [if_neg hc]

theorem stripParensWithin_iff_of_kind_ne {n : Nat} {c d : Cursor}
    (hc : c.kind ≠ "parenthesized_expression") :
    stripParensWithin n c = some d ↔ d.kind ≠ "parenthesized_expression" ∧
      ∃ parens, parens.length ≤ n ∧ Wraps parens c d := by
  rw [stripParensWithin_of_kind_ne hc, Option.some.injEq]
  simp only [wraps_iff_of_kind_ne hc]
  constructor
  · rintro rfl
    exact ⟨hc, [], Nat.zero_le n, rfl, rfl⟩
  · rintro ⟨-, -, -, -, h⟩
    exact h.symm

theorem stripParensWithin_zero {c : Cursor} (hc : c.kind = "parenthesized_expression") :
    stripParensWithin 0 c = none := by
  unfold stripParensWithin
  rw [if_pos hc]
  cases c.parts <;> rfl

theorem stripParensWithin_succ {c : Cursor} (hc : c.kind = "parenthesized_expression") (n : Nat) :
    stripParensWithin (n + 1) c = c.parts.head?.bind (stripParensWithin n) := by
  conv_lhs => unfold stripParensWithin
  rw [if_pos hc]
  cases c.parts <;> rfl

/-- What is found within a number of parentheses. -/
theorem stripParensWithin_eq_some_iff {n : Nat} {c d : Cursor} :
    stripParensWithin n c = some d ↔ d.kind ≠ "parenthesized_expression" ∧
      ∃ parens, parens.length ≤ n ∧ Wraps parens c d := by
  induction n generalizing c with
  | zero =>
    by_cases hc : c.kind = "parenthesized_expression"
    · rw [stripParensWithin_zero hc]
      refine iff_of_false (by simp) ?_
      rintro ⟨hd, parens, hlength, h⟩
      obtain rfl := List.eq_nil_of_length_eq_zero (Nat.le_zero.1 hlength)
      cases h
      exact hd hc
    · exact stripParensWithin_iff_of_kind_ne hc
  | succ n ih =>
    by_cases hc : c.kind = "parenthesized_expression"
    · rw [stripParensWithin_succ hc, Option.bind_eq_some_iff]
      constructor
      · rintro ⟨inner, hinner, h⟩
        obtain ⟨hd, parens, hlength, h⟩ := ih.1 h
        exact ⟨hd, c :: parens, Nat.succ_le_succ hlength, .paren hc hinner h⟩
      · rintro ⟨hd, parens, hlength, h⟩
        cases h with
        | bare => exact absurd hc hd
        | paren _ hinner h =>
          exact ⟨_, hinner, ih.2 ⟨hd, _, Nat.le_of_succ_le_succ hlength, h⟩⟩
    · exact stripParensWithin_iff_of_kind_ne hc

/-- What is found inside parentheses. -/
theorem stripParens_eq_some_iff {c d : Cursor} : c.stripParens = some d ↔ Unwrapped c d :=
  stripParensWithin_eq_some_iff

theorem kind_ne_of_stripParens {c d : Cursor} (h : c.stripParens = some d) :
    d.kind ≠ "parenthesized_expression" := (stripParens_eq_some_iff.1 h).1

/-- Nothing is stripped off what is in no parentheses. -/
theorem stripParens_of_kind_ne {c : Cursor} (h : c.kind ≠ "parenthesized_expression") :
    c.stripParens = some c := stripParens_eq_some_iff.2 ⟨h, [], Nat.zero_le _, .bare c⟩

/-- What is stripped once is stripped for good. -/
theorem stripParens_of_stripParens {c d : Cursor} (h : c.stripParens = some d) :
    d.stripParens = some d := stripParens_of_kind_ne (kind_ne_of_stripParens h)

theorem call?_eq_some_iff {c call : Cursor} :
    c.call? = some call ↔ c.stripParens = some call ∧ call.kind = "method_invocation" := by
  unfold call?
  split
  · rename_i d hd
    split
    · rename_i hk
      rw [hd, Option.some.injEq]
      constructor
      · rintro rfl
        exact ⟨rfl, hk⟩
      · exact fun h => h.1
    · rename_i hk
      rw [hd, Option.some.injEq]
      constructor
      · intro h
        cases h
      · rintro ⟨rfl, h⟩
        exact absurd h hk
  · rename_i hn
    simp [hn]

/-- A call is the call it is. -/
theorem call?_of_kind {c : Cursor} (h : c.kind = "method_invocation") : c.call? = some c :=
  call?_eq_some_iff.2 ⟨stripParens_of_kind_ne (by rw [h]; decide), h⟩

/-! ## Chains -/

/-- The next link of a receiver chain: the object of a call or of a field access, parentheses
removed on both sides. -/
def Link (c d : Cursor) : Prop :=
  ∃ access object, Unwrapped c access ∧
    (access.kind = "method_invocation" ∨ access.kind = "field_access") ∧
    access.childByField? "object" = some object ∧ Unwrapped object d

/-- The links that follow one another from an expression, until there is no next one. -/
inductive ReceiverChain : Cursor → List Cursor → Prop
  | stop {c : Cursor} : (∀ d, ¬ Link c d) → ReceiverChain c []
  | step {c d : Cursor} {chain : List Cursor} : Link c d → ReceiverChain d chain →
    ReceiverChain c (d :: chain)

theorem receiver?_eq_some_iff {c object : Cursor} :
    c.receiver? = some object ↔ ∃ access, Unwrapped c access ∧
      (access.kind = "method_invocation" ∨ access.kind = "field_access") ∧
      access.childByField? "object" = some object := by
  unfold receiver?
  simp only [← stripParens_eq_some_iff]
  cases c.stripParens with
  | none => simp
  | some access => simp

theorem nextLink?_eq_some_iff {c d : Cursor} : c.nextLink? = some d ↔ Link c d := by
  rw [nextLink?, Option.bind_eq_some_iff]
  simp only [receiver?_eq_some_iff, stripParens_eq_some_iff, Link]
  constructor
  · rintro ⟨object, ⟨access, hc, hkind, hobject⟩, hd⟩
    exact ⟨access, object, hc, hkind, hobject, hd⟩
  · rintro ⟨access, object, hc, hkind, hobject, hd⟩
    exact ⟨object, ⟨access, hc, hkind, hobject⟩, hd⟩

theorem links_eq (c : Cursor) :
    c.links = match c.nextLink? with | none => [] | some d => d :: d.links := by
  rw [links]
  split <;> simp_all

/-- Every expression has one receiver chain, its links. -/
theorem receiverChain_iff {c : Cursor} {chain : List Cursor} :
    ReceiverChain c chain ↔ chain = c.links := by
  constructor
  · intro h
    induction h with
    | @stop c hc =>
      have hnone : c.nextLink? = none :=
        Option.eq_none_iff_forall_ne_some.2 fun d hd => hc d (nextLink?_eq_some_iff.1 hd)
      rw [links_eq, hnone]
    | @step c d chain hd _ ih => rw [links_eq, nextLink?_eq_some_iff.2 hd, ih]
  · rintro rfl
    fun_induction links c with
    | case1 c hc =>
      refine .stop fun d hd => ?_
      rw [nextLink?_eq_some_iff.2 hd] at hc
      cases hc
    | case2 c d hd ih => exact .step (nextLink?_eq_some_iff.1 hd) ih

/-- A link stands in no parentheses. -/
theorem stripParens_of_mem_links {c link : Cursor} (h : link ∈ c.links) :
    link.stripParens = some link := by
  fun_induction links c with
  | case1 => cases h
  | case2 c d hd ih =>
    rcases List.mem_cons.1 h with rfl | h
    · obtain ⟨r, -, hr⟩ := Option.bind_eq_some_iff.1 hd
      exact stripParens_of_stripParens hr
    · exact ih h

/-- A chain does not see the parentheses around the expression it begins at. -/
theorem links_of_stripParens {c d : Cursor} (h : c.stripParens = some d) : c.links = d.links := by
  have hnext : c.nextLink? = d.nextLink? := by
    rw [nextLink?, nextLink?, receiver?, receiver?, h, stripParens_of_stripParens h]
  rw [links_eq c, links_eq d, hnext]

/-! ## Ways down a chain -/

theorem below_of_receiver? {c d : Cursor} (h : c.receiver? = some d) : Below c d := by
  unfold receiver? at h
  split at h
  · cases h
  · rename_i e he
    split at h
    · exact (below_of_stripParens he).trans (below_of_childByField? h)
    · cases h

theorem below_of_nextLink? {c d : Cursor} (h : c.nextLink? = some d) : Below c d := by
  obtain ⟨receiver, hreceiver, hstrip⟩ := Option.bind_eq_some_iff.1 h
  exact (below_of_receiver? hreceiver).trans (below_of_stripParens hstrip)

theorem below_of_mem_links {c d : Cursor} (h : d ∈ c.links) : Below c d := by
  fun_induction links c with
  | case1 c hc => cases h
  | case2 c next hnext ih =>
    rcases List.mem_cons.1 h with rfl | h
    · exact below_of_nextLink? hnext
    · exact (below_of_nextLink? hnext).trans (ih h)

theorem below_of_call? {c d : Cursor} (h : c.call? = some d) : Below c d :=
  below_of_stripParens (call?_eq_some_iff.1 h).1

/-- Each link lies in the one before and is smaller. -/
theorem isChain_links (c : Cursor) :
    List.IsChain (fun link next => Below link next ∧ next.focus.size < link.focus.size)
      (c :: c.links) := by
  fun_induction links c with
  | case1 c hc => exact List.isChain_singleton c
  | case2 c d hd ih =>
    exact List.isChain_cons_cons.2 ⟨⟨below_of_nextLink? hd, size_lt_of_nextLink? hd⟩, ih⟩

end Cursor

/-! ## The links up to a depth -/

/-- The warning that a chain is cut at a link. -/
def truncation (depth : Int) (cut : Cursor) : LogEntry :=
  ⟨.warning, .source, s!"receiver chain deeper than {depth} links at byte {cut.start}; truncated"⟩

/-- The links up to a depth are the first ones, and there is a warning when there are more, at the
first that is left out. -/
theorem run_receiverLinks (c : Cursor) (depth : Int) (log : Log) :
    (receiverLinks c depth).run log =
      (c.links.take depth.toNat, log ++ (c.links[depth.toNat]?.map (truncation depth)).toList) := by
  show (c.links.take depth.toNat,
    ((noteTruncated depth (c.links.drop depth.toNat).head? : LogM Unit).run log).2) = _
  rw [List.head?_drop]
  cases c.links[depth.toNat]? with
  | none => exact congrArg (Prod.mk _) (List.append_nil log).symm
  | some cut => rfl

end CauseLint
