import CauseLint.Proofs.Rule.Fixed

/-!
# Fixing twice

The rule judges the fixed unit the way it judged the unit, except at the calls that now have their
cause. An attached argument is written again as it stood, so where it holds a log statement that
lacks its cause, the copy lacks it as well: that is the one way in which a second run finds
something.

Results:

* `Rule.verdict_kept_planned`: nothing is found at a call that got its cause.
* `Rule.mirror_kept`, `Rule.mirror_copied`: the fixed unit mirrors the unit.
-/

namespace CauseLint

namespace Rule

/-- No list of arguments is a call itself, as the grammar has it. -/
def ListsArguments (u : SourceUnit) : Prop :=
  ∀ c ∈ u.root.preorder, ∀ list, c.childByField? "arguments" = some list →
    list.kind ≠ "method_invocation"

/-- An oracle for the fixed unit that types every expression as `o` types the expression it comes
from, and dispatches an added call as the call that it was put into. -/
structure SameTypes (u : SourceUnit) (o p : Oracle Id) : Prop where
  typeOf : ∀ c c', Cursor.Kept (planned u o) u.root c c' ∨ Cursor.Copied (planned u o) u.root c c' →
    p.typeOf c' = o.typeOf c
  receiverType : ∀ c c',
    Cursor.Kept (planned u o) u.root c c' ∨ Cursor.Copied (planned u o) u.root c c' →
    p.receiverType c' = o.receiverType c
  added : ∀ c a c', Cursor.Added (planned u o) u.root c a c' →
    p.receiverType c' = o.receiverType c
  isSubtype : p.isSubtype = o.isSubtype
  isNullType : p.isNullType = o.isNullType

section

variable {u : SourceUnit} {o p : Oracle Id} (hu : u.WellFormed) (hp : SameTypes u o p)

include hu hp

/-! ## Mirrors -/

/-- The fixed unit mirrors the unit, except at the calls that got their cause. -/
theorem mirror_kept (hargs : ListsArguments u) :
    Mirror u (fixed u o) o p (Cursor.Kept (planned u o) u.root)
      fun c => (planned u o c).isSome where
  kind h := (h.label hu.below (names_planned u o)).1
  isNamed h := (h.label hu.below (names_planned u o)).2.1
  field h := (h.label hu.below (names_planned u o)).2.2
  children h hc := h.forall₂_children hu.below (names_planned u o)
    (Option.not_isSome_iff_eq_none.1 hc)
  call h := (names_planned u o _ h).1
  log h := by
    obtain ⟨a, ha⟩ := Option.isSome_iff_exists.1 h
    exact (of_planned ha).1.2.1
  bare h := by
    obtain ⟨a, ha⟩ := Option.isSome_iff_exists.1 h
    exact (of_planned ha).2.2.2
  arguments h hl hplan := by
    obtain ⟨hc, -⟩ := h.located hu.below (names_planned u o)
    exact hargs _ (Cursor.mem_preorder_iff.2 hc) _ hl (names_planned u o _ hplan).1
  name h hname := textOf_kept_iff hu h hname
  typeOf h := hp.typeOf _ _ (.inl h)
  receiverType h := hp.receiverType _ _ (.inl h)
  isSubtype := hp.isSubtype
  isNullType := hp.isNullType

/-- A copied argument mirrors the argument. -/
theorem mirror_copied :
    Mirror u (fixed u o) o p (Cursor.Copied (planned u o) u.root) fun _ => False where
  kind h := (h.label hu.below (names_planned u o)).1
  isNamed h := (h.label hu.below (names_planned u o)).2.1
  field h := (h.label hu.below (names_planned u o)).2.2
  children h _ := h.forall₂_children hu.below (names_planned u o)
  call h := h.elim
  log h := h.elim
  bare h := h.elim
  arguments _ _ := not_false
  name h _ := by rw [SourceUnit.textOf, SourceUnit.textOf, bytesOf_copied hu h]
  typeOf h := hp.typeOf _ _ (.inr h)
  receiverType h := hp.receiverType _ _ (.inr h)
  isSubtype := hp.isSubtype
  isNullType := hp.isNullType

/-! ## Calls with their cause -/

/-- An added call attaches a cause. -/
theorem isApiCall_added (hargs : ListsArguments u) {c a added : Cursor}
    (h : Cursor.Added (planned u o) u.root c a added) :
    IsApiCall (fixed u o) p "withCause" added := by
  obtain ⟨d₀, before, after, hplan, -, -, -, hfocus⟩ := h.located hu.below (names_planned u o)
  obtain ⟨d, d', hobject, hobject', hkept⟩ := h.object? hu.below (names_planned u o)
  obtain ⟨⟨-, -, owner, args, htype, hsub⟩, -⟩ := of_planned hplan
  have hkind : added.kind = "method_invocation" := by
    rw [Cursor.kind, hfocus]
    rfl
  refine ⟨hkind, methodName_added hu h, owner, args, ?_, by rw [hp.isSubtype]; exact hsub⟩
  have hrel := (mirror_kept hu hp hargs).rel_stripParens hkept
  rw [← htype]
  unfold Matcher.dispatchType
  rw [hobject, hobject', Option.bind_some, Option.bind_some]
  generalize d.stripParens = x at hrel
  generalize d'.stripParens = y at hrel
  cases hrel with
  | none => exact hp.added c a added h
  | some hr => exact hp.typeOf _ _ (.inl hr)

/-- Nothing is found at a call that got its cause. -/
theorem verdict_kept_planned (hargs : ListsArguments u) {c c' a : Cursor}
    (h : Cursor.Kept (planned u o) u.root c c')
    (hbelow : Cursor.Below (Cursor.patched (planned u o) u.root) c') (ha : planned u o c = some a) :
    verdict { unit := fixed u o, oracle := p } c' = none := by
  obtain ⟨⟨hk, -⟩, -, ⟨d, hd⟩, -⟩ := of_planned ha
  have hk' : c'.kind = "method_invocation" :=
    (h.label hu.below (names_planned u o)).1.trans hk
  obtain ⟨added, hadded, -, hobject⟩ :=
    Cursor.exists_added hu.below (names_planned u o) h hbelow ha hd
  have hapi := isApiCall_added hu hp hargs hadded
  have hnext : c'.nextLink? = some added := by
    unfold Cursor.nextLink? Cursor.receiver?
    rw [Cursor.stripParens_of_kind_ne (by rw [hk']; decide)]
    simp only [hk', decide_true, Bool.true_or, if_true]
    rw [← Cursor.object?, hobject, Option.bind_some,
      Cursor.stripParens_of_kind_ne (by rw [hapi.1]; decide)]
  refine Option.eq_none_iff_forall_ne_some.2 ?_
  intro found hfound
  obtain rfl := anchor_of_verdict hk' hfound
  obtain ⟨-, -, -, hcause, -⟩ := (evaluate_eq_some_iff []).1 hfound
  refine hcause added ?_ hapi
  rw [Cursor.links_eq, hnext]
  exact List.mem_cons_self

/-! ## The second run -/

/-- Where nothing is found again: an attached argument must hold no log statement without cause. -/
theorem verdict_fixed_eq_none (hargs : ListsArguments u)
    (hno : ∀ k a c, Cursor.Below u.root k → planned u o k = some a → Cursor.Below a c →
      c.kind = "method_invocation" → verdict { unit := u, oracle := o } c = none)
    {c' : Cursor} (hc' : c' ∈ (fixed u o).invocations) :
    verdict { unit := fixed u o, oracle := p } c' = none := by
  obtain ⟨hbelow, hk'⟩ := mem_invocations_iff.1 hc'
  cases Cursor.origin_of_below hu.below (names_planned u o) hbelow with
  | @kept c _ h =>
    cases ha : planned u o c with
    | some a => exact verdict_kept_planned hu hp hargs h hbelow ha
    | none =>
      have hk := (h.label hu.below (names_planned u o)).1.symm.trans hk'
      refine Option.not_isSome_iff_eq_none.1 fun hsome => ?_
      have hfound := (mirror_kept hu hp hargs).isSome_of_isSome h hk (by simp [ha]) [] [] hsome
      obtain ⟨found, hfound⟩ := Option.isSome_iff_exists.1 hfound
      rw [planned_eq_some_iff.2 ⟨hk, found, hfound, rfl⟩] at ha
      cases ha
  | @copied c _ h =>
    have hk := (h.label hu.below (names_planned u o)).1.symm.trans hk'
    obtain ⟨k, a, _, _, _, ha, -, hbelow, -, hac, -⟩ := h.located hu.below (names_planned u o)
    refine Option.not_isSome_iff_eq_none.1 fun hsome => ?_
    have hfound := ((mirror_copied hu hp).isSome_iff h hk [] []).1 hsome
    have hnone := hno k a c hbelow ha hac hk
    rw [verdict] at hnone
    rw [hnone] at hfound
    cases hfound
  | added h =>
    refine Option.eq_none_iff_forall_ne_some.2 fun found hfound => ?_
    obtain rfl := anchor_of_verdict hk' hfound
    obtain ⟨-, ⟨-, hname, -⟩, -⟩ := (evaluate_eq_some_iff []).1 hfound
    rw [methodName_added hu h] at hname
    exact absurd hname (by decide)
  | list h hl =>
    obtain ⟨_, _, _, -, -, -, -, hfocus⟩ := h.located hu.below (names_planned u o)
    have hlist := Cursor.focus_of_getElem? hl
    rw [hfocus] at hlist
    rw [Cursor.kind, ← Option.some.inj hlist] at hk'
    exact absurd hk' (by simp [Cursor.addedArguments, Tree.kind, Tree.label])
  | token h hk =>
    rw [Cursor.kind, h] at hk'
    exact absurd hk' hk

/-- A log statement without cause in an attached argument is found again in the copy. -/
theorem exists_verdict_fixed {k a c : Cursor} (hbelow : Cursor.Below u.root k)
    (ha : planned u o k = some a) (hac : Cursor.Below a c) (hk : c.kind = "method_invocation")
    (hfound : (verdict { unit := u, oracle := o } c).isSome) :
    ∃ c' ∈ (fixed u o).invocations, (verdict { unit := fixed u o, oracle := p } c').isSome := by
  obtain ⟨-, -, ⟨d, hd⟩, -⟩ := of_planned ha
  obtain ⟨k', hkept, hk'⟩ := Cursor.exists_kept hu.below (names_planned u o) hbelow
  obtain ⟨added, hadded, hbelow', -⟩ :=
    Cursor.exists_added hu.below (names_planned u o) hkept hk' ha hd
  obtain ⟨c', hcopied, hc'⟩ :=
    Cursor.exists_copied hu.below (names_planned u o) hadded hbelow' hac
  refine ⟨c', mem_invocations_iff.2 ⟨hc', ?_⟩,
    ((mirror_copied hu hp).isSome_iff hcopied hk [] []).2 hfound⟩
  exact (hcopied.label hu.below (names_planned u o)).1.trans hk

end

/-- Making the fixes of a unit leads to the fixed unit. A second run finds nothing there exactly
when no log statement that was found lies in the argument that was attached to another. -/
theorem fixed_finds_nothing_iff (u : SourceUnit) (hu : u.WellFormed) (hargs : ListsArguments u)
    (o p : Oracle Id) (hp : SameTypes u o p) (log log' : Log) :
    let found := ((findAll { unit := u, oracle := o }).run log).1
    applyFixes u.source (found.map (·.fix)) = .ok (fixed u o).source ∧
      ((∀ c ∈ (fixed u o).invocations,
          ((evaluate { unit := fixed u o, oracle := p } (some c)).run log').1 = none) ↔
        ∀ f ∈ found, ∀ g ∈ found, ¬ Cursor.Below f.argument g.anchor) := by
  intro found
  refine ⟨applyFixes_fixed hu log, ?_, ?_⟩
  · intro hnone f hf g hg hbelow
    obtain ⟨hfcall, hfound⟩ := mem_found_iff.1 hf
    obtain ⟨hgcall, hgfound⟩ := mem_found_iff.1 hg
    obtain ⟨hfbelow, hfk⟩ := mem_invocations_iff.1 hfcall
    obtain ⟨c', hc', hsome⟩ := exists_verdict_fixed hu hp hfbelow
      (planned_eq_some_iff.2 ⟨hfk, f, hfound, rfl⟩) hbelow (mem_invocations_iff.1 hgcall).2
      (by rw [hgfound]; rfl)
    rw [← evaluate_eq_verdict _ _ log', hnone c' hc'] at hsome
    cases hsome
  · intro hno c' hc'
    rw [evaluate_eq_verdict]
    refine verdict_fixed_eq_none hu hp hargs ?_ hc'
    intro k a c hk ha hac hck
    have hc := (below_of_planned hk ha).trans hac
    obtain ⟨hkk, f, hf, rfl⟩ := planned_eq_some_iff.1 ha
    refine Option.eq_none_iff_forall_ne_some.2 fun g hg => ?_
    obtain rfl := anchor_of_verdict hkk hf
    obtain rfl := anchor_of_verdict hck hg
    exact hno f (mem_found_iff.2 ⟨mem_invocations_iff.2 ⟨hk, hkk⟩, hf⟩)
      g (mem_found_iff.2 ⟨mem_invocations_iff.2 ⟨hc, hck⟩, hg⟩) hac

/-- The inner call of the sample, which is the argument of the outer one. -/
def inner : Cursor :=
  ⟨sampleCall 6 (.node { kind := "identifier", start := 12, stop := 13 } []),
    [(outer.focus.children.getLast (by decide), 1), (outer.focus, 3), (sample.tree, 0)]⟩

theorem found_sampleCall {c a : Cursor} {start : Nat} {argument : Tree}
    (hc : c.focus = sampleCall start argument) (hn : sample.methodName c = "log")
    (ha : c.arguments = [a]) :
    ∃ found, verdict { unit := sample, oracle := agreeable } c = some found ∧
      found.argument = a := by
  have hk : c.kind = "method_invocation" := by
    rw [Cursor.kind, hc]
    rfl
  have hobject : ∃ r, c.object? = some r := by
    obtain ⟨focus, above⟩ := c
    obtain rfl : focus = sampleCall start argument := hc
    exact ⟨_, rfl⟩
  have hsome := (evaluate_isSome_iff (s := { unit := sample, oracle := agreeable }) (c := c) []).2
    ⟨c, Cursor.stripParens_of_kind_ne (by rw [hk]; decide), isApiCall_agreeable hk hn, hobject,
      ⟨a, by rw [ha]; exact List.mem_cons_self, qualifies_agreeable a⟩, bare_sampleCall hc⟩
  obtain ⟨found, hfound⟩ := Option.isSome_iff_exists.1 hsome
  refine ⟨found, hfound, ?_⟩
  obtain rfl := anchor_of_verdict hk hfound
  obtain ⟨-, -, ⟨before, after, hargs, -⟩, -⟩ := (evaluate_eq_some_iff []).1 hfound
  have hmem : found.argument ∈ found.anchor.arguments := by
    rw [hargs]
    simp
  rw [ha] at hmem
  exact List.mem_singleton.1 hmem

theorem listsArguments_sample : ListsArguments sample := by
  unfold ListsArguments
  simp [SourceUnit.root, Cursor.preorder_eq, Cursor.children, Cursor.childrenFrom, sample,
    sampleCall, Tree.children, Tree.kind, Tree.label, Cursor.kind, Cursor.childByField?]

theorem fixed_finds_nothing_iff_sample :
    ∃ c ∈ (fixed sample agreeable).invocations,
      ((evaluate { unit := fixed sample agreeable, oracle := agreeable } (some c)).run []).1 ≠
        none := by
  have hsame : SameTypes sample agreeable agreeable :=
    ⟨fun _ _ _ => rfl, fun _ _ _ => rfl, fun _ _ _ _ => rfl, rfl, rfl⟩
  obtain ⟨-, hiff⟩ := fixed_finds_nothing_iff sample wellFormed_sample listsArguments_sample
    agreeable agreeable hsame [] []
  by_contra hnone
  have hnested := hiff.1 fun c hc => by_contra fun h => hnone ⟨c, hc, h⟩
  obtain ⟨f, hf, hinner⟩ :=
    found_sampleCall (c := outer) (a := inner) rfl (Utf8.toText_ofText "log") rfl
  obtain ⟨g, hg, -⟩ := found_sampleCall (c := inner) rfl (Utf8.toText_ofText "log") rfl
  have houter : Cursor.Below sample.root outer := Cursor.mem_preorder_iff.1 outer_mem_preorder
  have hbelow : Cursor.Below outer inner := Cursor.below_of_mem_arguments List.mem_cons_self
  have hfa := anchor_of_verdict rfl hf
  have hga := anchor_of_verdict rfl hg
  refine hnested f (mem_found_iff.2 ?_) g (mem_found_iff.2 ?_) ?_
  · rw [← hfa]
    exact ⟨mem_invocations_iff.2 ⟨houter, rfl⟩, hf⟩
  · rw [← hga]
    exact ⟨mem_invocations_iff.2 ⟨houter.trans hbelow, rfl⟩, hg⟩
  · rw [hinner, ← hga]
    exact Cursor.Below.refl inner

end Rule

end CauseLint
