import CauseLint.Proofs.Rule.Verdict
import Mathlib.Data.List.Forall2

/-!
# Verdicts on corresponding nodes

A relation between the nodes of two trees mirrors one in the other when related nodes have the same
label and related children. Some calls are amended: nothing is said of their children. Where related
nodes are typed alike, verdicts pass from one tree to the other for calls that are not amended, as
far as no amended call stands in the chain before a cause.

Results:

* `Mirror.isApiCall_iff`: related calls are calls of the same method of the logging interface.
* `Mirror.cause_of_cause`: a cause in a chain has a counterpart.
* `Mirror.isSome_of_isSome`, `Mirror.isSome_iff`: what is found at related calls.
-/

namespace CauseLint.Rule

/-- Related nodes of two units are alike, up to the amended calls. -/
structure Mirror (u v : SourceUnit) (o p : Oracle Id) (R : Cursor → Cursor → Prop)
    (amended : Cursor → Prop) : Prop where
  kind : ∀ {c d}, R c d → d.kind = c.kind
  isNamed : ∀ {c d}, R c d → d.isNamed = c.isNamed
  field : ∀ {c d}, R c d → d.focus.label.field = c.focus.label.field
  children : ∀ {c d}, R c d → ¬ amended c → List.Forall₂ R c.children d.children
  /-- Only calls of `log` without a cause are amended, and no list of arguments is. -/
  call : ∀ {c}, amended c → c.kind = "method_invocation"
  log : ∀ {c}, amended c → u.methodName c = "log"
  bare : ∀ {c}, amended c →
    ∀ link ∈ c.links.take Cursor.maxChainDepth, ¬ IsApiCall u o "withCause" link
  arguments : ∀ {c d l}, R c d → c.childByField? "arguments" = some l → ¬ amended l
  /-- The two names that the rule knows are kept and not made up. -/
  name : ∀ {c d name}, R c d → name = "log" ∨ name = "withCause" →
    (v.textOf d = name ↔ u.textOf c = name)
  typeOf : ∀ {c d}, R c d → p.typeOf d = o.typeOf c
  receiverType : ∀ {c d}, R c d → p.receiverType d = o.receiverType c
  isSubtype : p.isSubtype = o.isSubtype
  isNullType : p.isNullType = o.isNullType

namespace Mirror

variable {u v : SourceUnit} {o p : Oracle Id} {R : Cursor → Cursor → Prop}
  {amended : Cursor → Prop} {c d : Cursor}

/-! ## Ways down -/

theorem rel_find? {q : Cursor → Bool} {cs ds : List Cursor} (h : List.Forall₂ R cs ds)
    (hq : ∀ {c d}, R c d → q d = q c) : Option.Rel R (cs.find? q) (ds.find? q) := by
  induction h with
  | nil => exact .none
  | cons hcd _ ih =>
    rename_i c d cs ds _
    cases hc : q c with
    | true =>
      rw [List.find?_cons_of_pos hc, List.find?_cons_of_pos ((hq hcd).trans hc)]
      exact .some hcd
    | false =>
      rw [List.find?_cons_of_neg (by simp [hc]), List.find?_cons_of_neg (by simp [hq hcd, hc])]
      exact ih

theorem rel_childByField? (m : Mirror u v o p R amended) (h : R c d) (hc : ¬ amended c)
    (f : String) : Option.Rel R (c.childByField? f) (d.childByField? f) :=
  rel_find? (m.children h hc) fun hcd => by rw [m.field hcd]

theorem forall₂_parts (m : Mirror u v o p R amended) (h : R c d) (hc : ¬ amended c) :
    List.Forall₂ R c.parts d.parts := by
  unfold Cursor.parts Cursor.namedChildren
  refine List.rel_filter ?_ (List.rel_filter ?_ (m.children h hc))
  · intro c d hcd
    simp only [Cursor.isComment, m.kind hcd]
  · intro c d hcd
    simp only [m.isNamed hcd]

theorem forall₂_arguments (m : Mirror u v o p R amended) (h : R c d) (hc : ¬ amended c) :
    List.Forall₂ R c.arguments d.arguments := by
  have hrel := m.rel_childByField? h hc "arguments"
  unfold Cursor.arguments
  generalize hl : c.childByField? "arguments" = x at hrel
  generalize d.childByField? "arguments" = y at hrel
  cases hrel with
  | none => exact .nil
  | some hlist => exact m.forall₂_parts hlist (m.arguments h hl)

theorem rel_stripParensWithin (m : Mirror u v o p R amended) (n : Nat) (h : R c d) :
    Option.Rel R (Cursor.stripParensWithin n c) (Cursor.stripParensWithin n d) := by
  induction n generalizing c d with
  | zero =>
    unfold Cursor.stripParensWithin
    rw [m.kind h]
    split
    · cases c.parts <;> cases d.parts <;> exact .none
    · exact .some h
  | succ n ih =>
    unfold Cursor.stripParensWithin
    rw [m.kind h]
    split
    · rename_i hk
      have hc : ¬ amended c := fun ha => absurd (hk.symm.trans (m.call ha)) (by decide)
      have hparts := m.forall₂_parts h hc
      generalize c.parts = cs at hparts
      generalize d.parts = ds at hparts
      cases hparts with
      | nil => exact .none
      | cons hfirst _ => exact ih hfirst
    · exact .some h

theorem rel_stripParens (m : Mirror u v o p R amended) (h : R c d) :
    Option.Rel R c.stripParens d.stripParens := m.rel_stripParensWithin _ h

theorem rel_object (m : Mirror u v o p R amended) (h : R c d) (hc : ¬ amended c) :
    Option.Rel R (c.object?.bind Cursor.stripParens) (d.object?.bind Cursor.stripParens) := by
  have hrel := m.rel_childByField? h hc "object"
  unfold Cursor.object?
  generalize c.childByField? "object" = x at hrel
  generalize d.childByField? "object" = y at hrel
  cases hrel with
  | none => exact .none
  | some hr => exact m.rel_stripParens hr

/-! ## Questions -/

theorem dispatchType_eq (m : Mirror u v o p R amended) (h : R c d) (hc : ¬ amended c) :
    Matcher.dispatchType p d = Matcher.dispatchType o c := by
  have hrel := m.rel_object h hc
  unfold Matcher.dispatchType
  generalize c.object?.bind Cursor.stripParens = x at hrel
  generalize d.object?.bind Cursor.stripParens = y at hrel
  cases hrel with
  | none => exact m.receiverType h
  | some hr => exact m.typeOf hr

theorem methodName_iff (m : Mirror u v o p R amended) (h : R c d) (hc : ¬ amended c)
    {name : String} (hname : name = "log" ∨ name = "withCause") :
    v.methodName d = name ↔ u.methodName c = name := by
  have hrel := m.rel_childByField? h hc "name"
  unfold SourceUnit.methodName SourceUnit.textOf?
  generalize c.childByField? "name" = x at hrel
  generalize d.childByField? "name" = y at hrel
  cases hrel with
  | none => exact Iff.rfl
  | some hn => exact m.name hn hname

/-- Related calls are calls of the same method of the logging interface. -/
theorem isApiCall_iff (m : Mirror u v o p R amended) (h : R c d) (hc : ¬ amended c)
    {name : String} (hname : name = "log" ∨ name = "withCause") :
    IsApiCall v p name d ↔ IsApiCall u o name c := by
  unfold IsApiCall
  rw [m.kind h, m.methodName_iff h hc hname, m.dispatchType_eq h hc, m.isSubtype]

theorem qualifies_iff (m : Mirror u v o p R amended) (h : R c d) :
    Qualifies p d ↔ Qualifies o c := by
  unfold Qualifies
  rw [m.typeOf h, m.isSubtype, m.isNullType]

theorem exists_qualifies_iff (m : Mirror u v o p R amended) {cs ds : List Cursor}
    (h : List.Forall₂ R cs ds) : (∃ d ∈ ds, Qualifies p d) ↔ ∃ c ∈ cs, Qualifies o c := by
  induction h with
  | nil => simp
  | cons hcd _ ih =>
    simp only [List.mem_cons, exists_eq_or_imp]
    rw [m.qualifies_iff hcd, ih]

/-! ## Chains -/

theorem rel_nextLink? (m : Mirror u v o p R amended) (h : R c d) (hs : c.stripParens = some c)
    (hc : ¬ amended c) : Option.Rel R c.nextLink? d.nextLink? := by
  have hd : d.stripParens = some d := by
    refine Cursor.stripParens_of_kind_ne ?_
    rw [m.kind h]
    exact Cursor.kind_ne_of_stripParens hs
  unfold Cursor.nextLink? Cursor.receiver?
  rw [hs, hd]
  simp only
  rw [m.kind h]
  split
  · exact m.rel_object h hc
  · exact .none

/-- A cause in a chain has a counterpart: no call before it is amended. -/
theorem cause_of_cause (m : Mirror u v o p R amended) {n : Nat} (hn : n ≤ Cursor.maxChainDepth)
    (h : R c d) (hs : c.stripParens = some c)
    (hcause : ∃ link ∈ c.links.take n, IsApiCall u o "withCause" link) :
    ∃ link ∈ d.links.take n, IsApiCall v p "withCause" link := by
  induction n generalizing c d with
  | zero =>
    obtain ⟨link, hlink, -⟩ := hcause
    rw [List.take_zero] at hlink
    cases hlink
  | succ n ih =>
    have hc : ¬ amended c := by
      intro ha
      obtain ⟨link, hlink, hapi⟩ := hcause
      exact m.bare ha link (List.take_subset_take_left _ hn hlink) hapi
    have hrel := m.rel_nextLink? h hs hc
    have hstrip : ∀ e ∈ c.links, e.stripParens = some e := fun e => Cursor.stripParens_of_mem_links
    rw [Cursor.links_eq] at hcause hstrip ⊢
    generalize c.nextLink? = x at hrel hcause hstrip
    generalize d.nextLink? = y at hrel
    cases hrel with
    | none =>
      obtain ⟨link, hlink, -⟩ := hcause
      cases hlink
    | some hef =>
      rename_i e f
      obtain ⟨link, hlink, hapi⟩ := hcause
      rw [List.take_succ_cons, List.mem_cons] at hlink
      rcases hlink with rfl | hlink
      · have he : ¬ amended link := fun ha => absurd (hapi.2.1.symm.trans (m.log ha)) (by decide)
        exact ⟨f, List.mem_cons_self, (m.isApiCall_iff hef he (.inr rfl)).2 hapi⟩
      · obtain ⟨link', hlink', hapi'⟩ := ih (Nat.le_of_succ_le hn) hef
          (hstrip e List.mem_cons_self) ⟨link, hlink, hapi⟩
        exact ⟨link', List.mem_cons_of_mem _ hlink', hapi'⟩

/-! ## Verdicts -/

theorem object_isSome (m : Mirror u v o p R amended) (h : R c d) (hc : ¬ amended c) :
    (∃ r, d.object? = some r) ↔ ∃ r, c.object? = some r := by
  have hrel := m.rel_childByField? h hc "object"
  unfold Cursor.object?
  generalize c.childByField? "object" = x at hrel
  generalize d.childByField? "object" = y at hrel
  cases hrel <;> simp

/-- What is found at the counterpart of a call that is not amended was found at the call. -/
theorem isSome_of_isSome (m : Mirror u v o p R amended) (h : R c d)
    (hk : c.kind = "method_invocation") (hc : ¬ amended c) (log log' : Log)
    (hfound : ((evaluate { unit := v, oracle := p } (some d)).run log').1.isSome) :
    ((evaluate { unit := u, oracle := o } (some c)).run log).1.isSome := by
  have hcs := Cursor.stripParens_of_kind_ne (c := c) (by rw [hk]; decide)
  have hds := Cursor.stripParens_of_kind_ne (c := d) (by rw [m.kind h, hk]; decide)
  obtain ⟨call, hcall, hlog, hobject, harg, hcause⟩ := (evaluate_isSome_iff log').1 hfound
  obtain rfl : d = call := Option.some.inj (hds.symm.trans hcall)
  refine (evaluate_isSome_iff log).2 ⟨c, hcs, (m.isApiCall_iff h hc (.inl rfl)).1 hlog,
    (m.object_isSome h hc).1 hobject, (m.exists_qualifies_iff (m.forall₂_arguments h hc)).1 harg, ?_⟩
  intro link hlink hapi
  obtain ⟨link', hlink', hapi'⟩ := m.cause_of_cause (Nat.le_refl _) h hcs ⟨link, hlink, hapi⟩
  exact hcause link' hlink' hapi'

/-- Where nothing is amended, each unit mirrors the other. -/
theorem symm (m : Mirror u v o p R fun _ => False) :
    Mirror v u p o (fun d c => R c d) fun _ => False where
  kind h := (m.kind h).symm
  isNamed h := (m.isNamed h).symm
  field h := (m.field h).symm
  children h _ := (m.children h not_false).flip
  call h := h.elim
  log h := h.elim
  bare h := h.elim
  arguments _ _ := not_false
  name h hname := (m.name h hname).symm
  typeOf h := (m.typeOf h).symm
  receiverType h := (m.receiverType h).symm
  isSubtype := m.isSubtype.symm
  isNullType := m.isNullType.symm

/-- Where nothing is amended, what is found at a call is found at its counterpart. -/
theorem isSome_iff (m : Mirror u v o p R fun _ => False) (h : R c d)
    (hk : c.kind = "method_invocation") (log log' : Log) :
    ((evaluate { unit := v, oracle := p } (some d)).run log').1.isSome ↔
      ((evaluate { unit := u, oracle := o } (some c)).run log).1.isSome :=
  ⟨m.isSome_of_isSome h hk not_false log log',
    m.symm.isSome_of_isSome h ((m.kind h).trans hk) not_false log' log⟩

end Mirror

end CauseLint.Rule
