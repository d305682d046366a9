import CauseLint.Proofs.Edit.Splice
import CauseLint.Proofs.Effects
import CauseLint.Proofs.Rule.Verdict
import CauseLint.Proofs.Syntax.Slots
import CauseLint.Run.Checker

/-!
# All fixes of a unit together

Whatever an oracle answers and remembers, what the rule finds are calls of the unit that are named
`log`, each at most once, and the fix of a match goes behind the receiver of its call. In a
well-formed unit no two such calls have their receivers end at one offset, so all fixes can be made
together.

Results:

* `Rule.findAll_yields`: what a match is, for every oracle and every memory.
-/

namespace CauseLint

namespace Rule

/-! ## Whatever an oracle remembers -/

variable {s : Subject (StateM Memo)}

/-- Only a call of that name is matched. -/
theorem isMatch_yields (name : String) {call : Cursor} (hk : call.kind = "method_invocation") :
    Yields ((apiMethod name).isMatch s.unit s.oracle (some call)) fun b =>
      b = true → s.unit.methodName call = name := by
  unfold Matcher.isMatch
  rw [Option.bind_some, Cursor.call?_of_kind hk]
  simp only
  split
  · exact Yields.pure fun h => by cases h
  · rename_i hn
    have hname : s.unit.methodName call = name := by
      simpa [apiMethod, Matcher.named] using hn
    exact fun _ _ _ => hname

/-- What a match says: it is the judged call, named `log`, with the fix behind its receiver. -/
def Sound (s : Subject (StateM Memo)) (found : Match) : Prop :=
  found.anchor.kind = "method_invocation" ∧ s.unit.methodName found.anchor = "log" ∧
    buildFix? s found.anchor found.argument = some found.fix

theorem evaluate_yields {call : Cursor} (hk : call.kind = "method_invocation") :
    Yields (evaluate s (some call)) fun r =>
      ∀ found, r = some found → found.anchor = call ∧ Sound s found := by
  unfold evaluate
  rw [Option.bind_some, Cursor.call?_of_kind hk]
  simp only
  refine Yields.bind (isMatch_yields "log" hk) ?_
  intro b hb
  cases b with
  | false => exact Yields.pure (by simp)
  | true =>
    refine Yields.bind (Yields.trivial _) ?_
    rintro (_ | argument) -
    · exact Yields.pure (by simp)
    · refine Yields.bind (Yields.trivial _) ?_
      rintro (_ | _) -
      · cases hfix : buildFix? s call argument with
        | none => exact Yields.bind (Yields.trivial _) fun _ _ => Yields.pure (by simp)
        | some fix =>
          refine Yields.bind (Yields.trivial _) fun _ _ => Yields.pure ?_
          rintro found ⟨⟩
          exact ⟨rfl, hk, hb rfl, hfix⟩
      · exact Yields.bind (Yields.trivial _) fun _ _ => Yields.pure (by simp)

/-- The matches among some calls are matches of different ones, in order. -/
theorem matchesAmong_yields {calls : List Cursor}
    (hk : ∀ c ∈ calls, c.kind = "method_invocation") :
    Yields (matchesAmong s calls) fun found =>
      (found.map (·.anchor)).Sublist calls ∧ ∀ f ∈ found, Sound s f := by
  induction calls with
  | nil => exact Yields.pure ⟨List.Sublist.refl _, by simp⟩
  | cons c rest ih =>
    have ih := ih fun d hd => hk d (List.mem_cons_of_mem _ hd)
    refine Yields.bind (evaluate_yields (hk c List.mem_cons_self)) ?_
    rintro (_ | first) hfirst
    · exact fun log memo => ⟨(ih log memo).1.cons _, (ih log memo).2⟩
    · obtain ⟨hanchor, hsound⟩ := hfirst first rfl
      refine Yields.bind ih ?_
      rintro found ⟨hsub, hall⟩
      refine Yields.pure ⟨?_, ?_⟩
      · rw [List.map_cons, hanchor]
        exact hsub.cons_cons _
      · intro f hf
        rcases List.mem_cons.1 hf with rfl | hf
        · exact hsound
        · exact hall f hf

/-- What a match is, for every oracle and every memory. -/
theorem findAll_yields :
    Yields (findAll s) fun found =>
      (found.map (·.anchor)).Sublist s.unit.invocations ∧ ∀ f ∈ found, Sound s f := by
  refine matchesAmong_yields ?_
  intro c hc
  exact of_decide_eq_true (List.mem_filter.1 hc).2

/-! ## Distinct offsets -/

/-- Every call named `log`. -/
def logCalls (u : SourceUnit) (c : Cursor) : Option Unit :=
  if c.kind = "method_invocation" ∧ u.methodName c = "log" then some () else none

/-- A node has a text only if it has bytes. -/
theorem exists_name_of_methodName {u : SourceUnit} {c : Cursor} (h : u.methodName c ≠ "") :
    ∃ n, c.childByField? "name" = some n ∧ n.start < n.stop := by
  unfold SourceUnit.methodName SourceUnit.textOf? at h
  cases hn : c.childByField? "name" with
  | none => simp [hn] at h
  | some n =>
    refine ⟨n, rfl, ?_⟩
    by_contra hle
    refine h ?_
    rw [hn, Option.map_some, Option.getD_some, SourceUnit.textOf, SourceUnit.bytesOf,
      Nat.sub_eq_zero_of_le (Nat.not_lt.1 hle), List.take_zero]
    exact Utf8.toText_ofText ""

theorem names_logCalls (u : SourceUnit) (c : Cursor) : Cursor.Names (logCalls u) c := by
  intro h
  unfold logCalls at h
  split at h
  · rename_i hc
    refine ⟨hc.1, exists_name_of_methodName (u := u) ?_⟩
    rw [hc.2]
    decide
  · cases h

/-- The receivers of different calls named `log` end at different offsets. -/
theorem nodup_offsets {u : SourceUnit} (hu : u.WellFormed) :
    ((u.root.preorder.filterMap (Cursor.point? (logCalls u))).map (·.1)).Nodup := by
  have hasc := Cursor.inserts_ascend (c := u.root) (names_logCalls u)
    fun d hd => hu.regular d (Cursor.mem_preorder_iff.2 hd)
  have hperm := (Cursor.inserts_perm (logCalls u) u.root).map Prod.fst
  refine hperm.nodup_iff.1 (List.pairwise_map.2 ?_)
  exact hasc.1.imp fun h => Nat.ne_of_lt h

/-- A match inserts once, behind the receiver of its call. -/
theorem Sound.insertion {found : Match} (h : Sound s found) :
    ∃ receiver text, found.anchor.object? = some receiver ∧
      found.fix.replacements = [.insertion receiver.stop text] ∧
      Cursor.point? (logCalls s.unit) found.anchor = some (receiver.stop, ()) := by
  obtain ⟨hk, hn, hfix⟩ := h
  obtain ⟨receiver, hr, hfix⟩ := Option.map_eq_some_iff.1 hfix
  refine ⟨receiver, _, hr, by rw [← hfix]; rfl, ?_⟩
  rw [Cursor.point?, logCalls, if_pos ⟨hk, hn⟩, hr]
  rfl

/-- The insertions of some matches, with the offsets of their calls. -/
theorem exists_points {found : List Match} (h : ∀ f ∈ found, Sound s f) :
    ∃ points : List (Nat × String),
      found.map (·.fix.replacements) = points.map (fun p => [.insertion p.1 p.2]) ∧
      points.map (·.1) = ((found.map (·.anchor)).filterMap
        (Cursor.point? (logCalls s.unit))).map (·.1) ∧
      ∀ p ∈ points, ∃ f ∈ found, ∃ r, f.anchor.object? = some r ∧ p.1 = r.stop := by
  induction found with
  | nil => exact ⟨[], rfl, rfl, by simp⟩
  | cons f rest ih =>
    obtain ⟨points, hmap, hoffsets, hobj⟩ := ih fun g hg => h g (List.mem_cons_of_mem _ hg)
    obtain ⟨receiver, text, hr, hreplace, hpoint⟩ := (h f List.mem_cons_self).insertion
    refine ⟨(receiver.stop, text) :: points, ?_, ?_, ?_⟩
    · rw [List.map_cons, List.map_cons, hmap, hreplace]
    · rw [List.map_cons, List.map_cons, List.filterMap_cons_some hpoint, List.map_cons, hoffsets]
    · intro p hp
      rcases List.mem_cons.1 hp with rfl | hp
      · exact ⟨f, List.mem_cons_self, receiver, hr, rfl⟩
      · obtain ⟨g, hg, hobj⟩ := hobj p hp
        exact ⟨g, List.mem_cons_of_mem _ hg, hobj⟩

/-- The fixes that the checker attaches to the findings of a well-formed unit are insertions at
distinct offsets. They can be applied together, and the outcome is text. -/
theorem causeChecker_fixes_apply (i : Inspection) (hu : i.unit.WellFormed) (stats : Stats)
    (log : Log) (memo : Memo) :
    ∃ (findings : List Diagnostic) (points : List (Nat × String)),
      ((((causeChecker.inspect i).run.run stats).run log).run memo).1.1.1 = .ok findings ∧
      findings.map (fun d => d.fix.map (·.replacements)) =
        points.map (fun p => some [.insertion p.1 p.2]) ∧
      (points.map (·.1)).Nodup ∧
      ∃ out, applyFixes i.unit.source (findings.filterMap (·.fix)) = .ok out ∧
        Utf8.isValid out = true := by
  let s : Subject (StateM Memo) := { unit := i.unit, oracle := i.oracle }
  obtain ⟨hsub, hsound⟩ := findAll_yields (s := s) log memo
  set found := (((findAll s).run log).run memo).1.1
  obtain ⟨points, hmap, hoffsets, hobj⟩ := exists_points hsound
  have hnodup : (points.map (·.1)).Nodup := by
    rw [hoffsets]
    refine (nodup_offsets hu).sublist (List.Sublist.map _ (List.Sublist.filterMap _ ?_))
    exact hsub.trans List.filter_sublist
  -- a receiver is a node of the unit, so it ends between characters
  have hboundary : ∀ p ∈ points, Utf8.IsBoundary i.unit.source p.1 := by
    intro p hp
    obtain ⟨f, hf, r, hr, hstop⟩ := hobj p hp
    have hanchor := (List.mem_filter.1 (hsub.subset (List.mem_map_of_mem hf))).1
    rw [hstop]
    exact (hu.regular r (Cursor.mem_preorder_iff.2 ((Cursor.mem_preorder_iff.1 hanchor).trans
      (Cursor.below_of_childByField? hr)))).boundary_stop
  have hall : (found.map (·.fix)).flatMap (·.replacements) = insertions points := by
    rw [List.flatMap_map, List.flatMap_def, hmap, ← List.flatMap_def]
    exact List.flatMap_pure_eq_map _ points
  obtain ⟨sorted, hperm, happly⟩ : ∃ sorted, sorted.Perm points ∧
      applyFixes i.unit.source (found.map (·.fix)) =
        .ok (splice i.unit.source 0 (insertions sorted)) :=
    applyFixes_distinct (fun r => by rw [hall]) hnodup fun p hp => (hboundary p hp).1
  refine ⟨found.map (·.toDiagnostic i.unit causeCheckerName), points, rfl, ?_, hnodup,
    splice i.unit.source 0 (insertions sorted), ?_, ?_⟩
  · have hsome := congrArg (List.map some) hmap
    rw [List.map_map, List.map_map] at hsome
    rw [List.map_map]
    exact hsome
  · rw [List.filterMap_map]
    refine Eq.trans (congrArg _ ?_) happly
    exact List.filterMap_eq_map_iff_forall_eq_some.2 fun f _ => rfl
  · refine isValid_splice hu.valid ⟨Nat.zero_le _, Utf8.isValid_ofText ""⟩ ?_
    intro r hr
    obtain ⟨p, hp, rfl⟩ := List.mem_map.1 hr
    have hb := hboundary p (hperm.mem_iff.1 hp)
    exact ⟨hb, hb⟩

/-- The answers of an oracle without memory, in a computation with one. -/
def remembering (o : Oracle Id) : Oracle (StateM Memo) where
  typeOf c := pure (o.typeOf c)
  receiverType c := pure (o.receiverType c)
  isSubtype a root := pure (o.isSubtype a root)
  isNullType a := pure (o.isNullType a)

theorem wellFormed_sample : sample.WellFormed := by
  refine ⟨Utf8.isValid_ofText _, ?_⟩
  intro c hc
  obtain ⟨hstart, hstop⟩ := spans_sample c hc
  obtain ⟨hordered, hinside, hsiblings, hreceiver⟩ : c.start ≤ c.stop ∧
      (∀ d ∈ c.children, c.start ≤ d.start ∧ d.stop ≤ c.stop) ∧
      (c.children.Pairwise fun a b => a.stop ≤ b.start) ∧
      ∀ r ∈ c.object?, r.start < r.stop ∧ ∀ n ∈ c.childByField? "name", r.stop ≤ n.start := by
    revert c
    simp [SourceUnit.root, Cursor.preorder_eq, Cursor.children, Cursor.childrenFrom, sample,
      sampleCall, Tree.children, Cursor.start, Cursor.stop, Tree.start, Tree.stop, Tree.label,
      Cursor.object?, Cursor.childByField?]
  exact ⟨hordered, isBoundary_sample hstart, isBoundary_sample hstop, hinside, hsiblings,
    fun r _ hr => hreceiver r hr⟩

theorem causeChecker_fixes_apply_sample : sample.WellFormed ∧
    ∃ (findings : List Diagnostic) (points : List (Nat × String)),
      ((((causeChecker.inspect ⟨sample, remembering agreeable⟩).run.run {}).run []).run {}).1.1.1 =
        .ok findings ∧
      findings.map (fun d => d.fix.map (·.replacements)) =
        points.map (fun p => some [.insertion p.1 p.2]) ∧
      (points.map (·.1)).Nodup ∧
      ∃ out, applyFixes sample.source (findings.filterMap (·.fix)) = .ok out ∧
        Utf8.isValid out = true :=
  ⟨wellFormed_sample,
    causeChecker_fixes_apply ⟨sample, remembering agreeable⟩ wellFormed_sample {} [] {}⟩

end Rule

end CauseLint
