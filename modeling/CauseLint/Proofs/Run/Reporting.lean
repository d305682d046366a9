import CauseLint.Proofs.Run.Findings
import CauseLint.Proofs.Rule.History
import CauseLint.Proofs.Syntax.Order
import CauseLint.Proofs.Text.Rows

/-!
# Findings in source order

The checker for lost causes judges the calls of a unit in the order of the walk, and reports a
finding for each match that is not suppressed. The walk visits nodes in the order in which they
begin, and lines and columns grow with the offset, so the findings come in the order in which one
reads them. Which checkers a run selects besides does not matter, as long as they use identifiers of
their own; a checker that is selected more than once says everything each time.

Results:

* `Rule.matchesAmong_eq_judged`: the matches are those of the verdicts on the single calls.
* `SourceUnit.WellLaid.pairwise_location`: the calls of a unit come in the order of their places.
* `Runner.diagnostics_run`: what a run finds is what the selected checkers say at their turns.
* `Runner.run_reports_in_order`: the findings of a run, one for each match, in order.
-/

namespace CauseLint

/-! ## Calls and their verdicts -/

namespace Rule

variable {s : Subject (StateM Memo)} {calls : List Cursor}

/-- Calls with their verdicts: each is judged with the log and the memory that those before it left
behind. -/
def judged (s : Subject (StateM Memo)) (log : Log) (memo : Memo) :
    List Cursor → List (Cursor × Option Match)
  | [] => []
  | c :: rest =>
    let out := ((evaluate s (some c)).run log).run memo
    (c, out.1.1) :: judged s out.1.2 out.2 rest

theorem map_fst_judged (log : Log) (memo : Memo) :
    (judged s log memo calls).map Prod.fst = calls := by
  induction calls generalizing log memo with
  | nil => rfl
  | cons c rest ih => exact congrArg (c :: ·) (ih _ _)

/-- The matches among some calls are those of the verdicts. -/
theorem matchesAmong_eq_judged (log : Log) (memo : Memo) :
    (((matchesAmong s calls).run log).run memo).1.1 =
      (judged s log memo calls).filterMap Prod.snd := by
  induction calls generalizing log memo with
  | nil => rfl
  | cons c rest ih =>
    have hrest := ih (((evaluate s (some c)).run log).run memo).1.2
      (((evaluate s (some c)).run log).run memo).2
    rw [matchesAmong, judged, fst_run_run_bind rfl]
    cases hv : (((evaluate s (some c)).run log).run memo).1.1 with
    | none => exact hrest
    | some found => exact congrArg (found :: ·) hrest

theorem anchor_of_mem_judged {log : Log} {memo : Memo} {c : Cursor} {m : Match}
    (hk : ∀ c ∈ calls, c.kind = "method_invocation")
    (h : (c, some m) ∈ judged s log memo calls) : m.anchor = c := by
  induction calls generalizing log memo with
  | nil => cases h
  | cons d rest ih =>
    obtain ⟨hd, hrest⟩ := List.forall_mem_cons.1 hk
    rcases List.mem_cons.1 h with heq | h
    · obtain ⟨rfl, hv⟩ := Prod.mk.inj heq
      exact (evaluate_yields hd log memo m hv.symm).1
    · exact ih hrest h

theorem mem_matches_iff {log : Log} {memo : Memo} {m : Match}
    (hk : ∀ c ∈ calls, c.kind = "method_invocation") :
    m ∈ (judged s log memo calls).filterMap Prod.snd ↔
      (m.anchor, some m) ∈ judged s log memo calls := by
  rw [List.mem_filterMap]
  constructor
  · rintro ⟨⟨c, v⟩, hmem, rfl⟩
    rwa [anchor_of_mem_judged hk hmem]
  · exact fun hmem => ⟨_, hmem, rfl⟩

end Rule

/-! ## Places -/

/-- The order of places in a file, by line and then by column. -/
def Location.Precedes (a b : Location) : Prop :=
  a.line < b.line ∨ a.line = b.line ∧ a.column ≤ b.column

instance (a b : Location) : Decidable (a.Precedes b) := inferInstanceAs (Decidable (_ ∨ _))

theorem SourceUnit.precedes_locationAt (u : SourceUnit) {m n : Nat}
    (hm : Utf8.IsBoundary u.source m) (hmn : m ≤ n) (hn : n ≤ u.source.length) :
    (u.locationAt m).Precedes (u.locationAt n) := by
  rcases Nat.lt_or_eq_of_le (rowOf_mono u.source hmn) with hrow | hrow
  · left
    show ((rowOf u.source m + 1 : Nat) : Int) < ((rowOf u.source n + 1 : Nat) : Int)
    omega
  · right
    have hcolumn := columnOf_mono hm hmn hn hrow
    refine ⟨congrArg (fun row : Nat => ((row + 1 : Nat) : Int)) hrow, ?_⟩
    show ((columnOf u.source m : Nat) : Int) ≤ (columnOf u.source n : Nat)
    exact Int.ofNat_le.2 hcolumn

/-- A unit whose spans are nested and begin between characters. -/
def SourceUnit.WellLaid (u : SourceUnit) : Prop :=
  ∀ c ∈ u.root.preorder, c.Nested ∧ Utf8.IsBoundary u.source c.start

instance (u : SourceUnit) : Decidable u.WellLaid :=
  inferInstanceAs (Decidable (∀ c ∈ u.root.preorder, _))

theorem SourceUnit.nodup_invocations (u : SourceUnit) : u.invocations.Nodup :=
  (Cursor.nodup_preorder u.root).filter _

theorem SourceUnit.WellLaid.pairwise_location {u : SourceUnit} (hu : u.WellLaid) :
    u.invocations.Pairwise fun a b => (u.locationOf a).Precedes (u.locationOf b) := by
  have hstart := Cursor.pairwise_start_preorder fun c hc => (hu c (Cursor.mem_preorder_iff.2 hc)).1
  refine (hstart.imp_of_mem fun {a b} ha hb hab => ?_).filter _
  exact u.precedes_locationAt (hu a ha).2 hab (hu b hb).2.1

/-! ## What one turn reports -/

/-- Diagnostics report the calls of a unit: there is one for each call that is matched and whose
diagnostic is not suppressed, none for any other node, and they come in the order of their places.
-/
structure Reported (u : SourceUnit) (s : Suppressions) (verdicts : List (Cursor × Option Match))
    (ds : List Diagnostic) : Prop where
  calls : verdicts.map Prod.fst = u.invocations
  once : ∃ found : List Match, ds = found.map (·.toDiagnostic u causeCheckerName) ∧
    (found.map (·.anchor)).Nodup ∧
    ∀ m, m ∈ found ↔ (m.anchor, some m) ∈ verdicts ∧
      s.suppresses (m.toDiagnostic u causeCheckerName) = false
  ordered : ds.Pairwise fun a b => a.location.Precedes b.location

theorem outcome_causeChecker (i : Inspection) (s : Suppressions) (stats : Stats) (log : Log)
    (memo : Memo) :
    (((causeChecker.outcome i s stats).run log).run memo).1.1.1 =
      s.keep (((Rule.judged ⟨i.unit, i.oracle, i.unit.textOf⟩ log memo
        i.unit.invocations).filterMap Prod.snd).map (·.toDiagnostic i.unit causeCheckerName)) := by
  rw [← Rule.matchesAmong_eq_judged]
  rfl

/-- A turn of the checker reports the matched calls. -/
theorem reported_outcome {u : SourceUnit} (hu : u.WellLaid) (o : Oracle (StateM Memo))
    (s : Suppressions) (stats : Stats) (log : Log) (memo : Memo) :
    Reported u s (Rule.judged ⟨u, o, u.textOf⟩ log memo u.invocations)
      (((causeChecker.outcome ⟨u, o⟩ s stats).run log).run memo).1.1.1 := by
  have hk : ∀ c ∈ u.invocations, c.kind = "method_invocation" := fun c hc =>
    of_decide_eq_true (List.mem_filter.1 hc).2
  have hsub := (Rule.matchesAmong_yields (s := ⟨u, o, u.textOf⟩) hk log memo).1
  rw [Rule.matchesAmong_eq_judged] at hsub
  rw [outcome_causeChecker]
  have hmem : ∀ m, m ∈ (Rule.judged ⟨u, o, u.textOf⟩ log memo u.invocations).filterMap Prod.snd ↔
      (m.anchor, some m) ∈ Rule.judged ⟨u, o, u.textOf⟩ log memo u.invocations :=
    fun _ => Rule.mem_matches_iff hk
  have hcalls : (Rule.judged ⟨u, o, u.textOf⟩ log memo u.invocations).map Prod.fst =
      u.invocations := Rule.map_fst_judged log memo
  dsimp only
  generalize Rule.judged ⟨u, o, u.textOf⟩ log memo u.invocations = verdicts at *
  rw [Suppressions.keep, List.filter_map]
  generalize hfound : (verdicts.filterMap Prod.snd).filter
    ((!s.suppresses ·) ∘ (·.toDiagnostic u causeCheckerName)) = found
  have hanchors : (found.map (·.anchor)).Sublist u.invocations := by
    rw [← hfound]
    exact (List.filter_sublist.map _).trans hsub
  refine ⟨hcalls, ⟨found, rfl, u.nodup_invocations.sublist hanchors, fun m => ?_⟩, ?_⟩
  · rw [← hfound, List.mem_filter, hmem, Function.comp_apply, Bool.not_eq_true']
  · have hordered := hu.pairwise_location.sublist hanchors
    rw [List.pairwise_map] at hordered ⊢
    -- A diagnostic is placed where its call is.
    exact hordered

/-! ## Turns of checkers -/

namespace Checker

variable {i : Inspection} {s : Suppressions} {cs : List Checker} {stats : Stats} {log : Log}
  {memo : Memo}

/-- What checkers say about a unit, each at its turn, with what those before it left behind. -/
def turns (i : Inspection) (s : Suppressions) :
    List Checker → Stats → Log → Memo → List (List Diagnostic)
  | [], _, _, _ => []
  | c :: cs, stats, log, memo =>
    let out := ((c.outcome i s stats).run log).run memo
    out.1.1.1 :: turns i s cs out.1.1.2 out.1.2 out.2

/-- The findings in a unit are what the checkers say at their turns. -/
theorem diagnostics_runCheckers (r : Results) :
    (((runCheckers i s cs r stats).run log).run memo).1.1.1.diagnostics =
      r.diagnostics ++ (turns i s cs stats log memo).flatten := by
  induction cs generalizing r stats log memo with
  | nil => exact (List.append_nil _).symm
  | cons c cs ih =>
    rw [turns, List.flatten_cons, ← List.append_assoc]
    exact ih (r.addOutcome c.name _)

theorem forall₂_turns {p : Checker → List Diagnostic → Prop}
    (h : ∀ c stats log memo, p c (((c.outcome i s stats).run log).run memo).1.1.1) :
    List.Forall₂ p cs (turns i s cs stats log memo) := by
  induction cs generalizing stats log memo with
  | nil => exact .nil
  | cons c cs ih => exact .cons (h c stats log memo) ih

/-- Checkers say nothing under an identifier that none of them uses. -/
theorem filter_turns_eq_nil {id : String}
    (h : ∀ c ∈ cs, c.Tells fun _ d => d.errorId ≠ id) :
    (turns i s cs stats log memo).flatten.filter (·.errorId = id) = [] := by
  induction cs generalizing stats log memo with
  | nil => rfl
  | cons c cs ih =>
    obtain ⟨hc, hcs⟩ := List.forall_mem_cons.1 h
    rw [turns, List.flatten_cons, List.filter_append, ih hcs, List.append_nil,
      List.filter_eq_nil_iff]
    intro d hd
    simpa using hc i s stats log memo d hd

/-- Where one checker alone uses an identifier, all that is said under it is said at its turn. -/
theorem exists_filter_turns {id : String} {before after : List Checker} {c : Checker}
    (h : ∀ c ∈ before ++ after, c.Tells fun _ d => d.errorId ≠ id) :
    ∃ stats' log' memo', (before = [] → memo' = memo) ∧
      (turns i s (before ++ c :: after) stats log memo).flatten.filter (·.errorId = id) =
        (((c.outcome i s stats').run log').run memo').1.1.1.filter (·.errorId = id) := by
  induction before generalizing stats log memo with
  | nil =>
    rw [List.nil_append] at h
    refine ⟨stats, log, memo, fun _ => rfl, ?_⟩
    rw [List.nil_append, turns, List.flatten_cons, List.filter_append, filter_turns_eq_nil h,
      List.append_nil]
  | cons b before ih =>
    obtain ⟨hb, hrest⟩ := List.forall_mem_cons.1 h
    obtain ⟨stats', log', memo', -, hturns⟩ := ih hrest
    refine ⟨stats', log', memo', fun hnil => absurd hnil (List.cons_ne_nil _ _), ?_⟩
    rw [List.cons_append, turns, List.flatten_cons, List.filter_append, hturns,
      List.filter_eq_nil_iff.2, List.nil_append]
    intro d hd
    simpa using hb i s stats log memo d hd

end Checker

/-! ## A run -/

namespace Runner

/-- A run begins with the suppressions of the unit added to those that are known. -/
theorem loading_yields {α : Type} {f : Suppressions → Running α} {p : α → Prop} {u : SourceUnit}
    {s : Suppressions} (h : Yields (f (s.load u)) p) (log : Log) :
    p (((do modify (·.load u); let s ← get; f s : Running α).run s).run log).1.1 :=
  h (s.load u) log

/-- What is found in a unit is what the selected checkers say at their turns. -/
theorem diagnostics_run {r : Runner} {u : SourceUnit} {x : Index}
    (hx : Index.build u r.hierarchy = .ok x) (chosen : Option (List String)) (s : Suppressions)
    (log : Log) :
    ∃ results log', (((r.run u chosen).run s).run log).1.1 = .ok results ∧
      results.diagnostics = (Checker.turns ⟨u, x.oracle⟩ (s.load u)
        (r.registry.select chosen).1 {} log' {}).flatten := by
  unfold Runner.run
  refine loading_yields (p := fun out : Except Abort Results => ∃ results log',
    out = .ok results ∧ results.diagnostics = (Checker.turns _ _ _ {} log' {}).flatten) ?_ log
  have hbuild : Yields (liftM (Index.buildLogged u r.hierarchy) : Running _) (· = .ok x) :=
    fun _ log => (buildLogged_eq u r.hierarchy log).trans hx
  refine Yields.bind hbuild ?_
  rintro _ rfl
  refine Yields.bind (Yields.trivial _) fun _ _ => ?_
  have hwork : Yields (liftM (freshly (runCheckers ⟨u, x.oracle⟩ (s.load u)
      (r.registry.select chosen).1 { files := [u.path] } {})) : Running _) fun out =>
      ∃ log', out.1.diagnostics =
        (Checker.turns ⟨u, x.oracle⟩ (s.load u) (r.registry.select chosen).1 {} log' {}).flatten :=
    fun _ log => ⟨log, Checker.diagnostics_runCheckers _⟩
  refine Yields.bind hwork ?_
  rintro ⟨results, stats⟩ ⟨log', hdiagnostics⟩
  exact Yields.pure ⟨_, log', rfl, hdiagnostics⟩

/-- A run over a unit that can be indexed, with nested spans that begin between characters, gives
results. Each time the checker for lost causes is selected, its turn reports every matched call
whose finding is not suppressed, once, and no other node, in the order of their lines and columns.
When it is selected once, and the checkers around it do not use its identifier, this holds of all
findings under that identifier; as the first checker it starts with nothing remembered about types.
-/
theorem run_reports_in_order {r : Runner} {u : SourceUnit} (hu : u.WellLaid) {x : Index}
    (hx : Index.build u r.hierarchy = .ok x) (chosen : Option (List String)) (s : Suppressions)
    (log : Log) :
    let verdicts := fun log memo => Rule.judged ⟨u, x.oracle, u.textOf⟩ log memo u.invocations
    let checkers := (r.registry.select chosen).1
    ∃ results blocks, (((r.run u chosen).run s).run log).1.1 = .ok results ∧
      results.diagnostics = blocks.flatten ∧
      List.Forall₂ (fun c block => c = causeChecker →
        ∃ log memo, Reported u (s.load u) (verdicts log memo) block) checkers blocks ∧
      ∀ before after, checkers = before ++ causeChecker :: after →
        (∀ c ∈ before ++ after, c.Tells fun _ d => d.errorId ≠ Rule.errorId) →
        ∃ log memo, (before = [] → memo = {}) ∧ Reported u (s.load u) (verdicts log memo)
          (results.diagnostics.filter (·.errorId = Rule.errorId)) := by
  intro verdicts checkers
  obtain ⟨results, log', hresults, hdiagnostics⟩ := diagnostics_run hx chosen s log
  refine ⟨results, _, hresults, hdiagnostics, ?_, fun before after hsplit hothers => ?_⟩
  · refine Checker.forall₂_turns ?_
    rintro c stats log memo rfl
    exact ⟨log, memo, reported_outcome hu x.oracle (s.load u) stats log memo⟩
  · rw [hdiagnostics]
    show ∃ log memo, _ ∧ Reported u _ _ ((Checker.turns _ _ checkers _ _ _).flatten.filter _)
    rw [hsplit]
    have hturns : ∃ stats log memo, (before = [] → memo = {}) ∧
        (Checker.turns ⟨u, x.oracle⟩ (s.load u) (before ++ causeChecker :: after) {} log'
          {}).flatten.filter (·.errorId = Rule.errorId) =
        (((causeChecker.outcome ⟨u, x.oracle⟩ (s.load u) stats).run log).run
          memo).1.1.1.filter (·.errorId = Rule.errorId) :=
      Checker.exists_filter_turns hothers
    obtain ⟨stats, log, memo, hmemo, hturns⟩ := hturns
    have hown : ∀ d ∈ (((causeChecker.outcome ⟨u, x.oracle⟩ (s.load u) stats).run log).run
        memo).1.1.1, d.errorId = Rule.errorId := fun d hd =>
      (reports_causeChecker.tells ⟨u, x.oracle⟩ (s.load u) stats log memo d hd).errorId
    rw [hturns, List.filter_eq_self.2 fun d hd => decide_eq_true (hown d hd)]
    exact ⟨log, memo, hmemo, reported_outcome hu x.oracle (s.load u) stats log memo⟩

/-- The tree of a statement `a.log(e);` that begins at an offset. -/
def logStatement (start : Nat) : Tree :=
  .node { kind := "expression_statement", start, stop := start + 9 } [
    .node { kind := "method_invocation", start, stop := start + 8 } [
      .node { kind := "identifier", start, stop := start + 1, field := some "object" } [],
      .node { kind := ".", isNamed := false, start := start + 1, stop := start + 2 } [],
      .node { kind := "identifier", start := start + 2, stop := start + 5,
              field := some "name" } [],
      .node { kind := "argument_list", start := start + 5, stop := start + 8,
              field := some "arguments" } [
        .node { kind := "(", isNamed := false, start := start + 5, stop := start + 6 } [],
        .node { kind := "identifier", start := start + 6, stop := start + 7 } [],
        .node { kind := ")", isNamed := false, start := start + 7, stop := start + 8 } []]],
    .node { kind := ";", isNamed := false, start := start + 8, stop := start + 9 } []]

/-- A method that logs an exception three times, the last time beside a comment that suppresses. -/
def loggedThrice : SourceUnit where
  path := "A.java"
  source := Utf8.ofText ("void f(com.google.common.flogger.LoggingApi a, java.lang.Throwable e) " ++
    "\x7b\n  a.log(e); /* é */ a.log(e);\n  a.log(e); // flogger-lint-suppress\n\x7d\n")
  tree :=
    .node { kind := "program", start := 0, stop := 142 } [
      .node { kind := "method_declaration", start := 0, stop := 141 } [
        .node { kind := "void_type", start := 0, stop := 4, field := some "type" } [],
        .node { kind := "identifier", start := 5, stop := 6, field := some "name" } [],
        .node { kind := "formal_parameters", start := 6, stop := 69,
                field := some "parameters" } [
          .node { kind := "(", isNamed := false, start := 6, stop := 7 } [],
          .node { kind := "formal_parameter", start := 7, stop := 45 } [
            .node { kind := "scoped_type_identifier", start := 7, stop := 43,
                    field := some "type" } [
              .node { kind := "scoped_type_identifier", start := 7, stop := 32 } [
                .node { kind := "scoped_type_identifier", start := 7, stop := 24 } [
                  .node { kind := "scoped_type_identifier", start := 7, stop := 17 } [
                    .node { kind := "type_identifier", start := 7, stop := 10 } [],
                    .node { kind := ".", isNamed := false, start := 10, stop := 11 } [],
                    .node { kind := "type_identifier", start := 11, stop := 17 } []],
                  .node { kind := ".", isNamed := false, start := 17, stop := 18 } [],
                  .node { kind := "type_identifier", start := 18, stop := 24 } []],
                .node { kind := ".", isNamed := false, start := 24, stop := 25 } [],
                .node { kind := "type_identifier", start := 25, stop := 32 } []],
              .node { kind := ".", isNamed := false, start := 32, stop := 33 } [],
              .node { kind := "type_identifier", start := 33, stop := 43 } []],
            .node { kind := "identifier", start := 44, stop := 45, field := some "name" } []],
          .node { kind := ",", isNamed := false, start := 45, stop := 46 } [],
          .node { kind := "formal_parameter", start := 47, stop := 68 } [
            .node { kind := "scoped_type_identifier", start := 47, stop := 66,
                    field := some "type" } [
              .node { kind := "scoped_type_identifier", start := 47, stop := 56 } [
                .node { kind := "type_identifier", start := 47, stop := 51 } [],
                .node { kind := ".", isNamed := false, start := 51, stop := 52 } [],
                .node { kind := "type_identifier", start := 52, stop := 56 } []],
              .node { kind := ".", isNamed := false, start := 56, stop := 57 } [],
              .node { kind := "type_identifier", start := 57, stop := 66 } []],
            .node { kind := "identifier", start := 67, stop := 68, field := some "name" } []],
          .node { kind := ")", isNamed := false, start := 68, stop := 69 } []],
        .node { kind := "block", start := 70, stop := 141, field := some "body" } [
          .node { kind := "\x7b", isNamed := false, start := 70, stop := 71 } [],
          logStatement 74,
          .node { kind := "block_comment", start := 84, stop := 92 } [],
          logStatement 93,
          logStatement 105,
          .node { kind := "line_comment", start := 115, stop := 139 } [],
          .node { kind := "\x7d", isNamed := false, start := 140, stop := 141 } []]]]

/-- A run over the method with nothing known of other classes. -/
def loggedThriceRun : Except Abort Results :=
  (((({ hierarchy := {} } : Runner).run loggedThrice).run {}).run []).1.1

/-- The index of the method over an empty hierarchy. -/
def loggedThriceIndex : Index :=
  (Index.build loggedThrice {}).toOption.getD { unit := loggedThrice, hierarchy := {} }

theorem known_loggedThrice :
    (Index.build loggedThrice {}).isOk = true ∧ loggedThrice.WellLaid ∧
    loggedThriceRun.toOption.map (fun results =>
      (results.diagnostics.filter (·.errorId = Rule.errorId)).map (·.location)) =
        some [⟨"A.java", 2, 3⟩, ⟨"A.java", 2, 21⟩] := by
  decide +kernel

/-- Of the three calls two are reported, both in the second line. -/
theorem run_reports_in_order_loggedThrice :
    let u := loggedThrice
    u.WellLaid ∧ Index.build u {} = .ok loggedThriceIndex ∧
    ∃ results log, loggedThriceRun = .ok results ∧
      Reported u (({} : Suppressions).load u)
        (Rule.judged ⟨u, loggedThriceIndex.oracle, u.textOf⟩ log {} u.invocations)
        (results.diagnostics.filter (·.errorId = Rule.errorId)) ∧
      (results.diagnostics.filter (·.errorId = Rule.errorId)).map (·.location) =
        [⟨"A.java", 2, 3⟩, ⟨"A.java", 2, 21⟩] := by
  obtain ⟨hbuild, hlaid, hfound⟩ := known_loggedThrice
  have hx : Index.build loggedThrice {} = .ok loggedThriceIndex := eq_ok_getD_of_isOk hbuild _
  obtain ⟨results, -, hrun, -, -, honce⟩ :=
    run_reports_in_order (r := { hierarchy := {} }) hlaid hx none {} []
  obtain ⟨log, memo, hmemo, hreported⟩ := honce [] [] rfl (by simp)
  obtain rfl := hmemo rfl
  have hrun : loggedThriceRun = .ok results := hrun
  rw [hrun] at hfound
  exact ⟨hlaid, hx, results, log, hrun, hreported, Option.some.inj hfound⟩

end Runner

end CauseLint
