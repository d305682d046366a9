import CauseLint.Proofs.Edit.Growth
import CauseLint.Proofs.Rule.Fixes
import CauseLint.Proofs.Run.Completion

/-!
# What a run reports

The one checker that comes with the program never fails, so whatever a run over files reports is a
match of the rule in one of the files that were asked for: a warning with an insertion that fixes
it.

Results:

* `Checker.Reports`: what all diagnostics of a checker are.
* `Runner.runFiles_tells`: what holds of all that checkers say holds of all that a run reports.
* `Runner.runFiles_reports`: what all diagnostics of a run are.
-/

namespace CauseLint

/-- A diagnostic in a file that is a finding of the rule: a warning with an insertion that fixes
it. -/
structure Diagnostic.IsFinding (d : Diagnostic) (file : String) : Prop where
  file : d.location.file = file
  severity : d.severity = .warning
  errorId : d.errorId = Rule.errorId
  fix : ∃ fix, d.fix = some fix ∧ fix.Inserts

/-- A checker does not fail, and all its diagnostics are findings in the file of the unit. -/
def Checker.Reports (c : Checker) : Prop :=
  ∀ i stats, Yields ((c.inspect i).run.run stats) fun out =>
    ∃ ds, out.1 = .ok ds ∧ ∀ d ∈ ds, d.IsFinding i.unit.path

theorem length_withCause_pos (text : String) :
    0 < (Utf8.ofText s!".withCause({text})").length := by
  show 0 < (Utf8.ofText (".withCause(" ++ text ++ ")")).length
  rw [Utf8.ofText_append, List.length_append]
  exact Nat.add_pos_right _ (by decide)

theorem reports_causeChecker : causeChecker.Reports := by
  intro i stats log memo
  refine ⟨_, rfl, ?_⟩
  intro d hd
  obtain ⟨found, hfound, rfl⟩ := List.mem_map.1 hd
  obtain ⟨-, -, hfix⟩ := (Rule.findAll_yields (s := ⟨i.unit, i.oracle, i.unit.textOf⟩) log memo).2
    found hfound
  obtain ⟨receiver, -, hfix⟩ := Option.map_eq_some_iff.1 hfix
  exact ⟨rfl, rfl, rfl, _, rfl, receiver.stop, _, _, length_withCause_pos _, hfix.symm⟩

/-- The checkers that come with the program report findings of the rule. -/
theorem Registry.reports_standard : ∀ c ∈ Registry.standard.values, c.Reports := by
  intro c hc
  obtain rfl : c = causeChecker := List.mem_singleton.1 hc
  exact reports_causeChecker

/-! ## From units to runs -/

theorem Suppressions.mem_of_mem_keep {s : Suppressions} {ds : List Diagnostic} {d : Diagnostic}
    (h : d ∈ s.keep ds) : d ∈ ds := (List.mem_filter.1 h).1

/-- Whatever a checker says about a unit has a property that may depend on the path of the unit. -/
def Checker.Tells (c : Checker) (p : String → Diagnostic → Prop) : Prop :=
  ∀ i s stats, Yields (c.outcome i s stats) fun out => ∀ d ∈ out.1, p i.unit.path d

theorem Checker.Reports.tells {c : Checker} (hc : c.Reports) :
    c.Tells fun file d => d.IsFinding file := by
  intro i s stats
  unfold Checker.outcome
  refine Yields.bind (hc i stats) ?_
  rintro ⟨result, after⟩ ⟨ds, hds, hall⟩
  obtain rfl : result = .ok ds := hds
  exact Yields.pure fun d hd => hall d (Suppressions.mem_of_mem_keep hd)

theorem runCheckers_tells {p : String → Diagnostic → Prop} {i : Inspection} {s : Suppressions}
    {cs : List Checker} (hcs : ∀ c ∈ cs, c.Tells p) {r : Results}
    (hr : ∀ d ∈ r.diagnostics, p i.unit.path d) {stats : Stats} :
    Yields (runCheckers i s cs r stats) fun out => ∀ d ∈ out.1.diagnostics, p i.unit.path d := by
  induction cs generalizing r stats with
  | nil => exact Yields.pure hr
  | cons c cs ih =>
    obtain ⟨hc, hcs⟩ := List.forall_mem_cons.1 hcs
    rw [runCheckers]
    refine Yields.bind (hc i s stats) ?_
    rintro ⟨ds, after⟩ hds
    refine ih hcs (r := r.addOutcome c.name ds) ?_
    intro d hd
    rcases List.mem_append.1 hd with hd | hd
    · exact hr d hd
    · exact hds d hd

namespace Runner

variable {r : Runner} {p : String → Diagnostic → Prop}

theorem run_tells (hr : ∀ c ∈ r.registry.values, c.Tells p) (u : SourceUnit)
    (chosen : Option (List String)) :
    Yields (r.run u chosen) fun out =>
      ∀ results, out = .ok results → ∀ d ∈ results.diagnostics, p u.path d := by
  unfold Runner.run
  refine Yields.bind (Yields.trivial _) fun _ _ => ?_
  refine Yields.bind (Yields.trivial _) fun s _ => ?_
  refine Yields.bind (Yields.trivial _) fun built _ => ?_
  cases built with
  | error e => exact Yields.pure (by rintro results ⟨⟩)
  | ok x =>
    refine Yields.bind (Yields.trivial _) fun _ _ => ?_
    have hwork : Yields (liftM (freshly (runCheckers ⟨u, x.oracle⟩ s (r.registry.select chosen).1
        { files := [u.path] } {})) : Running _) fun out =>
        ∀ d ∈ out.1.diagnostics, p u.path d := by
      intro s' log
      exact runCheckers_tells (i := ⟨u, x.oracle⟩)
        (fun c hc => hr c (Registry.mem_values_of_mem_select hc)) (fun d hd => by cases hd) log {}
    refine Yields.bind hwork ?_
    rintro ⟨results, stats⟩ hall
    refine Yields.pure ?_
    rintro _ ⟨⟩
    exact hall

end Runner

/-- A unit keeps the path as it is spelled. -/
theorem SourceUnit.path_of_parse {parser : Parser} {source : Bytes} {path : String} {strict : Bool}
    {log : Log} {u : SourceUnit} (h : ((parse parser source path strict).run log).1 = .ok u) :
    u.path = path := by
  have hpath : (ofTree path source (parser source)).path = path := path_foldl_readDeclaration _ _
  unfold parse at h
  dsimp only at h
  split at h
  · obtain rfl := Except.ok.inj h
    exact hpath
  · split at h
    · cases h
    · obtain rfl := Except.ok.inj h
      exact hpath

theorem FileSystem.path_of_readUnit {fs : FileSystem} {parser : Parser} {raw : String}
    {strict : Bool} {log : Log} {u : SourceUnit}
    (h : ((fs.readUnit parser raw strict).run log).1 = .ok u) : u.path = raw := by
  rw [run_readUnit] at h
  cases hdata : fs.readSource (Path.ofText raw) with
  | error e =>
    rw [hdata] at h
    cases h
  | ok data =>
    rw [hdata] at h
    replace h :
        ((SourceUnit.parse parser data raw strict).run log).1.mapError Abort.lint = .ok u := h
    cases hparse : ((SourceUnit.parse parser data raw strict).run log).1 with
    | error e =>
      rw [hparse] at h
      cases h
    | ok u' =>
      rw [hparse] at h
      obtain rfl := Except.ok.inj h
      exact SourceUnit.path_of_parse hparse

theorem Results.diagnostics_merge (a b : Results) :
    (a.merge b).1.diagnostics = a.diagnostics ++ b.diagnostics := by
  unfold merge
  dsimp only
  split <;> rfl

namespace Runner

variable {r : Runner} {parser : Parser} {fs : FileSystem} {chosen : Option (List String)}
  {p : String → Diagnostic → Prop}

theorem runFilesFrom_tells (hr : ∀ c ∈ r.registry.values, c.Tells p) {files : List String} :
    ∀ {paths : List String}, (∀ path ∈ paths, path ∈ files) → ∀ {done : Results},
      (∀ d ∈ done.diagnostics, ∃ file ∈ files, p file d) →
        Yields (r.runFilesFrom parser fs chosen paths done) fun out => ∀ results,
          out = .ok results → ∀ d ∈ results.diagnostics, ∃ file ∈ files, p file d := by
  intro paths hpaths
  induction paths with
  | nil =>
    intro done hdone
    refine Yields.pure ?_
    rintro _ ⟨⟩
    exact hdone
  | cons path paths ih =>
    intro done hdone
    obtain ⟨hpath, hpaths⟩ := List.forall_mem_cons.1 hpaths
    rw [runFilesFrom]
    have hread : Yields (liftM (fs.readUnit parser path r.strict) : Running _) fun out =>
        ∀ u, out = .ok u → u.path = path := fun s log u hu => FileSystem.path_of_readUnit hu
    refine Yields.bind hread ?_
    intro out hout
    split
    · exact Yields.bind (Yields.trivial _) fun _ _ => ih hpaths hdone
    · exact Yields.pure (by rintro results ⟨⟩)
    · rename_i u
      refine Yields.bind (run_tells hr u chosen) ?_
      intro out' hresults
      split
      · exact Yields.pure (by rintro results ⟨⟩)
      · rename_i results
        split
        · exact Yields.pure (by rintro results ⟨⟩)
        · rename_i both hmerge
          refine Yields.bind (Yields.trivial _) fun _ _ => ih hpaths ?_
          have hboth := done.diagnostics_merge results
          rw [hmerge] at hboth
          intro d hd
          rw [hboth] at hd
          rcases List.mem_append.1 hd with hd | hd
          · exact hdone d hd
          · refine ⟨path, hpath, ?_⟩
            rw [← hout u rfl]
            exact hresults results rfl d hd

/-- What holds of all that the checkers say about a unit holds of all that a run over files reports,
with the path of one of the files. -/
theorem runFiles_tells (hr : ∀ c ∈ r.registry.values, c.Tells p) (paths : List String)
    {s : Suppressions} {log : Log} {results : Results}
    (h : (((r.runFiles parser fs paths chosen).run s).run log).1.1 = .ok results) :
    ∀ d ∈ results.diagnostics, ∃ file ∈ paths, p file d :=
  runFilesFrom_tells hr (fun _ hpath => hpath) (fun d hd => by cases hd) s log results h

/-- All that the checkers of the program report about files are findings in one of the files. -/
theorem runFiles_reports (hr : ∀ c ∈ r.registry.values, c.Reports) (paths : List String)
    {s : Suppressions} {log : Log} {results : Results}
    (h : (((r.runFiles parser fs paths chosen).run s).run log).1.1 = .ok results) :
    ∀ d ∈ results.diagnostics, ∃ file ∈ paths, d.IsFinding file :=
  runFiles_tells (fun c hc => (hr c hc).tells) paths h

end Runner

end CauseLint
