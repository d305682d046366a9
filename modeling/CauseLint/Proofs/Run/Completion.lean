import CauseLint.Proofs.Run.Tally
import CauseLint.Proofs.Text.Validity
import CauseLint.Proofs.Types.Circular

/-!
# Runs that complete

A run over readable files checks every file, in order, as long as the types that the files name can
be told. The index of a file is built before its checkers start, so nothing stands between a
circular type and the run: it ends the whole run, and what was found in the files before it is lost.

Results:

* `Runner.run_yields`: what checking one unit comes to.
* `Runner.runFilesFrom_yields`: what checking files one after another comes to.
-/

namespace CauseLint

/-! ## Checking a unit -/

section

variable {timed : String → Prop} {i : Inspection} {s : Suppressions} {stats : Stats}

/-- Whether a checker fails or not, its statistics stay times and counts. -/
theorem Checker.Tallies.outcome {c : Checker} (hc : c.Tallies timed) (h : Stats.Fit timed stats) :
    Yields (c.outcome i s stats) fun out => Stats.Fit timed out.2 := by
  unfold Checker.outcome
  refine Yields.bind (hc.inspect i stats h) ?_
  rintro ⟨result, after⟩ hafter
  cases result with
  | ok ds => exact Yields.pure hafter
  | error message => exact Yields.bind (Yields.trivial _) fun _ _ => Yields.pure hafter

/-- Checkers add to the findings and to the statistics only. -/
theorem runCheckers_yields {cs : List Checker} (hcs : ∀ c ∈ cs, c.Tallies timed) {r : Results}
    (hr : Stats.Fit timed r.stats) (h : Stats.Fit timed stats) :
    Yields (runCheckers i s cs r stats) fun out =>
      out.1.files = r.files ∧ out.1.failures = r.failures ∧
        Stats.Fit timed out.1.stats ∧ Stats.Fit timed out.2 := by
  induction cs generalizing r stats with
  | nil => exact Yields.pure ⟨rfl, rfl, hr, h⟩
  | cons c cs ih =>
    obtain ⟨hc, hcs⟩ := List.forall_mem_cons.1 hcs
    rw [runCheckers]
    refine Yields.bind (hc.outcome h) ?_
    rintro ⟨ds, after⟩ hafter
    exact ih hcs (r := r.addOutcome c.name ds) (hr.insert hc.elapsed) hafter

end

namespace Runner

variable {r : Runner} {timed : String → Prop}

theorem buildLogged_eq (u : SourceUnit) (parent : Hierarchy) (log : Log) :
    ((Index.buildLogged u parent).run log).1 = Index.build u parent := by
  unfold Index.buildLogged
  cases Index.build u parent with
  | error e => rfl
  | ok x => rfl

/-- A unit is checked when its types settle, and ends the run when they do not. -/
theorem run_yields (hr : ∀ c ∈ r.registry.values, c.Tallies timed) (u : SourceUnit)
    (chosen : Option (List String)) :
    Yields (r.run u chosen) fun out =>
      (Index.Settles u → ∃ results, out = .ok results ∧ results.files = [u.path] ∧
        results.failures = [] ∧ Stats.Fit timed results.stats) ∧
      (¬ Index.Settles u → out = .error .endless) := by
  unfold Runner.run
  refine Yields.bind (Yields.trivial _) fun _ _ => ?_
  refine Yields.bind (Yields.trivial _) fun s _ => ?_
  have hbuild : Yields (liftM (Index.buildLogged u r.hierarchy) : Running _) fun out =>
      out.isOk ↔ Index.Settles u := by
    intro s log
    rw [← Index.isOk_build_iff u r.hierarchy, ← buildLogged_eq u r.hierarchy log]
    exact Iff.rfl
  refine Yields.bind hbuild ?_
  intro built hbuilt
  cases built with
  | error e =>
    refine Yields.pure ⟨fun hu => ?_, fun _ => rfl⟩
    cases hbuilt.2 hu
  | ok x =>
    have hu : Index.Settles u := hbuilt.1 rfl
    refine Yields.bind (Yields.trivial _) fun _ _ => ?_
    have hwork : Yields (liftM (freshly (runCheckers ⟨u, x.oracle⟩ s (r.registry.select chosen).1
        { files := [u.path] } {})) : Running _) fun out =>
        out.1.files = [u.path] ∧ out.1.failures = [] ∧
          Stats.Fit timed out.1.stats ∧ Stats.Fit timed out.2 := by
      intro s' log
      exact runCheckers_yields (fun c hc => hr c (Registry.mem_values_of_mem_select hc))
        Stats.Fit.empty Stats.Fit.empty log {}
    refine Yields.bind hwork ?_
    rintro ⟨results, stats⟩ ⟨hfiles, hfailures, hresults, hstats⟩
    refine Yields.pure ⟨fun _ => ?_, fun hn => absurd hu hn⟩
    exact ⟨_, rfl, hfiles, hfailures, hresults.fillFrom hstats⟩

end Runner

/-! ## Reading files -/

theorem SourceUnit.path_readDeclaration (u : SourceUnit) (c : Cursor) :
    (u.readDeclaration c).path = u.path := by
  unfold readDeclaration
  dsimp only
  repeat' split
  all_goals rfl

theorem SourceUnit.path_foldl_readDeclaration (u : SourceUnit) (cs : List Cursor) :
    (cs.foldl readDeclaration u).path = u.path := by
  induction cs generalizing u with
  | nil => rfl
  | cons c cs ih => rw [List.foldl_cons, ih, path_readDeclaration]

/-- Reading that is not strict keeps damaged sources. -/
theorem SourceUnit.parse_eq (parser : Parser) (source : Bytes) (path : String) (log : Log) :
    ((parse parser source path false).run log).1 = .ok (ofTree path source (parser source)) := by
  unfold parse
  dsimp only
  split
  · rfl
  · rfl

/-- A unit is read as its source is, and then parsed. -/
theorem FileSystem.run_readUnit {fs : FileSystem} {parser : Parser} {file : String}
    {strict : Bool} (log : Log) :
    ((fs.readUnit parser file strict).run log).1 =
      (fs.readSource (Path.ofText file)).bind fun data =>
        ((SourceUnit.parse parser data file strict).run log).1.mapError Abort.lint := by
  unfold readUnit
  cases fs.readSource (Path.ofText file) with
  | error e => rfl
  | ok data =>
    dsimp only [Except.bind]
    rw [LogM.fst_run_bind]
    cases ((SourceUnit.parse parser data file strict).run log).1 <;> rfl

theorem decodeText_of_isValid {data : Bytes} (h : Utf8.isValid data = true) :
    decodeText data = .ok (Utf8.toText data) := by
  unfold decodeText
  rw [Option.isNone_iff_eq_none.1 h]

/-- A path leads to a file that is text. -/
structure FileSystem.Holds (fs : FileSystem) (path : String) (data : Bytes) : Prop where
  read : fs.read (Path.ofText path) = .ok data
  text : Utf8.isValid data = true

theorem FileSystem.Holds.readUnit {fs : FileSystem} {path : String} {data : Bytes}
    (h : fs.Holds path data) (parser : Parser) (log : Log) :
    ((fs.readUnit parser path false).run log).1 = .ok (.ofTree path data (parser data)) := by
  have hsource : fs.readSource (Path.ofText path) = .ok data := by
    unfold FileSystem.readSource
    simp only [h.read, decodeText_of_isValid h.text]
  rw [run_readUnit, hsource]
  show ((SourceUnit.parse parser data path false).run log).1.mapError Abort.lint = _
  rw [SourceUnit.parse_eq]
  rfl

/-! ## Files one after another -/

/-- Results of times and counts are merged without an error. -/
theorem Results.merge_of_fit {timed : String → Prop} {a b : Results}
    (ha : Stats.Fit timed a.stats) (hb : Stats.Fit timed b.stats) :
    ∃ both, a.merge b = (both, none) ∧ both.files = a.files ++ b.files ∧
      both.failures = a.failures ++ b.failures ∧ Stats.Fit timed both.stats := by
  obtain ⟨stats, htake, hstats⟩ := ha.takeAll hb
  unfold Results.merge
  dsimp only
  rw [htake]
  exact ⟨_, rfl, rfl, rfl, hstats⟩

/-- The unit of a file. -/
def unitOf (parser : Parser) (data : String → Bytes) (path : String) : SourceUnit :=
  .ofTree path (data path) (parser (data path))

namespace Runner

variable {r : Runner} {timed : String → Prop} {parser : Parser} {fs : FileSystem}
  {chosen : Option (List String)} {data : String → Bytes}

/-- Files are checked one after another, up to the first whose types do not settle. -/
theorem runFilesFrom_yields (hstrict : r.strict = false)
    (hr : ∀ c ∈ r.registry.values, c.Tallies timed) {paths : List String}
    (hfiles : ∀ path ∈ paths, fs.Holds path (data path)) {done : Results}
    (hdone : Stats.Fit timed done.stats) :
    Yields (r.runFilesFrom parser fs chosen paths done) fun out =>
      ((∀ path ∈ paths, Index.Settles (unitOf parser data path)) →
        ∃ results, out = .ok results ∧ results.files = done.files ++ paths ∧
          results.failures = done.failures) ∧
      ((∃ path ∈ paths, ¬ Index.Settles (unitOf parser data path)) →
        out = .error .endless) := by
  induction paths generalizing done with
  | nil =>
    refine Yields.pure ⟨fun _ => ⟨done, rfl, (List.append_nil _).symm, rfl⟩, ?_⟩
    rintro ⟨path, hpath, -⟩
    cases hpath
  | cons path paths ih =>
    obtain ⟨hfile, hfiles⟩ := List.forall_mem_cons.1 hfiles
    rw [runFilesFrom, hstrict]
    have hread : Yields (liftM (fs.readUnit parser path false) : Running _) fun out =>
        out = .ok (unitOf parser data path) := fun s log => hfile.readUnit parser log
    refine Yields.bind hread ?_
    rintro _ rfl
    dsimp only
    refine Yields.bind (run_yields hr _ chosen) ?_
    rintro out ⟨hsettled, hendless⟩
    by_cases hu : Index.Settles (unitOf parser data path)
    · obtain ⟨results, rfl, hpath, hfailures, hstats⟩ := hsettled hu
      obtain ⟨both, hmerge, hboth, hnone, hfit⟩ := Results.merge_of_fit hdone hstats
      have hpath : both.files = done.files ++ [path] := by
        rw [hboth, hpath, unitOf, SourceUnit.ofTree, SourceUnit.path_foldl_readDeclaration]
      have hnone : both.failures = done.failures := by
        rw [hnone, hfailures, List.append_nil]
      dsimp only
      rw [hmerge]
      refine Yields.bind (Yields.trivial _) fun _ _ => (ih hfiles hfit).imp ?_
      rintro out ⟨hok, herr⟩
      rw [hpath, hnone, List.append_assoc] at hok
      refine ⟨fun hall => hok (List.forall_mem_cons.1 hall).2, ?_⟩
      rintro ⟨p, hp, hn⟩
      rcases List.mem_cons.1 hp with rfl | hp
      · exact absurd hu hn
      · exact herr ⟨p, hp, hn⟩
    · rw [hendless hu]
      refine Yields.pure ⟨fun hall => absurd (hall path List.mem_cons_self) hu, fun _ => rfl⟩

/-- Over readable files that are text, a run that does not read strictly checks every file in order
and reports no failure, exactly when the types of every file settle. A file whose types do not
settle ends the run, as no index can be built for it. The stack is idealised: a reading ends the run
when it never ends, not when it only goes deep. -/
theorem runFiles_completes_iff (r : Runner) (hstrict : r.strict = false) (hr : r.registry.Tallies)
    (parser : Parser) (fs : FileSystem) (paths : List String) (data : String → Bytes)
    (hfiles : ∀ path ∈ paths, fs.Holds path (data path)) (chosen : Option (List String))
    (s : Suppressions) (log : Log) :
    let out := (((r.runFiles parser fs paths chosen).run s).run log).1.1
    (∀ path ∈ paths, (Index.build (unitOf parser data path) r.hierarchy).isOk ↔
      Index.Settles (unitOf parser data path)) ∧
    ((∃ results, out = .ok results ∧ results.files = paths ∧ results.failures = []) ↔
      ∀ path ∈ paths, Index.Settles (unitOf parser data path)) ∧
    (out = .error .endless ↔ ∃ path ∈ paths, ¬ Index.Settles (unitOf parser data path)) := by
  intro out
  obtain ⟨timed, hr⟩ := hr
  obtain ⟨hok, herr⟩ : ((∀ path ∈ paths, Index.Settles (unitOf parser data path)) →
      ∃ results, out = .ok results ∧ results.files = paths ∧ results.failures = []) ∧
      ((∃ path ∈ paths, ¬ Index.Settles (unitOf parser data path)) → out = .error .endless) :=
    runFilesFrom_yields hstrict hr hfiles Stats.Fit.empty s log
  refine ⟨fun path _ => Index.isOk_build_iff _ _, ⟨?_, hok⟩, ⟨?_, herr⟩⟩
  · rintro ⟨results, hout, -, -⟩ path hpath
    refine Classical.byContradiction fun hn => ?_
    rw [herr ⟨path, hpath, hn⟩] at hout
    cases hout
  · intro hout
    by_cases hall : ∀ path ∈ paths, Index.Settles (unitOf parser data path)
    · obtain ⟨results, hresults, -⟩ := hok hall
      rw [hresults] at hout
      cases hout
    · obtain ⟨path, hpath⟩ := Classical.not_forall.1 hall
      exact ⟨path, Classical.not_imp.1 hpath⟩

/-- The tree of a type `C<T>` that begins at an offset. -/
def genericTree (start : Nat) : Tree :=
  .node { kind := "generic_type", start, stop := start + 4 } [
    .node { kind := "type_identifier", start, stop := start + 1 } [],
    .node { kind := "type_arguments", start := start + 1, stop := start + 4 } [
      .node { kind := "<", isNamed := false, start := start + 1, stop := start + 2 } [],
      .node { kind := "type_identifier", start := start + 2, stop := start + 3 } [],
      .node { kind := ">", isNamed := false, start := start + 3, stop := start + 4 } []]]

/-- A class whose type variable occurs in its own bound. -/
def selfBounded : Bytes := Utf8.ofText "class A<T extends C<T>> extends B<T> \x7b\x7d"

/-- The tree of the class. -/
def selfBoundedTree : Tree :=
  .node { kind := "program", start := 0, stop := 39 } [
    .node { kind := "class_declaration", start := 0, stop := 39 } [
      .node { kind := "class", isNamed := false, start := 0, stop := 5 } [],
      .node { kind := "identifier", start := 6, stop := 7, field := some "name" } [],
      .node { kind := "type_parameters", start := 7, stop := 23, field := some "type_parameters" } [
        .node { kind := "<", isNamed := false, start := 7, stop := 8 } [],
        .node { kind := "type_parameter", start := 8, stop := 22 } [
          .node { kind := "type_identifier", start := 8, stop := 9 } [],
          .node { kind := "type_bound", start := 10, stop := 22 } [
            .node { kind := "extends", isNamed := false, start := 10, stop := 17 } [],
            genericTree 18]],
        .node { kind := ">", isNamed := false, start := 22, stop := 23 } []],
      .node { kind := "superclass", start := 24, stop := 36, field := some "superclass" } [
        .node { kind := "extends", isNamed := false, start := 24, stop := 31 } [],
        genericTree 32],
      .node { kind := "class_body", start := 37, stop := 39, field := some "body" } [
        .node { kind := "\x7b", isNamed := false, start := 37, stop := 38 } [],
        .node { kind := "\x7d", isNamed := false, start := 38, stop := 39 } []]]]

/-- A tree with nothing in it. -/
def emptyTree : Tree := .node { kind := "program", start := 0, stop := 39 } []

/-- A folder with the class in one file. -/
def selfBoundedFolder : FileSystem := { files := ⟨[(["A.java"], selfBounded)]⟩ }

theorem holds_selfBounded : selfBoundedFolder.Holds "A.java" selfBounded where
  read := by rfl
  text := Utf8.isValid_ofText _

/-- Checking the class ends the run, while a tree with nothing in it for the same file does not. -/
theorem runFiles_completes_iff_selfBounded :
    selfBoundedFolder.Holds "A.java" selfBounded ∧
    (((({} : Runner).runFiles (fun _ => selfBoundedTree) selfBoundedFolder ["A.java"]).run {}).run
      []).1.1 = .error .endless ∧
    ∃ results, (((({} : Runner).runFiles (fun _ => emptyTree) selfBoundedFolder ["A.java"]).run
      {}).run []).1.1 = .ok results ∧ results.files = ["A.java"] ∧ results.failures = [] := by
  have hfiles : ∀ path ∈ ["A.java"], selfBoundedFolder.Holds path selfBounded := by
    intro path hpath
    rw [List.mem_singleton.1 hpath]
    exact holds_selfBounded
  have hcircular : ¬ Index.Settles (unitOf (fun _ => selfBoundedTree) (fun _ => selfBounded)
      "A.java") := by
    rw [← Index.isOk_build_iff _ {}]
    decide +kernel
  have hempty : Index.Settles (unitOf (fun _ => emptyTree) (fun _ => selfBounded) "A.java") := by
    rw [← Index.isOk_build_iff _ {}]
    decide +kernel
  refine ⟨holds_selfBounded, ?_, ?_⟩
  · refine (runFiles_completes_iff {} rfl Registry.tallies_standard _ _ _ (fun _ => selfBounded)
      hfiles none {} []).2.2.2 ?_
    exact ⟨"A.java", List.mem_singleton_self _, hcircular⟩
  · refine (runFiles_completes_iff {} rfl Registry.tallies_standard _ _ _ (fun _ => selfBounded)
      hfiles none {} []).2.1.2 ?_
    intro path hpath
    rw [List.mem_singleton.1 hpath]
    exact hempty

end Runner

end CauseLint
