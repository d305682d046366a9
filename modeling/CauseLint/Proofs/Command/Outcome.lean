import CauseLint.Proofs.Command.Mending
import CauseLint.Proofs.Run.Findings

/-!
# The files and the code that a run leaves

A run checks the files that its options name, shows what was found, and may then mend files. What it
found does not depend on the file system after that, so the files and the code in the end are told
by the findings and by the bytes that were there from the start.

Results:

* `Command.Ran.run`: the course of a run.
* `Command.Course.get?_of_fix`: what a place holds in the end.
* `Command.run_effect`: what files hold in the end, and what the code means.
-/

namespace CauseLint.Command

/-- The names of the files that a run checks. -/
def checked (o : Options) (fs : FileSystem) : Except Abort (List String) := do
  let paths ← fs.collect o.exclude o.paths []
  return paths.map (·.text)

/-- What a run finds in the files that its options name. -/
def analysis (env : Environment) (o : Options) (fs : FileSystem) : Except Abort Results := do
  let files ← checked o fs
  let suppressions := o.suppress.foldl Suppressions.addGlobal {}
  let runner : Runner := { strict := o.strictParse }
  (((runner.runFiles env.parser fs files).run' suppressions).run []).1

/-- The course of a run: the files that it checks, what it finds in them, what there is after that
was shown, and what comes of mending. -/
structure Course (env : Environment) (o : Options) (fs : FileSystem) (files : List String)
    (r : Results) (m : Mended) (p q : Progress) : Prop where
  checked : checked o fs = .ok files
  found : analysis env o fs = .ok r
  shown : SameOutside (reportPlaces env o fs.here) fs p.files
  mended : if o.fix || o.diff then
      ∃ q', Ran (mendAll o (groupsOf r) {}) p m q' ∧ q.files = q'.files
    else m = {} ∧ q.files = p.files

variable {env : Environment} {o : Options} {fs : FileSystem} {p q : Progress} {r : Results}

theorem Ran.inspect (h : Ran (inspect env o) { files := fs } r q) :
    ∃ files, checked o fs = .ok files ∧ analysis env o fs = .ok r ∧
      SameOutside (reportPlaces env o fs.here) fs q.files := by
  obtain ⟨_, _, hget, hrest⟩ := ran_bind_iff.1 h
  obtain ⟨rfl, rfl⟩ := ran_get_iff.1 hget
  obtain ⟨paths, p₁, hcollect, hrest₁⟩ := ran_bind_iff.1 hrest
  obtain ⟨hpaths, hfiles₁⟩ := hcollect.guarded
  obtain ⟨_, p₂, hget₂, hrest₂⟩ := ran_bind_iff.1 hrest₁
  obtain ⟨rfl, rfl⟩ := ran_get_iff.1 hget₂
  obtain ⟨results, p₃, hresults, hrest₃⟩ := ran_bind_iff.1 hrest₂
  obtain ⟨hfound, hfiles₃⟩ := hresults.guarded
  obtain ⟨_, p₄, hshow, hreturn⟩ := ran_bind_iff.1 hrest₃
  obtain ⟨rfl, rfl⟩ := ran_pure_iff.1 hreturn
  have hchecked : checked o fs = .ok (paths.map (·.text)) := by
    unfold checked
    rw [← FileSystem.fst_collectLogged, hpaths]
    rfl
  refine ⟨_, hchecked, ?_, ?_⟩
  · unfold analysis
    rw [hchecked, ← hfound, hfiles₁]
    rfl
  · have hshown := hshow.showResults
    rwa [hfiles₃, hfiles₁] at hshown

/-- A run that comes to an end has a course, and its code is told by that. -/
theorem Ran.run {code : Nat} (h : Ran (run env o) { files := fs } code q) :
    ∃ files r m p, Course env o fs files r m p q ∧ code = exitCode o r m := by
  unfold Command.run at h
  obtain ⟨r, p₁, hinspect, hmend⟩ := ran_bind_iff.1 h
  obtain ⟨files, hchecked, hfound, hshown⟩ := hinspect.inspect
  dsimp only at hmend
  split at hmend
  · rename_i hchange
    obtain ⟨m, p₂, hmended, hreturn⟩ := ran_bind_iff.1 hmend
    obtain ⟨rfl, rfl⟩ := ran_pure_iff.1 hreturn
    exact ⟨files, r, m, p₁, ⟨hchecked, hfound, hshown, by rw [if_pos hchange]; exact hmended.mend⟩,
      rfl⟩
  · rename_i hchange
    obtain ⟨rfl, rfl⟩ := ran_pure_iff.1 hmend
    exact ⟨files, r, {}, _, ⟨hchecked, hfound, hshown, by rw [if_neg hchange]; exact ⟨rfl, rfl⟩⟩,
      rfl⟩

/-! ## What is reported -/

/-- The fix of a finding is among those of its file. -/
theorem Results.mem_fixesIn_of_isFinding {d : Diagnostic} {file : String}
    (hd : d ∈ r.diagnostics) (h : d.IsFinding file) : ∃ fix, d.fix = some fix ∧
      fix ∈ r.fixesIn file := by
  obtain ⟨fix, hfix, offset, text, description, -, rfl⟩ := h.fix
  refine ⟨_, hfix, List.mem_filterMap.2 ⟨d, List.mem_filter.2 ⟨hd, by simpa using h.file⟩, ?_⟩⟩
  rw [Diagnostic.realFix?, hfix]
  rfl

theorem exists_of_fixesIn_ne_nil {file : String} (h : r.fixesIn file ≠ []) :
    ∃ d ∈ r.diagnostics, d.location.file = file := by
  obtain ⟨fix, rest, hfixes⟩ := List.exists_cons_of_ne_nil h
  obtain ⟨d, hd, -⟩ := List.mem_filterMap.1 (hfixes ▸ List.mem_cons_self : fix ∈ r.fixesIn file)
  obtain ⟨hd, hfile⟩ := List.mem_filter.1 hd
  exact ⟨d, hd, by simpa using hfile⟩

namespace Course

variable {files : List String} {m : Mended} (c : Course env o fs files r m p q)

include c

/-- All that a run finds are findings of the rule in the files that it checks. -/
theorem reports : ∀ d ∈ r.diagnostics, ∃ file ∈ files, d.IsFinding file := by
  have hfound := c.found
  unfold analysis at hfound
  rw [c.checked] at hfound
  exact Runner.runFiles_reports Registry.reports_standard files hfound

/-- Files with fixes are files that are checked. -/
theorem mem_files {file : String} (h : r.fixesIn file ≠ []) : file ∈ files := by
  obtain ⟨d, hd, rfl⟩ := exists_of_fixesIn_ne_nil h
  obtain ⟨file, hfile, hfinding⟩ := c.reports d hd
  rwa [hfinding.file]

/-- Where files have one name each, groups of fixes have one place each. -/
theorem nodup_places
    (hdistinct : ∀ a ∈ files, ∀ b ∈ files, placeFrom fs.here a = placeFrom fs.here b → a = b) :
    ((groupsOf r).map fun group => placeFrom fs.here group.1).Nodup := by
  have hmem : ∀ name ∈ (groupsOf r).map (·.1), name ∈ files := by
    intro name hname
    obtain ⟨⟨name, fixes⟩, hgroup, rfl⟩ := List.mem_map.1 hname
    obtain ⟨rfl, hne⟩ := mem_groupsOf_iff.1 hgroup
    exact c.mem_files hne
  have hnodup := List.Nodup.map_on (f := placeFrom fs.here)
    (fun a ha b hb => hdistinct a (hmem a ha) b (hmem b hb)) (nodup_names_groupsOf r)
  rwa [List.map_map] at hnodup

/-! ## The files in the end -/

/-- Without `--fix` no file changes. -/
theorem get?_of_not_fix (hfix : o.fix = false) {place : List String}
    (hplace : place ∉ reportPlaces env o fs.here) :
    q.files.files.get? place = fs.files.get? place := by
  have hmended := c.mended
  split at hmended
  · obtain ⟨q', hall, hq⟩ := hmended
    rw [hq, hall.files_mendAll hfix, c.shown.get?_eq place hplace]
  · rw [hmended.2, c.shown.get?_eq place hplace]

section

variable (hfix : o.fix = true)

include hfix

theorem mending : ∃ q', Ran (mendAll o (groupsOf r) {}) p m q' ∧ q.files = q'.files := by
  have hmended := c.mended
  rwa [if_pos (by rw [hfix]; rfl)] at hmended

/-- With `--fix` a place holds what the fixes of its names make of its file one after another. -/
theorem get?_of_fix {place : List String} (hplace : place ∉ reportPlaces env o fs.here) :
    q.files.files.get? place =
      (fs.files.get? place).map (mendedBy (groupsAt fs.here place (groupsOf r))) := by
  obtain ⟨q', hall, hq⟩ := c.mending hfix
  rw [hq, hall.get?_mendAll hfix, c.shown.here, c.shown.get?_eq place hplace]

/-- A place whose fixes all clash holds what it held. -/
theorem get?_of_clash {place : List String} (hplace : place ∉ reportPlaces env o fs.here)
    (hclash : ∀ file source, Patches r fs.here place file → fs.files.get? place = some source →
      ¬ (applyFixes source (r.fixesIn file)).isOk) :
    q.files.files.get? place = fs.files.get? place := by
  rw [c.get?_of_fix hfix hplace]
  cases hsource : fs.files.get? place with
  | none => rfl
  | some source =>
    rw [Option.map_some, mendedBy_eq_self]
    rintro ⟨file, fixes⟩ hgroup
    obtain ⟨hfile, rfl⟩ := mem_groupsAt_iff.1 hgroup
    exact mendedSource_of_not_isOk (hclash file source hfile hsource)

variable (hreports : ∀ file ∈ files, placeFrom fs.here file ∉ reportPlaces env o fs.here)

include hreports

/-- Files with fixes were there from the start. -/
theorem exists_source {file : String} (h : r.fixesIn file ≠ []) :
    ∃ source, fs.files.get? (placeFrom fs.here file) = some source := by
  obtain ⟨q', hall, -⟩ := c.mending hfix
  obtain ⟨source, hsource⟩ := hall.exists_of_mem_mendAll (mem_groupsOf_iff.2 ⟨rfl, h⟩)
  rw [c.shown.here, c.shown.get?_eq _ (hreports file (c.mem_files h))] at hsource
  exact ⟨source, hsource⟩

/-- A file whose place no other name leads to holds what its fixes make of it. -/
theorem get?_of_only {file : String} (h : r.fixesIn file ≠ [])
    (honly : ∀ other ∈ files, placeFrom fs.here other = placeFrom fs.here file → other = file) :
    q.files.files.get? (placeFrom fs.here file) =
      (fs.files.get? (placeFrom fs.here file)).map (mendedSource · (r.fixesIn file)) := by
  rw [c.get?_of_fix hfix (hreports file (c.mem_files h)), groupsAt_eq_singleton ⟨rfl, h⟩]
  · rfl
  · intro other hother
    exact honly other (c.mem_files hother.2) hother.1

variable (hdistinct : ∀ a ∈ files, ∀ b ∈ files, placeFrom fs.here a = placeFrom fs.here b → a = b)

include hdistinct

/-- The files left alone are those whose fixes clash. -/
theorem mem_conflicted_iff {file : String} {source : Bytes} (h : r.fixesIn file ≠ [])
    (hsource : fs.files.get? (placeFrom fs.here file) = some source) :
    file ∈ m.conflicted ↔ ¬ (applyFixes source (r.fixesIn file)).isOk := by
  have hplaces := c.nodup_places hdistinct
  obtain ⟨q', hall, -⟩ := c.mending hfix
  rw [← c.shown.here] at hplaces
  rw [hall.mem_conflicted_mendAll hplaces, c.shown.here,
    c.shown.get?_eq _ (hreports file (c.mem_files h)), hsource]
  constructor
  · rintro (hnone | ⟨fixes, source', hgroup, hsource', hclash⟩)
    · cases hnone
    · obtain ⟨rfl, -⟩ := mem_groupsOf_iff.1 hgroup
      rwa [Option.some.inj hsource']
  · exact fun hclash => .inr ⟨_, source, mem_groupsOf_iff.2 ⟨rfl, h⟩, rfl, hclash⟩

end

end Course

/-! ## The code -/

section

variable {m : Mended}

theorem exitCode_eq_two_iff : exitCode o r m = 2 ↔ r.failures ≠ [] := by
  unfold exitCode
  cases r.failures with
  | nil =>
    refine iff_of_false ?_ (by simp)
    dsimp only [List.isEmpty_nil, Bool.not_true]
    split
    · contradiction
    split
    · split <;> decide
    · split <;> decide
  | cons _ _ => exact iff_of_true rfl (List.cons_ne_nil _ _)

theorem exitCode_eq_zero_iff_isLeft (hfailures : r.failures = []) (hfix : o.fix = true) :
    exitCode o r m = 0 ↔ ∀ d ∈ r.diagnostics, isLeft m d = false := by
  have hcode : exitCode o r m = if r.diagnostics.any (isLeft m) then 1 else 0 := by
    rw [exitCode, hfailures, hfix]
    rfl
  rw [hcode]
  split
  · rename_i hleft
    refine iff_of_false (by decide) fun hnone => ?_
    obtain ⟨d, hd, hl⟩ := List.any_eq_true.1 hleft
    rw [hnone d hd] at hl
    cases hl
  · rename_i hleft
    refine iff_of_true rfl fun d hd => ?_
    exact Bool.eq_false_iff.2 fun hl => hleft (List.any_eq_true.2 ⟨d, hd, hl⟩)

theorem exitCode_eq_zero_iff_severity (hfailures : r.failures = []) (hfix : o.fix = false) :
    exitCode o r m = 0 ↔ ∀ d ∈ r.diagnostics, d.severity = .information := by
  have hcode : exitCode o r m = if r.findingCount = 0 then 0 else 1 := by
    rw [exitCode, hfailures, hfix]
    rfl
  rw [hcode]
  have hcount : r.findingCount = 0 ↔ ∀ d ∈ r.diagnostics, d.severity = .information := by
    rw [Results.findingCount, List.countP_eq_zero]
    refine forall_congr' fun d => forall_congr' fun _ => ?_
    simp
  rw [← hcount]
  split
  · rename_i hnone
    exact iff_of_true rfl hnone
  · rename_i hsome
    exact iff_of_false (by decide) hsome

end

/-- The fix of a finding is in its file: the file holds what the fixes that are reported in it make
of what it held before. -/
def FixWritten (r : Results) (before after : FileSystem) (d : Diagnostic) : Prop :=
  ∃ fix source patched, d.fix = some fix ∧ fix ∈ r.fixesIn d.location.file ∧
    before.files.get? (placeFrom before.here d.location.file) = some source ∧
    applyFixes source (r.fixesIn d.location.file) = .ok patched ∧
    after.files.get? (placeFrom before.here d.location.file) = some patched

/-- A finding is left exactly when its fix is not written. -/
theorem Course.isLeft_eq_false_iff {files : List String} {m : Mended}
    (c : Course env o fs files r m p q) (hfix : o.fix = true)
    (hreports : ∀ file ∈ files, placeFrom fs.here file ∉ reportPlaces env o fs.here)
    (hdistinct : ∀ a ∈ files, ∀ b ∈ files, placeFrom fs.here a = placeFrom fs.here b → a = b)
    {d : Diagnostic} (hd : d ∈ r.diagnostics) : isLeft m d = false ↔ FixWritten r fs q.files d := by
  obtain ⟨file, hfile, hfinding⟩ := c.reports d hd
  obtain ⟨fix, hdfix, hin⟩ := Results.mem_fixesIn_of_isFinding hd hfinding
  obtain rfl := hfinding.file
  have hne : r.fixesIn d.location.file ≠ [] := List.ne_nil_of_mem hin
  obtain ⟨source, hsource⟩ := c.exists_source hfix hreports hne
  have hid : d.errorId ≠ internalErrorId := by
    rw [hfinding.errorId]
    decide
  rw [isLeft, hdfix, decide_eq_true hid, Bool.true_and, Option.isNone_some, Bool.false_or,
    ← Bool.not_eq_true, List.contains_iff_mem,
    c.mem_conflicted_iff hfix hreports hdistinct hne hsource, Decidable.not_not]
  constructor
  · intro hok
    obtain ⟨patched, hpatched⟩ := isOk_iff_exists.1 hok
    have hafter := c.get?_of_only hfix hreports hne
      fun other hother heq => hdistinct other hother _ hfile heq
    rw [hsource, Option.map_some, mendedSource_of_ok hpatched] at hafter
    exact ⟨fix, source, patched, hdfix, hin, hsource, hpatched, hafter⟩
  · rintro ⟨_, source', patched, -, -, hsource', hpatched, -⟩
    obtain rfl : source = source' := Option.some.inj (hsource.symm.trans hsource')
    exact isOk_iff_exists.2 ⟨patched, hpatched⟩

/-- What files hold in the end, and what the code means, where reports go to other places than the
files that are checked. Paths may start at the current folder or at the root, and lead outward by
`..`; two of them name one file when they lead to one place. Without `--fix` nothing changes. With
it a file that is checked under one name holds what the fixes reported in it make of its source,
where they do not clash, and every place without such fixes holds what it held. The code is 2 when a
file could not be checked; else, with `--fix`, where every file is checked under one name, it is 0
when every finding has its fix written, and without `--fix` when nothing but information was
reported. -/
theorem run_effect (env : Environment) (o : Options) (fs : FileSystem) (files : List String)
    (hfiles : checked o fs = .ok files)
    (hreports : ∀ file ∈ files, placeFrom fs.here file ∉ reportPlaces env o fs.here)
    (code : Nat) (p : Progress) (hrun : ((run env o).run).run { files := fs } = (.ok code, p)) :
    ∃ r, analysis env o fs = .ok r ∧
      (o.fix = false → ∀ place ∉ reportPlaces env o fs.here,
        p.files.files.get? place = fs.files.get? place) ∧
      (o.fix = true →
        (∀ file, r.fixesIn file ≠ [] →
          (∀ other ∈ files, placeFrom fs.here other = placeFrom fs.here file → other = file) →
          ∃ source, fs.files.get? (placeFrom fs.here file) = some source ∧
            ∀ patched, applyFixes source (r.fixesIn file) = .ok patched →
              p.files.files.get? (placeFrom fs.here file) = some patched) ∧
        ∀ place ∉ reportPlaces env o fs.here,
          (∀ file source, Patches r fs.here place file → fs.files.get? place = some source →
            ¬ (applyFixes source (r.fixesIn file)).isOk) →
          p.files.files.get? place = fs.files.get? place) ∧
      (code = 2 ↔ r.failures ≠ []) ∧
      (r.failures = [] → o.fix = true →
        (∀ a ∈ files, ∀ b ∈ files, placeFrom fs.here a = placeFrom fs.here b → a = b) →
        (code = 0 ↔ ∀ d ∈ r.diagnostics, FixWritten r fs p.files d)) ∧
      (r.failures = [] → o.fix = false →
        (code = 0 ↔ ∀ d ∈ r.diagnostics, d.severity = .information)) := by
  obtain ⟨_, r, m, shown, c, rfl⟩ := Ran.run hrun
  obtain rfl : files = _ := Except.ok.inj (hfiles.symm.trans c.checked)
  refine ⟨r, c.found, fun hfix _ => c.get?_of_not_fix hfix, fun hfix => ⟨?_, ?_⟩,
    exitCode_eq_two_iff, ?_, exitCode_eq_zero_iff_severity⟩
  · intro file hne honly
    obtain ⟨source, hsource⟩ := c.exists_source hfix hreports hne
    refine ⟨source, hsource, fun patched hpatched => ?_⟩
    rw [c.get?_of_only hfix hreports hne honly, hsource, Option.map_some,
      mendedSource_of_ok hpatched]
  · exact fun place => c.get?_of_clash hfix
  · intro hfailures hfix hdistinct
    rw [exitCode_eq_zero_iff_isLeft hfailures hfix]
    exact forall₂_congr fun d hd => c.isLeft_eq_false_iff hfix hreports hdistinct hd

/-- A method that logs an exception without attaching it. -/
def lostCause : Bytes :=
  Utf8.ofText "void f(com.google.common.flogger.LoggingApi a, Throwable e) \x7b a.log(e); \x7d"

/-- The method with the exception attached. -/
def keptCause : Bytes :=
  Utf8.ofText
    "void f(com.google.common.flogger.LoggingApi a, Throwable e) \x7b a.withCause(e).log(e); \x7d"

/-- The tree of the method. -/
def lostCauseTree : Tree :=
  .node { kind := "program", start := 0, stop := 73 } [
    .node { kind := "method_declaration", start := 0, stop := 73 } [
      .node { kind := "void_type", start := 0, stop := 4, field := some "type" } [],
      .node { kind := "identifier", start := 5, stop := 6, field := some "name" } [],
      .node { kind := "formal_parameters", start := 6, stop := 59, field := some "parameters" } [
        .node { kind := "(", isNamed := false, start := 6, stop := 7 } [],
        .node { kind := "formal_parameter", start := 7, stop := 45 } [
          .node { kind := "scoped_type_identifier", start := 7, stop := 43,
                  field := some "type" } [
            .node { kind := "scoped_type_identifier", start := 7, stop := 32 } [
              .node { kind := "scoped_type_identifier", start := 7, stop := 24 } [
                .node { kind := "scoped_type_identifier", start := 7, stop := 17 } [
                  .node { kind := "type_identifier", start := 7, stop := 10 } [],
                  .node { kind := ".", isNamed := false, start := 10, stop := 11 } [],
                  .node { kind := "type_identifier", start := 11, stop := 17 } []],
                .node { kind := ".", isNamed := false, start := 17, stop := 18 } [],
                .node { kind := "type_identifier", start := 18, stop := 24 } []],
              .node { kind := ".", isNamed := false, start := 24, stop := 25 } [],
              .node { kind := "type_identifier", start := 25, stop := 32 } []],
            .node { kind := ".", isNamed := false, start := 32, stop := 33 } [],
            .node { kind := "type_identifier", start := 33, stop := 43 } []],
          .node { kind := "identifier", start := 44, stop := 45, field := some "name" } []],
        .node { kind := ",", isNamed := false, start := 45, stop := 46 } [],
        .node { kind := "formal_parameter", start := 47, stop := 58 } [
          .node { kind := "type_identifier", start := 47, stop := 56, field := some "type" } [],
          .node { kind := "identifier", start := 57, stop := 58, field := some "name" } []],
        .node { kind := ")", isNamed := false, start := 58, stop := 59 } []],
      .node { kind := "block", start := 60, stop := 73, field := some "body" } [
        .node { kind := "\x7b", isNamed := false, start := 60, stop := 61 } [],
        .node { kind := "expression_statement", start := 62, stop := 71 } [
          .node { kind := "method_invocation", start := 62, stop := 70 } [
            .node { kind := "identifier", start := 62, stop := 63, field := some "object" } [],
            .node { kind := ".", isNamed := false, start := 63, stop := 64 } [],
            .node { kind := "identifier", start := 64, stop := 67, field := some "name" } [],
            .node { kind := "argument_list", start := 67, stop := 70,
                    field := some "arguments" } [
              .node { kind := "(", isNamed := false, start := 67, stop := 68 } [],
              .node { kind := "identifier", start := 68, stop := 69 } [],
              .node { kind := ")", isNamed := false, start := 69, stop := 70 } []]],
          .node { kind := ";", isNamed := false, start := 70, stop := 71 } []],
        .node { kind := "\x7d", isNamed := false, start := 72, stop := 73 } []]]]

/-- A folder with the method in one file, next to an empty folder. -/
def lostCauseFolder : FileSystem := { files := ⟨[(["A.java"], lostCause)]⟩, folders := [["d"]] }

/-- A run that mends the files under some names. -/
def mendingRun (paths : List String) : Options := { paths, fix := true, output := none }

/-- What surrounds a run over files that hold the method. -/
def lostCauseRun : Environment := { parser := fun _ => lostCauseTree }

/-- The method is mended, and the code says so. -/
theorem run_effect_lostCause :
    checked (mendingRun ["A.java"]) lostCauseFolder = .ok ["A.java"] ∧
    ∃ p r, ((run lostCauseRun (mendingRun ["A.java"])).run).run { files := lostCauseFolder } =
        (.ok 0, p) ∧
      analysis lostCauseRun (mendingRun ["A.java"]) lostCauseFolder = .ok r ∧
      p.files.files.get? ["A.java"] = some keptCause ∧
      ∀ d ∈ r.diagnostics, FixWritten r lostCauseFolder p.files d := by
  have hchecked := eq_ok_of_toOption (show
    (checked (mendingRun ["A.java"]) lostCauseFolder).toOption = some ["A.java"] by decide +kernel)
  have hended :
      let ended := ((run lostCauseRun (mendingRun ["A.java"])).run).run { files := lostCauseFolder }
      (ended.1.toOption, ended.2.files.files.get? ["A.java"]) = (some 0, some keptCause) := by
    decide +kernel
  obtain ⟨hcode, hafter⟩ := Prod.mk.inj hended
  obtain ⟨r, hr, -, -, hfailed, hzero, -⟩ := run_effect lostCauseRun (mendingRun ["A.java"])
    lostCauseFolder ["A.java"] hchecked (fun _ _ => List.not_mem_nil) 0 _ (ran_of_toOption hcode)
  have hdistinct : ∀ a ∈ ["A.java"], ∀ b ∈ ["A.java"],
      placeFrom lostCauseFolder.here a = placeFrom lostCauseFolder.here b → a = b := by
    intro a ha b hb _
    rw [List.mem_singleton.1 ha, List.mem_singleton.1 hb]
  have hfailures : r.failures = [] := by
    by_contra hne
    cases hfailed.2 hne
  exact ⟨hchecked, _, r, ran_of_toOption hcode, hr, hafter, (hzero hfailures rfl hdistinct).1 rfl⟩

end CauseLint.Command
