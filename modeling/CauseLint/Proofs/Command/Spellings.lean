import CauseLint.Proofs.Command.Outcome

/-!
# One file under several names

Paths are told apart by their spelling, and files are mended by their names. A file that is checked
under two spellings which lead to one place, such as `A.java` and `d/../A.java`, or `A.java` and a
path to it from the root, is mended once for each: the second time the fixes, which were found in
the first contents, are applied to the mended ones. As fixes insert texts, this is seen by the
length, and it happens exactly when two spellings have fixes.

Results:

* `Command.length_mendedBy`: each group of fixes counts.
* `Command.patchedOnce_iff`: when a file is mended no more than once.
-/

namespace CauseLint.Command

variable {r : Results}

/-- What a place holds is what it held, or what the fixes that were found under one name make of
that. -/
def PatchedOnce (r : Results) (here place : List String) (source after : Bytes) : Prop :=
  after = source ∨ ∃ file, Patches r here place file ∧
    applyFixes source (r.fixesIn file) = .ok after

/-- The fixes that are found insert texts. -/
theorem inserts_of_mem_fixesIn {files : List String}
    (hreports : ∀ d ∈ r.diagnostics, ∃ file ∈ files, d.IsFinding file) {file : String} {f : Fix}
    (h : f ∈ r.fixesIn file) : f.Inserts := by
  obtain ⟨d, hd, hreal⟩ := List.mem_filterMap.1 h
  obtain ⟨_, -, hfinding⟩ := hreports d (List.mem_filter.1 hd).1
  obtain ⟨fix, hfix, hinserts⟩ := hfinding.fix
  obtain ⟨hf, -⟩ := Option.filter_eq_some_iff.1 hreal
  rwa [← Option.some.inj (hfix.symm.trans hf)]

/-- Groups of fixes that apply to a source are all applied, one after another, and each makes what
is there longer. -/
theorem length_mendedBy {base : Bytes} {groups : List (String × List Fix)}
    (hinserts : ∀ group ∈ groups, ∀ f ∈ group.2, f.Inserts)
    (hok : ∀ group ∈ groups, (applyFixes base group.2).isOk) {source : Bytes}
    (hle : base.length ≤ source.length) :
    (mendedBy groups source).length =
      source.length + total (fun group => inserted group.2) groups := by
  induction groups generalizing source with
  | nil => rfl
  | cons group groups ih =>
    obtain ⟨hinsert, hinserts⟩ := List.forall_mem_cons.1 hinserts
    obtain ⟨happly, hok⟩ := List.forall_mem_cons.1 hok
    obtain ⟨after, hafter⟩ := isOk_iff_exists.1 (isOk_applyFixes_of_le hle happly)
    have hlength := length_of_applyFixes hinsert hafter
    have hrest := ih hinserts hok (show base.length ≤ after.length by omega)
    have hstep : mendedBy (group :: groups) source = mendedBy groups after := by
      rw [← mendedSource_of_ok hafter]
      rfl
    rw [hstep, hrest, total_cons]
    omega

/-- What groups of one name make of a source is what it was, or what the group makes of it. -/
theorem patchedOnce_of_unique {here place : List String} (source : Bytes)
    (h : ∀ a b, Patches r here place a → Patches r here place b → a = b) :
    PatchedOnce r here place source (mendedBy (groupsAt here place (groupsOf r)) source) := by
  by_cases hsome : ∃ file, Patches r here place file
  · obtain ⟨file, hfile⟩ := hsome
    rw [groupsAt_eq_singleton hfile fun other hother => h other file hother hfile]
    show PatchedOnce r here place source (mendedSource source (r.fixesIn file))
    cases hafter : applyFixes source (r.fixesIn file) with
    | error c =>
      rw [mendedSource, hafter]
      exact .inl rfl
    | ok after =>
      rw [mendedSource_of_ok hafter]
      exact .inr ⟨file, hfile, hafter⟩
  · rw [mendedBy_eq_self fun group hgroup =>
      absurd ⟨group.1, (mem_groupsAt_iff.1 hgroup).1⟩ hsome]
    exact .inl rfl

/-- Two groups for one place are both seen. -/
theorem unique_of_patchedOnce {files : List String}
    (hreports : ∀ d ∈ r.diagnostics, ∃ file ∈ files, d.IsFinding file) {here place : List String}
    {source : Bytes} (hok : ∀ file, Patches r here place file →
      (applyFixes source (r.fixesIn file)).isOk)
    (h : PatchedOnce r here place source (mendedBy (groupsAt here place (groupsOf r)) source)) :
    ∀ a b, Patches r here place a → Patches r here place b → a = b := by
  intro a b ha hb
  refine Classical.byContradiction fun hne => ?_
  have hinserts : ∀ file, ∀ f ∈ r.fixesIn file, f.Inserts := fun file f hf =>
    inserts_of_mem_fixesIn hreports hf
  have hmem : ∀ group ∈ groupsAt here place (groupsOf r),
      Patches r here place group.1 ∧ r.fixesIn group.1 = group.2 := fun _ => mem_groupsAt_iff.1
  have hlength := length_mendedBy
    (fun group hgroup => (hmem group hgroup).2 ▸ hinserts group.1)
    (fun group hgroup => (hmem group hgroup).2 ▸ hok group.1 (hmem group hgroup).1)
    (Nat.le_refl source.length)
  have hboth : ∀ {c d}, Patches r here place c → Patches r here place d → c ≠ d →
      inserted (r.fixesIn c) + inserted (r.fixesIn d) ≤
        total (fun group => inserted group.2) (groupsAt here place (groupsOf r)) := by
    intro c d hc hd hcd
    exact add_le_total (fun group => inserted group.2) (mem_groupsAt_iff.2 ⟨hc, rfl⟩)
      (mem_groupsAt_iff.2 ⟨hd, rfl⟩) fun heq => hcd (congrArg Prod.fst heq)
  have hpos : ∀ {c}, Patches r here place c → 0 < inserted (r.fixesIn c) := fun hc =>
    inserted_pos (hinserts _) hc.2
  have hab := hboth ha hb hne
  have ha' := hpos ha
  have hb' := hpos hb
  rcases h with hsame | ⟨file, hfile, happly⟩
  · rw [hsame] at hlength
    omega
  · have honce := length_of_applyFixes (hinserts file) happly
    by_cases hfa : file = a
    · subst hfa
      omega
    · have := hboth hfile ha hfa
      omega

/-- Spellings may start at the current folder or at the root, and lead outward by `..`. With `--fix`
a file whose fixes were found under one name at most holds in the end what it held, or what the
fixes make of that. Where the fixes of each name apply, this is so only then: a file whose fixes
were found under two spellings has been mended twice. -/
theorem patchedOnce_iff (env : Environment) (o : Options) (fs : FileSystem)
    (hfix : o.fix = true) (code : Nat) (p : Progress)
    (hrun : ((run env o).run).run { files := fs } = (.ok code, p)) :
    ∃ r, analysis env o fs = .ok r ∧ ∀ place ∉ reportPlaces env o fs.here,
      (fs.files.get? place = none → p.files.files.get? place = none) ∧
      ∀ source, fs.files.get? place = some source →
        ∃ after, p.files.files.get? place = some after ∧
          ((∀ a b, Patches r fs.here place a → Patches r fs.here place b → a = b) →
            PatchedOnce r fs.here place source after) ∧
          ((∀ file, Patches r fs.here place file → (applyFixes source (r.fixesIn file)).isOk) →
            (PatchedOnce r fs.here place source after ↔
              ∀ a b, Patches r fs.here place a → Patches r fs.here place b → a = b)) := by
  obtain ⟨files, r, m, shown, c, -⟩ := Ran.run hrun
  refine ⟨r, c.found, fun place hplace => ?_⟩
  rw [c.get?_of_fix hfix hplace]
  refine ⟨fun hnone => by rw [hnone]; rfl, fun source hsource => ?_⟩
  rw [hsource]
  exact ⟨_, rfl, patchedOnce_of_unique source, fun hok =>
    ⟨unique_of_patchedOnce c.reports hok, patchedOnce_of_unique source⟩⟩

/-- The method with the exception attached twice. -/
def twiceKeptCause : Bytes :=
  Utf8.ofText ("void f(com.google.common.flogger.LoggingApi a, Throwable e) " ++
    "\x7b a.withCause(e).withCause(e).log(e); \x7d")

/-- Two names of one file. -/
def twoSpellings : Options := mendingRun ["A.java", "d/../A.java"]

/-- The fix of the method, for both names of the file. -/
def spelledFixes : List (String × List Fix) :=
  let attach : Fix := ⟨[.insertion 63 ".withCause(e)"], "attach e with withCause"⟩
  [("A.java", [attach]), ("d/../A.java", [attach])]

/-- The method is mended twice, and the code says that all is well. -/
theorem run_twoSpellings :
    ∃ r p, Ran (run lostCauseRun twoSpellings) { files := lostCauseFolder } 0 p ∧
      analysis lostCauseRun twoSpellings lostCauseFolder = .ok r ∧ groupsOf r = spelledFixes ∧
      p.files.files.get? ["A.java"] = some twiceKeptCause := by
  have hended :
      let shown := (inspect lostCauseRun twoSpellings).run.run { files := lostCauseFolder }
      let mended := (mendAll twoSpellings spelledFixes {}).run.run shown.2
      ((shown.1.toOption.map fun r => (r.fixesByFile.entries, exitCode twoSpellings r ⟨2, []⟩)),
        (mended.1.toOption.map fun m => (m.changed, m.conflicted)),
        mended.2.files.files.get? ["A.java"]) =
        (some (spelledFixes, 0), some (2, []), some twiceKeptCause) := by
    decide +kernel
  obtain ⟨hfound, hmended⟩ := Prod.mk.inj hended
  obtain ⟨hm, hafter⟩ := Prod.mk.inj hmended
  obtain ⟨r, hr, hentries⟩ := Option.map_eq_some_iff.1 hfound
  obtain ⟨hentries, hcode⟩ := Prod.mk.inj hentries
  have hinspect := ran_of_toOption hr
  obtain ⟨_, -, hanalysis, -⟩ := hinspect.inspect
  have hgroups : groupsOf r = spelledFixes := by
    rw [groupsOf, hentries]
    exact List.mergeSort_of_pairwise (by decide)
  obtain ⟨⟨_, _⟩, hm, heq⟩ := Option.map_eq_some_iff.1 hm
  obtain ⟨rfl, rfl⟩ := Prod.mk.inj heq
  have hall := ran_of_toOption hm
  rw [← hgroups] at hall hafter
  obtain ⟨p, hmend, hfiles⟩ := hall.of_mendAll
  refine ⟨r, p, ?_, hanalysis, hgroups, hfiles ▸ hafter⟩
  unfold run
  exact ran_bind_iff.2 ⟨r, _, hinspect, ran_bind_iff.2 ⟨_, p, hmend,
    ran_pure_iff.2 ⟨hcode.symm, rfl⟩⟩⟩

/-- Fixes were found under both names, so what the file holds is not what they make of it once. -/
theorem patchedOnce_iff_lostCause :
    ∃ p r, ((run lostCauseRun twoSpellings).run).run { files := lostCauseFolder } = (.ok 0, p) ∧
      analysis lostCauseRun twoSpellings lostCauseFolder = .ok r ∧
      p.files.files.get? ["A.java"] = some twiceKeptCause ∧
      ¬ PatchedOnce r [] ["A.java"] lostCause twiceKeptCause := by
  obtain ⟨r, p, hrun, hr, hgroups, hafter⟩ := run_twoSpellings
  obtain ⟨r', hr', hplaces⟩ := patchedOnce_iff lostCauseRun twoSpellings lostCauseFolder
    rfl 0 p hrun
  obtain rfl : r = r' := Except.ok.inj (hr.symm.trans hr')
  obtain ⟨_, hafter', -, honce⟩ := (hplaces ["A.java"] List.not_mem_nil).2 lostCause rfl
  obtain rfl := Option.some.inj (hafter.symm.trans hafter')
  have hpatches : ∀ group ∈ spelledFixes, Patches r [] ["A.java"] group.1 := by
    intro group hgroup
    have hplace : ∀ group ∈ spelledFixes, placeFrom [] group.1 = ["A.java"] := by decide +kernel
    obtain ⟨hfixes, hne⟩ := mem_groupsOf_iff.1 (hgroups ▸ hgroup)
    exact ⟨hplace group hgroup, hfixes ▸ hne⟩
  have hok : ∀ file, Patches r [] ["A.java"] file → (applyFixes lostCause (r.fixesIn file)).isOk := by
    intro file hfile
    have happly : ∀ group ∈ spelledFixes, (applyFixes lostCause group.2).isOk := by decide +kernel
    exact happly (file, r.fixesIn file) (hgroups ▸ mem_groupsOf_iff.2 ⟨rfl, hfile.2⟩)
  refine ⟨p, r, hrun, hr, hafter, fun h => ?_⟩
  have hsame : "A.java" = "d/../A.java" :=
    (honce hok).1 h _ _ (hpatches (_, _) List.mem_cons_self)
      (hpatches (_, _) (List.mem_cons_of_mem _ List.mem_cons_self))
  exact absurd hsame (by decide)

end CauseLint.Command
