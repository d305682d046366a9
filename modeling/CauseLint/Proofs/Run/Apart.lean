import CauseLint.Proofs.Command.Outcome
import CauseLint.Proofs.Files.Places
import CauseLint.Proofs.Rule.History
import CauseLint.Proofs.Run.Findings
import CauseLint.Proofs.Run.Merging
import CauseLint.Proofs.Suppression.Agreement

/-!
# Files apart

A run keeps what is suppressed from one file to the next and nothing else. What is suppressed by the
comments of a file concerns findings in files of that name only, so files of different names are
checked independently of each other, and the results of a run over two lists of files are those of
two runs, merged.

Results:

* `Runner.runFilesFrom_append`: a run over two lists is two runs, one continuing the other.
* `Runner.runFilesFrom_alike`: a run that continues results finds what a run of its own finds.
* `Runner.agree_runFilesFrom`: a run leaves what is suppressed in files of other names.
* `Runner.runFiles_append`: the results of a run over two lists of files.
-/

namespace CauseLint

variable {α β γ δ : Type}

/-! ## Computations that do not mind the log -/

/-- What a computation comes to, and what is remembered after it, does not depend on what was noted
before. -/
def Quiet (a : LogT (StateM Memo) α) : Prop :=
  ∀ log log' memo, ((a.run log).run memo).1.1 = ((a.run log').run memo).1.1 ∧
    ((a.run log).run memo).2 = ((a.run log').run memo).2

theorem Quiet.bind {a : LogT (StateM Memo) α} {f : α → LogT (StateM Memo) β} (ha : Quiet a)
    (hf : ∀ v, Quiet (f v)) : Quiet (a >>= f) := by
  intro log log' memo
  obtain ⟨hv, hm⟩ := ha log log' memo
  show (((f ((a.run log).run memo).1.1).run _).run ((a.run log).run memo).2).1.1 =
      (((f ((a.run log').run memo).1.1).run _).run ((a.run log').run memo).2).1.1 ∧
    (((f ((a.run log).run memo).1.1).run _).run ((a.run log).run memo).2).2 =
      (((f ((a.run log').run memo).1.1).run _).run ((a.run log').run memo).2).2
  rw [hv, hm]
  exact hf _ _ _ _

theorem stepwise_quiet : Rule.Stepwise Quiet where
  pure _ _ _ _ := ⟨rfl, rfl⟩
  bind := Quiet.bind
  note _ _ _ _ _ _ := ⟨rfl, rfl⟩

/-! ## Checkers that look at their unit only -/

/-- A checker that speaks of its unit only, whatever was noted before, and that counts; times are
kept for it under the names `timed`. -/
structure Checker.Local (c : Checker) (timed : String → Prop) : Prop where
  elapsed : timed (c.name ++ "_elapsed_ms")
  quiet : ∀ (u : SourceUnit) (x : Index) stats, Quiet ((c.inspect ⟨u, x.oracle⟩).run.run stats)
  located : ∀ i stats, Yields ((c.inspect i).run.run stats) fun out =>
    ∀ ds, out.1 = .ok ds → ∀ d ∈ ds, d.location.file = i.unit.path
  rest : ∀ i (stats : Stats), stats.AtRest timed →
    Yields ((c.inspect i).run.run stats) fun out => out.2.AtRest timed

/-- A registry whose checkers look at their unit only, and agree on which names are those of
times. -/
def Registry.Local (r : Registry) : Prop := ∃ timed, ∀ c ∈ r.values, c.Local timed

theorem local_causeChecker : causeChecker.Local (· = causeCheckerName ++ "_elapsed_ms") where
  elapsed := rfl
  quiet u x stats := by
    have hfound : Quiet (Rule.findAll { unit := u, oracle := x.oracle }) :=
      stepwise_quiet.matchesAmong (x := x) rfl fun _ _ _ _ _ _ _ => ⟨rfl, rfl⟩
    show Quiet (Rule.findAll { unit := u, oracle := x.oracle } >>= fun found =>
      pure (Except.ok (found.map (·.toDiagnostic u causeCheckerName)),
        stats.insert (causeCheckerName ++ "_candidates") (.amount (.whole found.length))))
    exact hfound.bind fun _ => stepwise_quiet.pure _
  located i stats := by
    refine (reports_causeChecker i stats).imp ?_
    rintro out ⟨ds, hds, hall⟩ ds' hds' d hd
    obtain rfl : ds = ds' := Except.ok.inj (hds.symm.trans hds')
    exact (hall d hd).file
  rest i stats h log memo := by
    have hne : causeCheckerName ++ "_candidates" ≠ causeCheckerName ++ "_elapsed_ms" := by decide
    exact Table.Each.insert h hne

/-- The checkers that come with the program look at their unit only. -/
theorem Registry.local_standard : Registry.standard.Local := by
  refine ⟨(· = causeCheckerName ++ "_elapsed_ms"), ?_⟩
  intro c hc
  obtain rfl : c = causeChecker := List.mem_singleton.1 hc
  exact local_causeChecker

namespace Checker.Local

variable {c : Checker} {timed : String → Prop} (hc : c.Local timed)

include hc

theorem tells : c.Tells fun file d => d.location.file = file := by
  intro i s stats
  unfold Checker.outcome
  refine Yields.bind (hc.located i stats) ?_
  rintro ⟨result, after⟩ hds
  cases result with
  | ok ds => exact Yields.pure fun d hd => hds ds rfl d (Suppressions.mem_of_mem_keep hd)
  | error message =>
    refine Yields.bind (Yields.trivial _) fun _ _ => Yields.pure fun d hd => ?_
    rw [List.mem_singleton.1 (Suppressions.mem_of_mem_keep hd)]
    rfl

/-- What a checker says depends on what is suppressed in its unit only. -/
theorem outcome_eq {i : Inspection} {s t : Suppressions} (h : s.Agree t i.unit.path)
    (stats : Stats) : c.outcome i s stats = c.outcome i t stats := by
  unfold Checker.outcome
  refine Yields.bind_congr (hc.located i stats) ?_
  rintro ⟨result, after⟩ hds
  cases result with
  | ok ds =>
    dsimp only
    rw [h.keep (hds ds rfl)]
  | error message =>
    dsimp only
    rw [h.keep fun d hd => by rw [List.mem_singleton.1 hd]; rfl]

theorem quiet_outcome (u : SourceUnit) (x : Index) (s : Suppressions) (stats : Stats) :
    Quiet (c.outcome ⟨u, x.oracle⟩ s stats) := by
  unfold Checker.outcome
  refine (hc.quiet u x stats).bind ?_
  rintro ⟨result, after⟩
  cases result with
  | ok ds => exact stepwise_quiet.pure _
  | error message => exact (stepwise_quiet.note _ _ _).bind fun _ => stepwise_quiet.pure _

theorem rest_outcome (i : Inspection) (s : Suppressions) {stats : Stats}
    (h : stats.AtRest timed) : Yields (c.outcome i s stats) fun out => out.2.AtRest timed := by
  unfold Checker.outcome
  refine Yields.bind (hc.rest i stats h) ?_
  rintro ⟨result, after⟩ hafter
  cases result with
  | ok ds => exact Yields.pure hafter
  | error message => exact Yields.bind (Yields.trivial _) fun _ _ => Yields.pure hafter

end Checker.Local

/-! ## A unit -/

section

variable {timed : String → Prop} {cs : List Checker} (hcs : ∀ c ∈ cs, c.Local timed)

include hcs

theorem runCheckers_eq_of_agree {i : Inspection} {s t : Suppressions}
    (h : s.Agree t i.unit.path) (r : Results) (stats : Stats) :
    runCheckers i s cs r stats = runCheckers i t cs r stats := by
  induction cs generalizing r stats with
  | nil => rfl
  | cons c cs ih =>
    obtain ⟨hc, hcs⟩ := List.forall_mem_cons.1 hcs
    rw [runCheckers, runCheckers, hc.outcome_eq h]
    refine congrArg (c.outcome i t stats >>= ·) ?_
    funext out
    exact ih hcs _ _

theorem quiet_runCheckers (u : SourceUnit) (x : Index) (s : Suppressions) (r : Results)
    (stats : Stats) : Quiet (runCheckers ⟨u, x.oracle⟩ s cs r stats) := by
  induction cs generalizing r stats with
  | nil => exact stepwise_quiet.pure _
  | cons c cs ih =>
    obtain ⟨hc, hcs⟩ := List.forall_mem_cons.1 hcs
    rw [runCheckers]
    refine (hc.quiet_outcome u x s stats).bind ?_
    rintro ⟨ds, after⟩
    exact ih hcs _ _

theorem tidy_runCheckers (i : Inspection) (s : Suppressions) {r : Results} (hr : r.Tidy timed)
    {stats : Stats} (h : stats.AtRest timed) :
    Yields (runCheckers i s cs r stats) fun out => out.1.Tidy timed ∧ out.2.AtRest timed := by
  induction cs generalizing r stats with
  | nil => exact Yields.pure ⟨hr, h⟩
  | cons c cs ih =>
    obtain ⟨hc, hcs⟩ := List.forall_mem_cons.1 hcs
    rw [runCheckers]
    refine Yields.bind (hc.rest_outcome i s h) ?_
    rintro ⟨ds, after⟩ hafter
    refine ih hcs (r := r.addOutcome c.name ds) ⟨?_, ?_, ?_⟩ hafter
    · exact Table.nodup_keys_insert hr.byChecker _ _
    · exact Table.nodup_keys_insert hr.stats _ _
    · exact Table.Each.insert hr.rest ⟨hc.elapsed, rfl⟩

end

/-! ## Two runs side by side -/

/-- Suppressions that say the same about some files. -/
def AgreeOn (F : String → Prop) (s t : Suppressions) : Prop := ∀ file, F file → s.Agree t file

/-- Two computations, started with suppressions that agree on some files, come to values in a
relation and leave suppressions that agree on these files, whatever was noted before. -/
def Alike (F : String → Prop) (R : α → β → Prop) (x : Running α) (y : Running β) : Prop :=
  ∀ s t, AgreeOn F s t → ∀ log log',
    R ((x.run s).run log).1.1 ((y.run t).run log').1.1 ∧
      AgreeOn F ((x.run s).run log).1.2 ((y.run t).run log').1.2

namespace Alike

variable {F : String → Prop} {R : α → β → Prop}

theorem pure {a : α} {b : β} (h : R a b) : Alike F R (pure a) (pure b) :=
  fun _ _ hst _ _ => ⟨h, hst⟩

theorem bind {x : Running α} {y : Running β} {f : α → Running γ} {g : β → Running δ}
    {S : γ → δ → Prop} (hx : Alike F R x y) (hf : ∀ a b, R a b → Alike F S (f a) (g b)) :
    Alike F S (x >>= f) (y >>= g) :=
  fun s t hst log log' =>
    hf _ _ (hx s t hst log log').1 _ _ (hx s t hst log log').2 _ _

theorem imp {x : Running α} {y : Running β} {S : α → β → Prop} (hx : Alike F R x y)
    (h : ∀ a b, R a b → S a b) : Alike F S x y :=
  fun s t hst log log' => ⟨h _ _ (hx s t hst log log').1, (hx s t hst log log').2⟩

theorem lift {x : LogM α} {y : LogM β} (h : ∀ log log', R (x.run log).1 (y.run log').1) :
    Alike F R (liftM x : Running α) (liftM y) := fun _ _ hst log log' => ⟨h log log', hst⟩

theorem get : Alike F (AgreeOn F) get get := fun _ _ hst _ _ => ⟨hst, hst⟩

theorem load (u : SourceUnit) :
    Alike F (fun _ _ => True) (modify (·.load u) : Running Unit) (modify (·.load u)) :=
  fun _ _ hst _ _ => ⟨trivial, fun file hfile => (hst file hfile).load u⟩

end Alike

/-- A computation leaves what is said about some files. -/
def Leaves (F : String → Prop) (x : Running α) : Prop :=
  ∀ s log, AgreeOn F s ((x.run s).run log).1.2

namespace Leaves

variable {F : String → Prop}

theorem pure (a : α) : Leaves F (pure a) := fun s _ file _ => .refl s file

theorem bind {x : Running α} {f : α → Running β} {p : α → Prop} (hp : Yields x p)
    (hx : Leaves F x) (hf : ∀ a, p a → Leaves F (f a)) : Leaves F (x >>= f) :=
  fun s log file hfile => (hx s log file hfile).trans (hf _ (hp s log) _ _ file hfile)

theorem lift (x : LogM α) : Leaves F (liftM x : Running α) := fun s _ file _ => .refl s file

theorem get : Leaves F get := fun s _ file _ => .refl s file

theorem load {u : SourceUnit} (hu : ¬ F u.path) : Leaves F (modify (·.load u) : Running Unit) :=
  fun s _ _ hfile => Suppressions.agree_load (fun hpath => hu (hpath ▸ hfile)) s

end Leaves

/-! ## Checking a unit -/

namespace Runner

variable {r : Runner} {timed : String → Prop} {F : String → Prop}

theorem buildLogged_steady (u : SourceUnit) (parent : Hierarchy) (log log' : Log) :
    ((Index.buildLogged u parent).run log).1 = ((Index.buildLogged u parent).run log').1 := by
  rw [buildLogged_eq, buildLogged_eq]

/-- What checking comes to: tidy results, unless there is no index for some unit. -/
structure Ends (timed : String → Prop) (indexed : Prop) (out : Except Abort Results) : Prop where
  tidy : ∀ results, out = .ok results → results.Tidy timed
  ok : indexed → ∃ results, out = .ok results

theorem Ends.imp {p q : Prop} {out : Except Abort Results} (h : Ends timed p out) (hpq : q → p) :
    Ends timed q out := ⟨h.tidy, fun hq => h.ok (hpq hq)⟩

/-- What a unit comes to depends on what is suppressed in its file only. -/
theorem run_alike (hr : ∀ c ∈ r.registry.values, c.Local timed) {u : SourceUnit} (hu : F u.path)
    (chosen : Option (List String)) :
    Alike F (fun out out' => out = out' ∧ Ends timed ((Index.build u r.hierarchy).isOk) out)
      (r.run u chosen) (r.run u chosen) := by
  unfold Runner.run
  refine Alike.bind (Alike.load u) fun _ _ _ => ?_
  refine Alike.bind Alike.get fun s t hst => ?_
  have hbuild : Alike F (fun built built' => built = built' ∧ built = Index.build u r.hierarchy)
      (liftM (Index.buildLogged u r.hierarchy)) (liftM (Index.buildLogged u r.hierarchy)) :=
    Alike.lift fun log log' => ⟨buildLogged_steady u r.hierarchy log log', buildLogged_eq u _ log⟩
  refine Alike.bind hbuild ?_
  rintro built _ ⟨rfl, hindex⟩
  rw [← hindex]
  cases built with
  | error e => exact Alike.pure ⟨rfl, by rintro results ⟨⟩, by rintro ⟨⟩⟩
  | ok x =>
    refine Alike.bind (Alike.lift (R := fun _ _ => True) fun _ _ => trivial) fun _ _ _ => ?_
    have hcs : ∀ c ∈ (r.registry.select chosen).1, c.Local timed :=
      fun c hc => hr c (Registry.mem_values_of_mem_select hc)
    let work s := runCheckers ⟨u, x.oracle⟩ s (r.registry.select chosen).1 { files := [u.path] } {}
    have hagree : work t = work s := (runCheckers_eq_of_agree hcs (hst u.path hu) _ _).symm
    have hempty : Results.Tidy timed { files := [u.path] } :=
      ⟨List.nodup_nil, List.nodup_nil, Table.Each.empty⟩
    have hwork : Alike F (fun out out' => out = out' ∧ out.1.Tidy timed ∧ out.2.AtRest timed)
        (liftM (freshly (work s))) (liftM (freshly (work t))) := by
      rw [hagree]
      exact Alike.lift fun log log' => ⟨(quiet_runCheckers hcs u x s _ _ log log' {}).1,
        tidy_runCheckers hcs ⟨u, x.oracle⟩ s hempty Table.Each.empty log {}⟩
    refine Alike.bind hwork ?_
    rintro ⟨results, stats⟩ _ ⟨rfl, htidy, hrest⟩
    refine Alike.pure ⟨rfl, ?_, fun _ => ⟨_, rfl⟩⟩
    rintro _ ⟨⟩
    refine ⟨htidy.byChecker, Table.nodup_keys_insertAll htidy.stats _, ?_⟩
    exact Table.Each.insertAll htidy.rest fun e he => hrest e (List.mem_filter.1 he).1

theorem run_leaves {u : SourceUnit} (hu : ¬ F u.path) (chosen : Option (List String)) :
    Leaves F (r.run u chosen) := by
  unfold Runner.run
  refine Leaves.bind (Yields.trivial _) (Leaves.load hu) fun _ _ => ?_
  refine Leaves.bind (Yields.trivial _) Leaves.get fun s _ => ?_
  refine Leaves.bind (Yields.trivial _) (Leaves.lift _) fun built _ => ?_
  cases built with
  | error e => exact Leaves.pure _
  | ok x =>
    refine Leaves.bind (Yields.trivial _) (Leaves.lift _) fun _ _ => ?_
    exact Leaves.bind (Yields.trivial _) (Leaves.lift _) fun _ _ => Leaves.pure _

end Runner

/-! ## Reading a file -/

theorem SourceUnit.parse_steady (parser : Parser) (source : Bytes) (path : String) (strict : Bool)
    (log log' : Log) : ((parse parser source path strict).run log).1 =
      ((parse parser source path strict).run log').1 := by
  unfold parse
  dsimp only
  split
  · rfl
  · split <;> rfl

namespace FileSystem

variable {fs : FileSystem} {parser : Parser} {file : String} {strict : Bool}

theorem readUnit_steady (log log' : Log) :
    ((fs.readUnit parser file strict).run log).1 =
      ((fs.readUnit parser file strict).run log').1 := by
  rw [run_readUnit, run_readUnit]
  congr 1
  funext data
  rw [SourceUnit.parse_steady parser data file strict log log']

/-- What cannot be read is an error of the input, unless the path holds the character zero. -/
theorem exists_of_readUnit_error (hzero : '\x00' ∉ file.toList) {log : Log} {e : Abort}
    (h : ((fs.readUnit parser file strict).run log).1 = .error e) : ∃ le, e = .lint le := by
  rw [run_readUnit] at h
  cases hsource : fs.readSource (Path.ofText file) with
  | error e' =>
    rw [hsource] at h
    obtain rfl : e' = e := Except.error.inj h
    unfold readSource at hsource
    split at hsource
    · exact ⟨_, (Except.error.inj hsource).symm⟩
    · rename_i e'' hnot hread
      obtain ⟨refusal, rfl⟩ := exists_of_read_error hzero hread
      exact absurd rfl (hnot refusal)
    · split at hsource
      · cases hsource
      · exact ⟨_, (Except.error.inj hsource).symm⟩
  | ok data =>
    rw [hsource] at h
    change Except.mapError Abort.lint _ = _ at h
    cases hparse : ((SourceUnit.parse parser data file strict).run log).1 with
    | error le =>
      rw [hparse] at h
      exact ⟨le, (Except.error.inj h).symm⟩
    | ok u =>
      rw [hparse] at h
      cases h

end FileSystem

/-! ## Files one after another -/

/-- A map of results that lets through what is joined behind. -/
structure Results.Carries (timed : String → Prop) (φ : Results → Results) : Prop where
  tidy : ∀ {a}, a.Tidy timed → (φ a).Tidy timed
  join : ∀ {a b}, a.Tidy timed → b.Tidy timed → φ (a.join b) = (φ a).join b

namespace Results

variable {timed : String → Prop}

theorem Carries.id : Carries timed fun a => a where
  tidy h := h
  join _ _ := rfl

theorem Tidy.carries {a : Results} (ha : a.Tidy timed) : Carries timed a.join where
  tidy hb := ha.join hb
  join hb hc := (join_assoc ha hb hc).symm

/-- The results for a file that could not be read. -/
def refused (file : String) (e : LintError) : Results := { failures := [(file, e)] }

theorem join_refused (a : Results) (file : String) (e : LintError) :
    a.join (refused file e) = { a with failures := a.failures ++ [(file, e)] } := by
  show { a with
    diagnostics := a.diagnostics ++ []
    files := a.files ++ []
    failures := a.failures ++ [(file, e)] } = _
  rw [List.append_nil, List.append_nil]

theorem tidy_refused (file : String) (e : LintError) : (refused file e).Tidy timed :=
  ⟨List.nodup_nil, List.nodup_nil, Table.Each.empty⟩

end Results

/-- The index of a file can be built, unless the file cannot be read. -/
structure Runner.Indexes (r : Runner) (parser : Parser) (fs : FileSystem) (file : String) :
    Prop where
  named : '\x00' ∉ file.toList
  built : ∀ u log, ((fs.readUnit parser file r.strict).run log).1 = .ok u →
    (Index.build u r.hierarchy).isOk

namespace Runner

variable {r : Runner} {timed : String → Prop} {F : String → Prop} {parser : Parser}
  {fs : FileSystem} {chosen : Option (List String)}

/-- A run over files of which the suppressions say the same, continuing results that are carried
along, finds the same. -/
theorem runFilesFrom_alike (hr : ∀ c ∈ r.registry.values, c.Local timed) {files : List String}
    (hfiles : ∀ file ∈ files, F file) {φ : Results → Results} (hφ : Results.Carries timed φ)
    {done : Results} (hdone : done.Tidy timed) :
    Alike F (fun out out' => out' = out.map φ ∧
        Ends timed (∀ file ∈ files, r.Indexes parser fs file) out)
      (r.runFilesFrom parser fs chosen files done)
      (r.runFilesFrom parser fs chosen files (φ done)) := by
  induction files generalizing done with
  | nil =>
    refine Alike.pure ⟨rfl, ?_, fun _ => ⟨done, rfl⟩⟩
    rintro _ ⟨⟩
    exact hdone
  | cons file files ih =>
    obtain ⟨hfile, hrest⟩ := List.forall_mem_cons.1 hfiles
    rw [runFilesFrom, runFilesFrom]
    have hread : Alike F (fun out out' => out = out' ∧
        ∃ log, ((fs.readUnit parser file r.strict).run log).1 = out)
        (liftM (fs.readUnit parser file r.strict)) (liftM (fs.readUnit parser file r.strict)) :=
      Alike.lift fun log log' => ⟨FileSystem.readUnit_steady log log', log, rfl⟩
    refine Alike.bind hread ?_
    rintro read _ ⟨rfl, log, hread⟩
    cases read with
    | error e =>
      cases e with
      | lint e =>
        refine Alike.bind (Alike.lift (R := fun _ _ => True) fun _ _ => trivial) fun _ _ _ => ?_
        have htidy : (Results.refused file e).Tidy timed := Results.tidy_refused file e
        rw [← Results.join_refused, ← Results.join_refused, ← hφ.join hdone htidy]
        exact (ih hrest (hdone.join htidy)).imp fun _ _ h =>
          ⟨h.1, h.2.imp fun hall => (List.forall_mem_cons.1 hall).2⟩
      | _ =>
        refine Alike.pure ⟨rfl, ⟨by rintro results ⟨⟩, fun hall => ?_⟩⟩
        obtain ⟨le, hle⟩ :=
          FileSystem.exists_of_readUnit_error (hall file List.mem_cons_self).named hread
        cases hle
    | ok u =>
      obtain rfl : u.path = file := FileSystem.path_of_readUnit hread
      refine Alike.bind (run_alike hr hfile chosen) ?_
      rintro out _ ⟨rfl, hends⟩
      cases out with
      | error e =>
        refine Alike.pure ⟨rfl, ⟨by rintro results ⟨⟩, fun hall => ?_⟩⟩
        obtain ⟨results, hresults⟩ := hends.ok ((hall _ List.mem_cons_self).built u log hread)
        cases hresults
      | ok results =>
        have htidy := hends.tidy results rfl
        dsimp only
        rw [Results.merge_eq_join hdone htidy, Results.merge_eq_join (hφ.tidy hdone) htidy,
          ← hφ.join hdone htidy]
        refine Alike.bind (Alike.lift (R := fun _ _ => True) fun _ _ => trivial) fun _ _ _ => ?_
        exact (ih hrest (hdone.join htidy)).imp fun _ _ h =>
          ⟨h.1, h.2.imp fun hall => (List.forall_mem_cons.1 hall).2⟩

/-- A run leaves what is suppressed in files of other names. -/
theorem runFilesFrom_leaves {files : List String} (hfiles : ∀ file ∈ files, ¬ F file)
    (done : Results) : Leaves F (r.runFilesFrom parser fs chosen files done) := by
  induction files generalizing done with
  | nil => exact Leaves.pure _
  | cons file files ih =>
    obtain ⟨hfile, hfiles⟩ := List.forall_mem_cons.1 hfiles
    rw [runFilesFrom]
    have hread : Yields (liftM (fs.readUnit parser file r.strict) : Running _) fun out =>
        ∀ u, out = .ok u → u.path = file := fun s log u hu => FileSystem.path_of_readUnit hu
    refine Leaves.bind hread (Leaves.lift _) fun read hpath => ?_
    split
    · exact Leaves.bind (Yields.trivial _) (Leaves.lift _) fun _ _ => ih hfiles _
    · exact Leaves.pure _
    · rename_i u
      have hu : ¬ F u.path := hpath u rfl ▸ hfile
      refine Leaves.bind (Yields.trivial _) (run_leaves hu chosen) fun out _ => ?_
      split
      · exact Leaves.pure _
      · split
        · exact Leaves.pure _
        · exact Leaves.bind (Yields.trivial _) (Leaves.lift _) fun _ _ => ih hfiles _

/-- A run over two lists of files goes on with the second where it ends with the first. -/
theorem runFilesFrom_append (P Q : List String) (done : Results) :
    r.runFilesFrom parser fs chosen (P ++ Q) done =
      r.runFilesFrom parser fs chosen P done >>= fun
        | .ok done => r.runFilesFrom parser fs chosen Q done
        | .error e => pure (.error e) := by
  induction P generalizing done with
  | nil => rfl
  | cons file P ih =>
    rw [List.cons_append, runFilesFrom, runFilesFrom, bind_assoc]
    congr 1
    funext read
    rcases read with e | u
    · cases e with
      | lint e =>
        dsimp only
        rw [bind_assoc]
        congr 1
        funext _
        exact ih _
      | _ => rfl
    · dsimp only
      rw [bind_assoc]
      congr 1
      funext out
      rcases out with e | results
      · rfl
      · dsimp only
        rcases done.merge results with ⟨both, _ | e⟩
        · dsimp only
          rw [bind_assoc]
          congr 1
          funext _
          exact ih _
        · rfl

end Runner

/-! ## Two lists of files -/

/-- Two results merged, or what goes wrong. -/
def Results.merged (a b : Results) : Except Abort Results :=
  match a.merge b with
  | (both, none) => .ok both
  | (_, some e) => .error (.stats e)

namespace Runner

/-- What a run over files comes to, with some suppressions known at its start. -/
def outcome (r : Runner) (parser : Parser) (fs : FileSystem) (chosen : Option (List String))
    (s : Suppressions) (files : List String) (log : Log) : Except Abort Results :=
  (((r.runFiles parser fs files chosen).run s).run log).1.1

variable {r : Runner} {timed : String → Prop} {parser : Parser} {fs : FileSystem}
  {chosen : Option (List String)} {s : Suppressions} {P Q : List String} {log log' : Log}

theorem outcome_append_eq_bind :
    r.outcome parser fs chosen s (P ++ Q) log =
      (r.outcome parser fs chosen s P log).bind fun a =>
        (((r.runFilesFrom parser fs chosen Q a).run
          (((r.runFilesFrom parser fs chosen P {}).run s).run log).1.2).run
          (((r.runFilesFrom parser fs chosen P {}).run s).run log).2).1.1 := by
  unfold outcome runFiles
  rw [runFilesFrom_append]
  show (StateT.run (match (((r.runFilesFrom parser fs chosen P {}).run s).run log).1.1 with
    | .ok done => r.runFilesFrom parser fs chosen Q done
    | .error e => pure (.error e)) _ _).1.1 = _
  cases (((r.runFilesFrom parser fs chosen P {}).run s).run log).1.1 <;> rfl

section

variable (hr : ∀ c ∈ r.registry.values, c.Local timed)

include hr

theorem runFiles_alike (files : List String) :
    Alike (fun _ => True) (fun out out' => out' = out ∧
        Ends timed (∀ file ∈ files, r.Indexes parser fs file) out)
      (r.runFiles parser fs files chosen) (r.runFiles parser fs files chosen) :=
  (runFilesFrom_alike hr (fun _ _ => trivial) Results.Carries.id Results.Tidy.empty).imp
    fun out _ ⟨hsame, hends⟩ => ⟨hsame.trans (congrFun Except.map_id out), hends⟩

theorem outcome_ends (files : List String) (log : Log) :
    Ends timed (∀ file ∈ files, r.Indexes parser fs file)
      (r.outcome parser fs chosen s files log) :=
  (runFiles_alike hr files s s (fun file _ => .refl s file) log log).1.2

/-- What was noted before a run does not matter. -/
theorem outcome_steady (files : List String) (log log' : Log) :
    r.outcome parser fs chosen s files log = r.outcome parser fs chosen s files log' :=
  (runFiles_alike hr files s s (fun file _ => .refl s file) log' log).1.1

/-- A run that goes on with files of other names joins what a run over these alone finds. -/
theorem outcome_append (hapart : ∀ file ∈ P, file ∉ Q) {a : Results}
    (h : r.outcome parser fs chosen s P log = .ok a) (log' : Log) :
    r.outcome parser fs chosen s (P ++ Q) log =
      (r.outcome parser fs chosen s Q log').map a.join := by
  have hcarries : Results.Carries timed a.join := ((outcome_ends hr P log).tidy a h).carries
  have hagree : AgreeOn (· ∈ Q) s
      (((r.runFilesFrom parser fs chosen P {}).run s).run log).1.2 :=
    runFilesFrom_leaves hapart {} s log
  have halike : Alike (· ∈ Q) (fun out out' => out' = out.map a.join ∧
        Ends timed (∀ file ∈ Q, r.Indexes parser fs file) out)
      (r.runFilesFrom parser fs chosen Q {}) (r.runFilesFrom parser fs chosen Q (a.join {})) :=
    runFilesFrom_alike hr (fun _ h => h) hcarries Results.Tidy.empty
  rw [Results.join_empty] at halike
  rw [outcome_append_eq_bind, h]
  exact (halike _ _ hagree log' _).1.1

/-- All that a run finds lies in one of its files. -/
theorem file_mem_of_outcome {files : List String} {results : Results}
    (h : r.outcome parser fs chosen s files log = .ok results) :
    ∀ d ∈ results.diagnostics, d.location.file ∈ files := by
  intro d hd
  obtain ⟨file, hfile, rfl⟩ := runFiles_tells (fun c hc => (hr c hc).tells) files h d hd
  exact hfile

end

/-- A run over two lists of files without a common path comes to what two runs come to, each on its
own, with the second merged into the first, whatever is suppressed to begin with. If the files have
indexes, unless they cannot be read, all three runs complete, the results are merged, and what is
found in a file is what the run over its list finds there. -/
theorem runFiles_append (r : Runner) (hr : r.registry.Local) (parser : Parser) (fs : FileSystem)
    (chosen : Option (List String)) (s : Suppressions) (P Q : List String)
    (hapart : ∀ file ∈ P, file ∉ Q) :
    let out := r.outcome parser fs chosen s
    (∀ log log₁ log₂, out (P ++ Q) log = do
      let a ← out P log₁
      let b ← out Q log₂
      a.merged b) ∧
    ((∀ file ∈ P ++ Q, r.Indexes parser fs file) → ∃ a b both,
      (∀ log, out P log = .ok a) ∧ (∀ log, out Q log = .ok b) ∧
      (∀ log, out (P ++ Q) log = .ok both) ∧ a.merge b = (both, none) ∧
      (∀ file ∈ P, both.inFile file = a.inFile file) ∧
      (∀ file ∈ Q, both.inFile file = b.inFile file)) := by
  intro out
  obtain ⟨timed, hr⟩ := hr
  refine ⟨fun log log₁ log₂ => ?_, fun hall => ?_⟩
  · show _ = (out P log₁).bind fun a => (out Q log₂).bind a.merged
    rw [show out P log₁ = out P log from outcome_steady hr P log₁ log]
    cases ha : out P log with
    | error e =>
      rw [show out (P ++ Q) log = _ from outcome_append_eq_bind,
        show r.outcome parser fs chosen s P log = .error e from ha]
      rfl
    | ok a =>
      rw [show out (P ++ Q) log = (out Q log₂).map a.join from outcome_append hr hapart ha log₂]
      cases hb : out Q log₂ with
      | error e => rfl
      | ok b =>
        have hmerge := Results.merge_eq_join ((outcome_ends hr P log).tidy a ha)
          ((outcome_ends hr Q log₂).tidy b hb)
        show Except.ok (a.join b) = a.merged b
        rw [Results.merged, hmerge]
  · obtain ⟨hP, hQ⟩ := List.forall_mem_append.1 hall
    obtain ⟨a, ha⟩ : ∃ a, out P [] = .ok a := (outcome_ends hr P []).ok hP
    obtain ⟨b, hb⟩ : ∃ b, out Q [] = .ok b := (outcome_ends hr Q []).ok hQ
    refine ⟨a, b, a.join b, fun log => (outcome_steady hr P log []).trans ha,
      fun log => (outcome_steady hr Q log []).trans hb, fun log => ?_, ?_, ?_, ?_⟩
    · have ha : out P log = .ok a := (outcome_steady hr P log []).trans ha
      rw [show out (P ++ Q) log = (out Q []).map a.join from outcome_append hr hapart ha []]
      rw [show out Q [] = .ok b from hb]
      rfl
    · exact Results.merge_eq_join ((outcome_ends hr P []).tidy a ha)
        ((outcome_ends hr Q []).tidy b hb)
    · intro file hfile
      have hnone : b.inFile file = [] := by
        refine List.filter_eq_nil_iff.2 fun d hd heq => hapart file hfile ?_
        rw [← of_decide_eq_true heq]
        exact file_mem_of_outcome hr hb d hd
      show (a.diagnostics ++ b.diagnostics).filter _ = _
      rw [List.filter_append]
      exact (congrArg _ hnone).trans (List.append_nil _)
    · intro file hfile
      have hnone : a.inFile file = [] := by
        refine List.filter_eq_nil_iff.2 fun d hd heq => hapart file ?_ hfile
        rw [← of_decide_eq_true heq]
        exact file_mem_of_outcome hr ha d hd
      show (a.diagnostics ++ b.diagnostics).filter _ = _
      rw [List.filter_append]
      exact congrArg (· ++ _) hnone

/-- Whether a file has an index can be told by reading it once. -/
theorem Indexes.of_read {r : Runner} {file : String} (hzero : '\x00' ∉ file.toList)
    (h : ((fs.readUnit parser file r.strict).run []).1.toOption.all
      fun u => (Index.build u r.hierarchy).isOk) : r.Indexes parser fs file where
  named := hzero
  built u log hread := by
    rw [FileSystem.readUnit_steady log []] at hread
    rw [hread] at h
    exact h

/-- The method that loses a cause, under a comment that hushes it. -/
def hushedCause : Bytes := Command.lostCause ++ Utf8.ofText " // flogger-lint-suppress"

/-- The tree of a text that is the method, or the method with the comment. -/
def hushingParser : Parser := fun source =>
  if source = Command.lostCause then Command.lostCauseTree
  else .node { kind := "program", start := 0, stop := 98 } (Command.lostCauseTree.children ++
    [.node { kind := "line_comment", start := 74, stop := 98 } []])

/-- A folder with the hushed method in one file and the method in another. -/
def hushingFolder : FileSystem :=
  { files := ⟨[(["A.java"], hushedCause), (["B.java"], Command.lostCause)]⟩ }

/-- The comment of one file does not hush what is found in the other. -/
theorem runFiles_append_hushed :
    let out := ({} : Runner).outcome hushingParser hushingFolder none {}
    Registry.standard.Local ∧
    (∀ file ∈ ["A.java", "B.java"], ({} : Runner).Indexes hushingParser hushingFolder file) ∧
    ∃ a b both, out ["A.java"] [] = .ok a ∧ out ["B.java"] [] = .ok b ∧
      out ["A.java", "B.java"] [] = .ok both ∧ a.merge b = (both, none) ∧
      a.total = 0 ∧ (both.inFile "B.java").length = 1 := by
  intro out
  have hindexes : ∀ file ∈ ["A.java", "B.java"],
      ({} : Runner).Indexes hushingParser hushingFolder file := by
    refine List.forall_mem_cons.2 ⟨.of_read (by decide) (by decide +kernel), ?_⟩
    exact List.forall_mem_singleton.2 (.of_read (by decide) (by decide +kernel))
  have hapart : ∀ file ∈ ["A.java"], file ∉ ["B.java"] := by decide
  obtain ⟨a, b, both, ha, hb, hboth, hmerge, -, hB⟩ :=
    (runFiles_append {} Registry.local_standard hushingParser hushingFolder none {} ["A.java"]
      ["B.java"] hapart).2 hindexes
  have hquiet : (out ["A.java"] []).toOption.map (·.total) = some 0 := by decide +kernel
  have hloud : (out ["B.java"] []).toOption.map (fun b => (b.inFile "B.java").length) = some 1 := by
    decide +kernel
  rw [show out ["A.java"] [] = .ok a from ha []] at hquiet
  rw [show out ["B.java"] [] = .ok b from hb []] at hloud
  refine ⟨Registry.local_standard, hindexes, a, b, both, ha [], hb [], hboth [], hmerge,
    Option.some.inj hquiet, ?_⟩
  rw [hB "B.java" (List.mem_singleton_self _)]
  exact Option.some.inj hloud

end Runner

end CauseLint
