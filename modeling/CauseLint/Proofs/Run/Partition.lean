import CauseLint.Proofs.Run.Apart
import CauseLint.Proofs.Run.Reporting
import CauseLint.Proofs.Run.Turns

/-!
# Findings by checker

The results of a run hold the findings twice: all of them in one list, and for each checker a list of
its own. In a unit each turn of a checker replaces its list, while the results of units are joined.
So a checker that is asked for twice loses what it found at earlier turns, and only then do the two
collections differ.

Results:

* `Results.Records.merge`: merging results keeps what they record;
* `Results.Records.partition_tfae`: the lists of the checkers add up to all findings iff no checker
  says anything at a turn before its last one;
* `Runner.findings_partitioned_iff`: this for runs over units and over files.
-/

namespace CauseLint

/-! ## Results -/

namespace Results

/-- The findings stored for a checker. -/
def storedFor (r : Results) (name : String) : List Diagnostic := (r.byChecker.get? name).getD []

/-- Results that hold what is said in some rounds of turns, one for each unit: all of it in one list,
and for each checker what it says at its last turn in each round. -/
structure Records (r : Results) (rounds : List (List Turn)) : Prop where
  found : r.diagnostics = rounds.flatten.flatMap (·.2)
  keys : r.byChecker.keys = addKeys [] (rounds.flatten.map (·.1))
  stored : ∀ name, r.storedFor name = rounds.flatMap (lastSaidBy name)

variable {a b r : Results} {rounds rounds' : List (List Turn)}

/-- What is recorded of one round when each turn replaces what is stored for its checker. -/
theorem Records.of_insertAll {turns : List Turn} (found : r.diagnostics = turns.flatMap (·.2))
    (stored : r.byChecker = Table.insertAll {} turns) : r.Records [turns] where
  found := by rw [found, List.flatten_singleton]
  keys := by
    rw [stored, Table.keys_insertAll, List.flatten_singleton]
    rfl
  stored name := by
    rw [storedFor, stored, Table.get?_insertAll, List.flatMap_singleton, lastSaidBy]
    cases turns.reverse.lookup name <;> rfl

theorem Records.empty : Records {} [] := ⟨rfl, rfl, fun _ => rfl⟩

theorem Records.nodup (h : r.Records rounds) : r.byChecker.keys.Nodup := by
  rw [h.keys]
  exact nodup_addKeys List.nodup_nil

theorem Records.mem_keys_iff (h : r.Records rounds) {name : String} :
    name ∈ r.byChecker.keys ↔ name ∈ rounds.flatten.map (·.1) := by
  rw [h.keys, mem_addKeys]
  exact or_iff_right List.not_mem_nil

/-- Merging results keeps what they record. -/
theorem Records.merge (ha : a.Records rounds) (hb : b.Records rounds') :
    (a.merge b).1.Records (rounds ++ rounds') where
  found := by
    rw [diagnostics_merge, ha.found, hb.found, List.flatten_append, List.flatMap_append]
  keys := by
    rw [byChecker_merge, Table.keys_mergeWith, ha.keys, hb.keys, ← addKeys_assoc,
      List.flatten_append, List.map_append, addKeys_append]
    rfl
  stored name := by
    have merged : (a.merge b).1.storedFor name = a.storedFor name ++ b.storedFor name := by
      rw [storedFor, byChecker_merge, Table.get?_mergeWith hb.nodup, storedFor, storedFor]
      cases a.byChecker.get? name <;> cases b.byChecker.get? name <;> simp [Option.merge]
    rw [merged, ha.stored, hb.stored, List.flatMap_append]

theorem files_checkers_of_merge {both : Results} (merged : a.merge b = (both, none)) :
    both.files = a.files ++ b.files ∧ both.checkers = addNames a.checkers b.checkers := by
  unfold merge at merged
  dsimp only at merged
  split at merged
  case h_1 => cases merged
  case h_2 =>
    obtain ⟨rfl, -⟩ := Prod.mk.inj merged
    exact ⟨rfl, rfl⟩

/-- The lists of the checkers, counted by their names. -/
theorem sum_values (apart : r.byChecker.keys.Nodup) :
    (r.byChecker.values.map (·.length)).sum =
      (r.byChecker.keys.map fun name => (r.storedFor name).length).sum := by
  rw [Table.values, Table.keys, List.map_map, List.map_map]
  refine congrArg List.sum (List.map_congr_left fun e mem => ?_)
  have found : r.byChecker.get? e.1 = some e.2 := Table.get?_of_mem_entries apart mem
  simp [storedFor, found]

/-- The lists of the checkers add up to all findings iff each holds all that its checker says, and
that is so iff no checker says anything at a turn before its last one in a round. -/
theorem Records.partition_tfae (h : r.Records rounds) :
    [r.total = (r.byChecker.values.map (·.length)).sum,
      ∀ name, r.storedFor name = saidBy name rounds.flatten,
      ∀ round ∈ rounds, Settled round].TFAE := by
  have stored : ∀ name, r.storedFor name = saidBy name rounds.flatten ↔
      ∀ round ∈ rounds, lastSaidBy name round = saidBy name round := by
    intro name
    rw [h.stored, saidBy_flatten]
    exact flatMap_lastSaidBy_tfae.out 0 2
  have short : ∀ name, (r.storedFor name).length ≤ (saidBy name rounds.flatten).length := by
    intro name
    rw [h.stored, saidBy_flatten]
    exact length_flatMap_lastSaidBy_le name rounds
  have covered : ∀ t ∈ rounds.flatten, t.1 ∈ r.byChecker.keys :=
    fun t mem => h.mem_keys_iff.mpr (List.mem_map_of_mem mem)
  have all : r.total =
      (r.byChecker.keys.map fun name => (saidBy name rounds.flatten).length).sum := by
    rw [sum_saidBy h.nodup covered, total, h.found]
  tfae_have 2 → 1 := by
    intro same
    rw [all, sum_values h.nodup]
    simp only [same]
  tfae_have 1 → 2 := by
    intro same name
    -- No list is too long, so a sum that is right leaves none that is too short.
    rw [h.stored, saidBy_flatten]
    refine (flatMap_lastSaidBy_tfae.out 0 1).mpr ?_
    rw [← h.stored, ← saidBy_flatten]
    rw [all, sum_values h.nodup] at same
    by_cases listed : name ∈ r.byChecker.keys
    · by_contra other
      exact absurd same.symm (List.sum_lt_sum _ _ (fun n _ => short n)
        ⟨name, listed, Nat.lt_of_le_of_ne (short name) other⟩).ne
    · have silent : saidBy name rounds.flatten = [] := saidBy_of_notMem (mt h.mem_keys_iff.mpr listed)
      have few := short name
      rw [silent] at few ⊢
      exact Nat.le_zero.mp few
  tfae_have 2 ↔ 3 := by
    simp only [stored, settled_iff]
    exact ⟨fun all round mem name => all name round mem, fun all name round mem => all round mem name⟩
  tfae_finish

/-! ### Summaries -/

/-- The counts of a summary, one for each checker that it lists. -/
def counts (r : Results) : List (String × Nat) :=
  r.checkers.map fun name => (name, (r.storedFor name).length)

/-- The line of a summary for a checker, with a count and a time. -/
def countLine (entry : String × Nat) (time : String) : String :=
  s!"  {entry.1}: {entry.2} findings ({time}ms)"

/-- The text of a summary with a total, and with a count and a time for each checker. -/
def summaryText (r : Results) (total : Nat) (counts : List (String × Nat)) (times : List String) :
    String :=
  let head := s!"Checker run complete: {r.files.length} file(s), {total} diagnostics " ++
    s!"({r.countOf .error} errors, {r.countOf .warning} warnings)"
  let failed := r.failures.map fun (path, e) => s!"  failed: {path}: {e.text}"
  "\n".intercalate (head :: counts.zipWith countLine times ++ failed)

theorem sum_counts (r : Results) : (r.counts.map (·.2)).sum =
    (r.checkers.map fun name => (r.storedFor name).length).sum := by
  rw [counts, List.map_map]
  rfl

theorem mapM_checkerLine {names lines : List String} (h : names.mapM r.checkerLine = .ok lines) :
    ∃ times, lines = (names.map fun name => (name, (r.storedFor name).length)).zipWith countLine
      times := by
  induction names generalizing lines with
  | nil =>
    obtain rfl := Except.ok.inj h
    exact ⟨[], rfl⟩
  | cons name names ih =>
    rw [List.mapM_cons] at h
    obtain ⟨line, own, h⟩ := exists_of_bind_eq_ok h
    obtain ⟨lines, others, h⟩ := exists_of_bind_eq_ok h
    obtain rfl := Except.ok.inj h
    obtain ⟨time, -, own⟩ := exists_of_bind_eq_ok own
    obtain rfl := Except.ok.inj own
    obtain ⟨times, rfl⟩ := ih others
    exact ⟨time :: times, rfl⟩

/-- A summary shows how many findings there are, and how many are stored for each checker. -/
theorem summary_shows {text : String} (h : r.summary = .ok text) :
    ∃ times, text = r.summaryText r.total r.counts times := by
  obtain ⟨lines, body, h⟩ := exists_of_bind_eq_ok h
  obtain rfl := Except.ok.inj h
  obtain ⟨times, rfl⟩ := mapM_checkerLine body
  exact ⟨times, rfl⟩

end Results

/-! ## Selections -/

namespace Registry

/-- Checkers are registered under their names. -/
theorem each_ofCheckers (cs : List Checker) : (ofCheckers cs).Each fun name c => c.name = name := by
  refine Table.Each.insertAll Table.Each.empty ?_
  intro e mem
  obtain ⟨c, -, rfl⟩ := List.mem_map.mp mem
  rfl

theorem nodup_keys_ofCheckers (cs : List Checker) : (ofCheckers cs).keys.Nodup :=
  Table.nodup_keys_insertAll (t := .empty) List.nodup_nil _

theorem map_name_values_ofCheckers (cs : List Checker) :
    (ofCheckers cs).values.map (·.name) = (ofCheckers cs).keys := by
  rw [Table.values, Table.keys, List.map_map]
  exact List.map_congr_left (each_ofCheckers cs)

/-- The checkers that are selected by name are the known ones, in the order of asking. -/
theorem map_name_select_ofCheckers (cs : List Checker) (asked : List String) :
    ((ofCheckers cs).select (some asked)).1.map (·.name) =
      asked.filter (ofCheckers cs).contains := by
  show (asked.filterMap (ofCheckers cs).get?).map (·.name) = _
  induction asked with
  | nil => rfl
  | cons name asked ih =>
    cases found : (ofCheckers cs).get? name with
    | none =>
      rw [List.filterMap_cons_none found, ih, List.filter_cons_of_neg]
      simp [Table.contains, found]
    | some c =>
      have own : c.name = name := each_ofCheckers cs _ (Table.mem_entries_of_get? found)
      rw [List.filterMap_cons_some found, List.map_cons, ih, own, List.filter_cons_of_pos]
      simp [Table.contains, found]

/-- Where no known name is asked for twice, no two selected checkers share a name. -/
theorem nodup_select_ofCheckers (cs : List Checker) {chosen : Option (List String)}
    (once : ((chosen.getD []).filter (ofCheckers cs).contains).Nodup) :
    (((ofCheckers cs).select chosen).1.map (·.name)).Nodup := by
  cases chosen with
  | none =>
    show ((ofCheckers cs).values.map (·.name)).Nodup
    rw [map_name_values_ofCheckers]
    exact nodup_keys_ofCheckers cs
  | some asked =>
    rw [map_name_select_ofCheckers]
    exact once

end Registry

/-! ## Runs -/

namespace Checker

variable {i : Inspection} {s : Suppressions} {cs : List Checker} {stats : Stats} {log : Log}
  {memo : Memo}

theorem length_turns : (turns i s cs stats log memo).length = cs.length := by
  induction cs generalizing stats log memo with
  | nil => rfl
  | cons c cs ih => rw [turns, List.length_cons, List.length_cons, ih]

/-- Turns with the names of their checkers. -/
def named (i : Inspection) (s : Suppressions) (cs : List Checker) (log : Log) : List Turn :=
  (cs.map (·.name)).zip (turns i s cs {} log {})

theorem map_fst_named : (named i s cs log).map (·.1) = cs.map (·.name) := by
  rw [named, List.map_fst_zip]
  rw [length_turns, List.length_map]

theorem flatMap_snd_named : (named i s cs log).flatMap (·.2) = (turns i s cs {} log {}).flatten := by
  rw [named, List.flatMap_def, List.map_snd_zip]
  rw [length_turns, List.length_map]

/-- The checkers of a unit, in order, and what is stored for them. -/
theorem stored_runCheckers (i : Inspection) (s : Suppressions) (cs : List Checker) (stats : Stats)
    (log : Log) (memo : Memo) (r : Results) :
    (((runCheckers i s cs r stats).run log).run memo).1.1.1.byChecker =
      r.byChecker.insertAll ((cs.map (·.name)).zip (turns i s cs stats log memo)) ∧
    (((runCheckers i s cs r stats).run log).run memo).1.1.1.checkers =
      r.checkers ++ cs.map (·.name) ∧
    (((runCheckers i s cs r stats).run log).run memo).1.1.1.files = r.files := by
  induction cs generalizing r stats log memo with
  | nil => exact ⟨rfl, (List.append_nil _).symm, rfl⟩
  | cons c cs ih =>
    let out := ((c.outcome i s stats).run log).run memo
    obtain ⟨byChecker, checkers, files⟩ := ih out.1.1.2 out.1.2 out.2
      (r.addOutcome c.name out.1.1.1)
    refine ⟨byChecker, checkers.trans ?_, files⟩
    exact List.append_assoc ..

end Checker

namespace Runner

variable {r : Runner} {u : SourceUnit} {chosen : Option (List String)}

/-- What the selected checkers say about a unit, each at its turn. -/
def Round (r : Runner) (chosen : Option (List String)) (u : SourceUnit) (round : List Turn) : Prop :=
  ∃ x s log, Index.build u r.hierarchy = .ok x ∧
    round = Checker.named ⟨u, x.oracle⟩ s (r.registry.select chosen).1 log

theorem Round.names {round : List Turn} (h : r.Round chosen u round) :
    round.map (·.1) = (r.registry.select chosen).1.map (·.name) := by
  obtain ⟨x, s, log, -, rfl⟩ := h
  exact Checker.map_fst_named

/-- What a run over a unit records. -/
structure Recorded (r : Runner) (chosen : Option (List String)) (u : SourceUnit)
    (results : Results) (round : List Turn) : Prop where
  said : r.Round chosen u round
  records : results.Records [round]
  checkers : results.checkers = round.map (·.1)
  files : results.files = [u.path]

/-- The results of a run over a unit record what its checkers say. There are results if the unit has
an index. -/
theorem run_records (r : Runner) (u : SourceUnit) (chosen : Option (List String)) :
    Yields (r.run u chosen) (CauseLint.Ends (Index.build u r.hierarchy).isOk fun results =>
      ∃ round, r.Recorded chosen u results round) := by
  unfold Runner.run
  refine Yields.bind (Yields.trivial _) fun _ _ => ?_
  refine Yields.bind (Yields.trivial _) fun s _ => ?_
  have built : Yields (liftM (Index.buildLogged u r.hierarchy) : Running _)
      (· = Index.build u r.hierarchy) := fun _ log => buildLogged_eq u r.hierarchy log
  refine Yields.bind built ?_
  rintro _ rfl
  cases index : Index.build u r.hierarchy with
  | error e => exact Yields.pure ⟨by rintro results ⟨⟩, by rintro ⟨⟩⟩
  | ok x =>
    dsimp only
    refine Yields.bind (Yields.trivial _) fun _ _ => ?_
    have work : Yields (liftM (freshly (runCheckers ⟨u, x.oracle⟩ s (r.registry.select chosen).1
        { files := [u.path] } {})) : Running _) fun out => ∃ log, out.1 =
        (((runCheckers ⟨u, x.oracle⟩ s (r.registry.select chosen).1 { files := [u.path] } {}).run
          log).run {}).1.1.1 := fun _ log => ⟨log, rfl⟩
    refine Yields.bind work ?_
    rintro ⟨results, stats⟩ ⟨log, rfl⟩
    refine Yields.pure ⟨?_, fun _ => ⟨_, rfl⟩⟩
    rintro _ ⟨⟩
    obtain ⟨stored, checkers, files⟩ := Checker.stored_runCheckers ⟨u, x.oracle⟩ s
      (r.registry.select chosen).1 {} log {} { files := [u.path] }
    refine ⟨Checker.named ⟨u, x.oracle⟩ s (r.registry.select chosen).1 log,
      ⟨x, s, log, index, rfl⟩, .of_insertAll ?_ stored, ?_, files⟩
    · rw [Checker.flatMap_snd_named]
      exact Checker.diagnostics_runCheckers _
    · rw [Checker.map_fst_named]
      exact checkers

/-- The lists of the checkers add up to all findings in a unit iff each holds all that its checker
says. -/
theorem Recorded.partition_tfae {results : Results} {round : List Turn}
    (h : r.Recorded chosen u results round) :
    [results.total = (results.byChecker.values.map (·.length)).sum,
      ∀ name, results.storedFor name = saidBy name round,
      Settled round].TFAE := by
  have shared := h.records.partition_tfae
  rwa [List.flatten_singleton, List.forall_mem_singleton] at shared

/-- The counts of a summary over a unit add up where all checkers have different names. -/
theorem Recorded.sum_counts {results : Results} {round : List Turn}
    (h : r.Recorded chosen u results round) (apart : (round.map (·.1)).Nodup) :
    (results.counts.map (·.2)).sum = results.total := by
  have stored : ∀ name, results.storedFor name = saidBy name round :=
    (h.partition_tfae.out 2 1).mp (Settled.of_nodup apart)
  rw [Results.sum_counts, h.checkers]
  simp only [stored]
  rw [sum_saidBy apart fun t mem => List.mem_map_of_mem mem, Results.total, h.records.found,
    List.flatten_singleton]

/-! ## Runs over files -/

variable {parser : Parser} {fs : FileSystem}

/-- What a run over files records: a round of turns for each file that is checked, over the unit
that the file is read as. -/
structure Filed (r : Runner) (parser : Parser) (fs : FileSystem) (chosen : Option (List String))
    (results : Results) (rounds : List (List Turn)) : Prop where
  said : List.Forall₂ (fun file round => ∃ u log,
    ((fs.readUnit parser file r.strict).run log).1 = .ok u ∧ r.Round chosen u round)
      results.files rounds
  records : results.Records rounds
  checkers : results.checkers = results.byChecker.keys

theorem Filed.empty : r.Filed parser fs chosen {} [] := ⟨.nil, .empty, rfl⟩

/-- A file that is checked adds its round. -/
theorem Filed.merge {done results both : Results} {rounds : List (List Turn)} {round : List Turn}
    (h : r.Filed parser fs chosen done rounds) (more : r.Recorded chosen u results round)
    {log : Log} (read : ((fs.readUnit parser u.path r.strict).run log).1 = .ok u)
    (merged : done.merge results = (both, none)) :
    r.Filed parser fs chosen both (rounds ++ [round]) := by
  have records : (done.merge results).1.Records (rounds ++ [round]) := h.records.merge more.records
  rw [merged] at records
  obtain ⟨files, checkers⟩ := Results.files_checkers_of_merge merged
  refine ⟨?_, records, ?_⟩
  · rw [files, more.files]
    exact List.rel_append h.said (.cons ⟨u, log, read, more.said⟩ .nil)
  · rw [checkers, h.checkers, h.records.keys, more.checkers, records.keys, List.flatten_append,
      List.map_append, addKeys_append, List.flatten_singleton]
    rfl

theorem Filed.exists_of_mem {results : Results} {rounds : List (List Turn)} {round : List Turn}
    (h : r.Filed parser fs chosen results rounds) (mem : round ∈ rounds) :
    ∃ u, r.Round chosen u round := by
  obtain ⟨n, less, rfl⟩ := List.getElem_of_mem mem
  obtain ⟨same, said⟩ := List.forall₂_iff_get.mp h.said
  obtain ⟨u, -, -, own⟩ := said n (same ▸ less) less
  exact ⟨u, own⟩

/-- The lists of the checkers, and the counts of a summary, add up to all findings in some files iff
each list holds all that its checker says. -/
theorem Filed.partition_tfae {results : Results} {rounds : List (List Turn)}
    (h : r.Filed parser fs chosen results rounds) :
    [results.total = (results.byChecker.values.map (·.length)).sum,
      ∀ name, results.storedFor name = saidBy name rounds.flatten,
      (results.counts.map (·.2)).sum = results.total,
      ∀ round ∈ rounds, Settled round].TFAE := by
  have shared := h.records.partition_tfae
  have counted : (results.counts.map (·.2)).sum =
      (results.byChecker.values.map (·.length)).sum := by
    rw [Results.sum_counts, h.checkers, Results.sum_values h.records.nodup]
  tfae_have 1 ↔ 2 := shared.out 0 1
  tfae_have 1 ↔ 4 := shared.out 0 2
  tfae_have 1 ↔ 3 := by rw [counted, eq_comm]
  tfae_finish

/-- The results of a run over files record what the checkers say about the files that are checked. -/
theorem runFilesFrom_records {paths : List String} {done : Results} {rounds : List (List Turn)}
    (h : r.Filed parser fs chosen done rounds) :
    Yields (r.runFilesFrom parser fs chosen paths done) fun out => ∀ results, out = .ok results →
      ∃ rounds, r.Filed parser fs chosen results rounds := by
  induction paths generalizing done rounds with
  | nil =>
    refine Yields.pure ?_
    rintro _ ⟨⟩
    exact ⟨rounds, h⟩
  | cons path paths ih =>
    rw [runFilesFrom]
    refine Yields.bind (Yields.lift (fs.readUnit parser path r.strict)) ?_
    rintro out ⟨log, read⟩
    split
    · -- A file that cannot be read adds to the failures, which no record speaks of.
      rename_i e
      have failed : r.Filed parser fs chosen { done with failures := done.failures ++ [(path, e)] }
          rounds := ⟨h.said, ⟨h.records.found, h.records.keys, h.records.stored⟩, h.checkers⟩
      exact Yields.bind (Yields.trivial _) fun _ _ => ih failed
    · exact Yields.pure (by rintro results ⟨⟩)
    · rename_i u
      obtain rfl : u.path = path := FileSystem.path_of_readUnit read
      refine Yields.bind (run_records r u chosen) ?_
      rintro out ⟨recorded, -⟩
      split
      · exact Yields.pure (by rintro results ⟨⟩)
      · rename_i results
        obtain ⟨round, more⟩ := recorded results rfl
        split
        · exact Yields.pure (by rintro results ⟨⟩)
        · rename_i both merged
          exact Yields.bind (Yields.trivial _) fun _ _ => ih (h.merge more read merged)

/-- A run over files gives results if their units have indexes, and the checkers keep times and
counts. -/
theorem runFilesFrom_ok {timed : String → Prop} (tallies : ∀ c ∈ r.registry.values, c.Tallies timed)
    {paths : List String} (indexed : ∀ path ∈ paths, r.Indexes parser fs path) {done : Results}
    (fit : Stats.Fit timed done.stats) :
    Yields (r.runFilesFrom parser fs chosen paths done) fun out => ∃ results, out = .ok results := by
  induction paths generalizing done with
  | nil => exact Yields.pure ⟨done, rfl⟩
  | cons path paths ih =>
    obtain ⟨first, indexed⟩ := List.forall_mem_cons.mp indexed
    rw [runFilesFrom]
    refine Yields.bind (Yields.lift (fs.readUnit parser path r.strict)) ?_
    rintro (e | u) ⟨log, read⟩
    · obtain ⟨e, rfl⟩ := FileSystem.exists_of_readUnit_error first.named read
      exact Yields.bind (Yields.trivial _) fun _ _ => ih indexed fit
    · have settles : Index.Settles u :=
        (Index.isOk_build_iff u r.hierarchy).mp (first.built u log read)
      refine Yields.bind (run_yields tallies u chosen) ?_
      rintro out ⟨given, -⟩
      obtain ⟨results, rfl, -, -, more⟩ := given settles
      obtain ⟨both, merged, -, -, fit⟩ := Results.merge_of_fit fit more
      dsimp only
      rw [merged]
      exact Yields.bind (Yields.trivial _) fun _ _ => ih indexed fit

/-- The findings of a run over a unit, or over files, are all stored for the checkers that said them
exactly when the lists of the checkers add up to the total, which is when no checker says anything at
a turn before its last one over the same unit. So it is if no known checker is asked for twice: a
later turn replaces what is stored, while all that is said goes into the findings. The counts of a
summary over files add up to its total in the same case. There are results for a unit that has an
index, and for files whose units have, if the checkers keep times and counts. -/
theorem findings_partitioned_iff (cs : List Checker) (hierarchy : Hierarchy) (strict : Bool)
    (chosen : Option (List String)) (s : Suppressions) (log : Log) :
    let registry := Registry.ofCheckers cs
    let r : Runner := { registry, hierarchy, strict }
    let once := ((chosen.getD []).filter registry.contains).Nodup
    (∀ (results : Results) (text : String), results.summary = .ok text →
      ∃ times, text = results.summaryText results.total results.counts times) ∧
    (∀ u, (Index.build u hierarchy).isOk → ∃ results round,
      (((r.run u chosen).run s).run log).1.1 = .ok results ∧
      r.Recorded chosen u results round ∧
      [results.total = (results.byChecker.values.map (·.length)).sum,
        ∀ name, results.storedFor name = saidBy name round,
        Settled round].TFAE ∧
      (once → Settled round ∧ (results.counts.map (·.2)).sum = results.total)) ∧
    ∀ parser fs paths,
      (∀ results, r.outcome parser fs chosen s paths log = .ok results →
        ∃ rounds, r.Filed parser fs chosen results rounds ∧
        [results.total = (results.byChecker.values.map (·.length)).sum,
          ∀ name, results.storedFor name = saidBy name rounds.flatten,
          (results.counts.map (·.2)).sum = results.total,
          ∀ round ∈ rounds, Settled round].TFAE ∧
        (once → ∀ round ∈ rounds, Settled round)) ∧
      (registry.Tallies → (∀ path ∈ paths, r.Indexes parser fs path) →
        ∃ results, r.outcome parser fs chosen s paths log = .ok results) := by
  intro registry r once
  have apart : once → ∀ {u round}, r.Round chosen u round → (round.map (·.1)).Nodup := by
    intro once u round said
    rw [said.names]
    exact Registry.nodup_select_ofCheckers cs once
  refine ⟨fun _ _ => Results.summary_shows, fun u indexed => ?_,
    fun parser fs paths => ⟨fun results out => ?_, ?_⟩⟩
  · obtain ⟨given, done⟩ := run_records r u chosen s log
    obtain ⟨results, out⟩ := done indexed
    obtain ⟨round, recorded⟩ := given results out
    refine ⟨results, round, out, recorded, recorded.partition_tfae, fun once => ?_⟩
    have names : (round.map (·.1)).Nodup := apart once recorded.said
    exact ⟨.of_nodup names, recorded.sum_counts names⟩
  · obtain ⟨rounds, filed⟩ := runFilesFrom_records Filed.empty s log results out
    refine ⟨rounds, filed, filed.partition_tfae, fun once round mem => ?_⟩
    obtain ⟨u, said⟩ := filed.exists_of_mem mem
    exact .of_nodup (apart once said)
  · rintro ⟨timed, tallies⟩ indexed
    exact runFilesFrom_ok tallies indexed Stats.Fit.empty s log

/-- Over a file with a finding, the checker that is asked for twice says it twice and keeps one. A
name that is unknown, and twice so, does no harm. -/
theorem findings_partitioned_iff_twice :
    let asking := fun names => ({} : Runner).outcome hushingParser hushingFolder (some names) {}
      ["B.java"] []
    Registry.standard.Tallies ∧
    (∃ results, asking [causeCheckerName, causeCheckerName] = .ok results ∧ results.total = 2 ∧
      (results.byChecker.values.map (·.length)).sum = 1 ∧
      (results.counts.map (·.2)).sum ≠ results.total) ∧
    ∃ results, asking ["a", causeCheckerName, "a"] = .ok results ∧ results.total = 1 ∧
      results.total = (results.byChecker.values.map (·.length)).sum ∧
      (results.counts.map (·.2)).sum = results.total := by
  intro asking
  have indexed : ∀ path ∈ ["B.java"],
      ({} : Runner).Indexes hushingParser hushingFolder path :=
    List.forall_mem_singleton.mpr (.of_read (by decide) (by decide +kernel))
  have run := fun names =>
    (findings_partitioned_iff [causeChecker] Hierarchy.builtin false (some names) {} []).2.2
      hushingParser hushingFolder ["B.java"]
  obtain ⟨twice, outTwice⟩ : ∃ results, asking [causeCheckerName, causeCheckerName] = .ok results :=
    (run _).2 Registry.tallies_standard indexed
  obtain ⟨single, outSingle⟩ : ∃ results, asking ["a", causeCheckerName, "a"] = .ok results :=
    (run _).2 Registry.tallies_standard indexed
  obtain ⟨known, total⟩ :
      (asking [causeCheckerName, causeCheckerName]).toOption.map (fun results =>
        (results.total, (results.byChecker.values.map (·.length)).sum)) = some (2, 1) ∧
      (asking ["a", causeCheckerName, "a"]).toOption.map (·.total) = some 1 := by
    decide +kernel
  rw [outTwice] at known
  rw [outSingle] at total
  obtain ⟨two, one⟩ := Prod.mk.inj (Option.some.inj known)
  refine ⟨Registry.tallies_standard, ⟨twice, outTwice, two, one, fun counted => ?_⟩,
    single, outSingle, Option.some.inj total, ?_⟩
  · obtain ⟨rounds, -, shared, -⟩ := (run _).1 twice outTwice
    have sum := (shared.out 2 0).mp counted
    rw [two, one] at sum
    cases sum
  · obtain ⟨rounds, -, shared, once⟩ := (run _).1 single outSingle
    have settled := once (by decide)
    exact ⟨(shared.out 3 0).mp settled, (shared.out 3 2).mp settled⟩

end Runner

end CauseLint
