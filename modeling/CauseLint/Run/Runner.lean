import CauseLint.Files.Source
import CauseLint.Hierarchy.Builtin
import CauseLint.Run.Checker
import CauseLint.Suppression

/-!
# Running checkers

A runner takes units, or files one after another, through the checkers of a registry. Suppressions
found in a unit stay known for the units that follow. A checker that fails leaves a note in the
findings, a file that cannot be read is listed as a failure, and the run goes on.
-/

namespace CauseLint

/-- How checkers are run (`CheckerRunner`). -/
structure Runner where
  registry : Registry := Registry.standard
  hierarchy : Hierarchy := Hierarchy.builtin
  /-- Whether damaged sources are failures. -/
  strict : Bool := false

/-- Runs keep suppressions and write a log. -/
abbrev Running := StateT Suppressions LogM

/-- The identifier of the note that a checker failed. -/
def internalErrorId : String := "checkerInternalError"

/-- The note that a checker failed on a file. -/
def internalError (checker message path : String) : Diagnostic :=
  { errorId := internalErrorId
    message := s!"Checker '{checker}' failed: {message}"
    severity := .information
    location := { file := path }
    checker }

/-- What one checker says about a unit, suppressed findings left out. -/
def Checker.outcome (c : Checker) (i : Inspection) (s : Suppressions) (stats : Stats) :
    LogT (StateM Memo) (List Diagnostic × Stats) := do
  let (result, stats) ← (c.inspect i).run.run stats
  match result with
  | .ok ds => return (s.keep ds, stats)
  | .error message =>
    note .error .checking s!"checker {c.name} failed on {i.unit.path}"
    return (s.keep [internalError c.name message i.unit.path], stats)

/-- Take what one checker says into the results of a unit. -/
def Results.addOutcome (r : Results) (checker : String) (ds : List Diagnostic) : Results :=
  { r with
    checkers := r.checkers ++ [checker]
    diagnostics := r.diagnostics ++ ds
    byChecker := r.byChecker.insert checker ds
    stats := r.stats.insert (checker ++ "_elapsed_ms") (.amount (.real 0)) }

/-- Run checkers one after another over a unit. -/
def runCheckers (i : Inspection) (s : Suppressions) :
    List Checker → Results → Stats → LogT (StateM Memo) (Results × Stats)
  | [], r, stats => return (r, stats)
  | c :: rest, r, stats => do
    let (ds, stats) ← c.outcome i s stats
    runCheckers i s rest (r.addOutcome c.name ds) stats

/-- Add the values under names that are not taken. -/
def Stats.fillFrom (stats more : Stats) : Stats :=
  stats.insertAll (more.entries.filter fun (k, _) => !stats.contains k)

/-- Run a computation with nothing remembered about types. -/
def freshly {α : Type} (work : LogT (StateM Memo) α) : LogM α := fun log =>
  ((work.run log).run {}).1

namespace Runner

/-- Note the checkers that are asked for but unknown. -/
def noteUnknown : List String → LogM Unit
  | [] => return
  | name :: rest => do
    note .warning .checking s!"unknown checker {quoted name} ignored"
    noteUnknown rest

/-- Note how much was found in a file. -/
def noteChecked (path : String) (count : Nat) : LogM Unit :=
  note .info .checking s!"{path}: {count} diagnostic(s) in 0.0ms"

/-- Run checkers over a unit (`CheckerRunner.run`). -/
def run (r : Runner) (u : SourceUnit) (chosen : Option (List String) := none) :
    Running (Except Abort Results) := do
  modify (·.load u)
  let s ← get
  match ← Index.buildLogged u r.hierarchy with
  | .error .endless => return .error .endless
  | .ok x =>
    let (checkers, unknown) := r.registry.select chosen
    noteUnknown unknown
    let work := runCheckers ⟨u, x.oracle⟩ s checkers { files := [u.path] } {}
    let (results, stats) ← freshly work
    return .ok { results with stats := results.stats.fillFrom stats }

/-- Run checkers over files, continuing the results so far. -/
def runFilesFrom (r : Runner) (parser : Parser) (fs : FileSystem) (chosen : Option (List String)) :
    List String → Results → Running (Except Abort Results)
  | [], done => return .ok done
  | path :: rest, done => do
    match ← fs.readUnit parser path r.strict with
    | .error (.lint e) =>
      (note .error .checking e.text : LogM Unit)
      r.runFilesFrom parser fs chosen rest { done with failures := done.failures ++ [(path, e)] }
    | .error e => return .error e
    | .ok u =>
      match ← r.run u chosen with
      | .error e => return .error e
      | .ok results =>
        match done.merge results with
        | (_, some e) => return .error (.stats e)
        | (done, none) =>
          noteChecked u.path results.total
          r.runFilesFrom parser fs chosen rest done

/-- Run checkers over files (`run_files`). -/
def runFiles (r : Runner) (parser : Parser) (fs : FileSystem) (paths : List String)
    (chosen : Option (List String) := none) : Running (Except Abort Results) :=
  r.runFilesFrom parser fs chosen paths {}

end Runner

/-- Check one source with everything that comes with the program (`check_source`). -/
def checkSource (parser : Parser) (source : Bytes) (path : String) (suppress : List String) :
    LogM (Except Abort Results) := do
  match ← SourceUnit.parse parser source path false with
  | .error e => return .error (.lint e)
  | .ok u =>
    let suppressions := suppress.foldl Suppressions.addGlobal {}
    (({} : Runner).run u).run' suppressions

end CauseLint
