import CauseLint.Command.Reader
import CauseLint.Command.Usage
import CauseLint.Files.Collect
import CauseLint.Report.Delivery
import CauseLint.Run.Runner
import CauseLint.Text.Diff

/-!
# The command

From a command line and a file system to what the program prints, the code it ends with and the files
it leaves. The code is 0 when nothing is wrong or all was mended, 1 when there are findings, and 2 when
something could not be done. Files change only through `--fix` and through the reports that are
asked for.
-/

namespace CauseLint

namespace Command

/-- What surrounds a run of the program. -/
structure Environment where
  parser : Parser
  /-- Whether the standard stream is a terminal. -/
  terminal : Bool := false
  /-- Where reports go that no option asks for; empty for nowhere. -/
  sarif : String := ""
  html : String := ""
  /-- Where the template of a page may be. -/
  template : String := ""

/-- Something on the error stream. -/
inductive Notice where
  | log (entry : LogEntry)
  | line (text : String)
deriving Repr, DecidableEq

/-- What a run has done so far. -/
structure Progress where
  files : FileSystem
  output : String := ""
  notices : List Notice := []

/-- The steps of a run. What was done before a run stops stays done. -/
abbrev Running := ExceptT Abort (StateM Progress)

/-- Write on the standard stream. -/
def print (s : String) : Running Unit := modify fun p => { p with output := p.output ++ s }

/-- Do something that writes a log. -/
def logged {α : Type} (x : LogM α) : Running α := do
  let (a, log) := x.run []
  modify fun p => { p with notices := p.notices ++ log.map .log }
  return a

/-- Do something that writes a log and may stop. -/
def guarded {α : Type} (x : LogM (Except Abort α)) : Running α := do
  match ← logged x with
  | .ok a => return a
  | .error e => throw e

/-- Write an entry into the log. -/
def say (level : Level) (message : String) : Running Unit := logged (note level .command message)

/-! ## Showing results -/

/-- How a report is made. -/
def reportOptions (env : Environment) (o : Options) : ReportOptions where
  coloured := o.output = some .text && env.terminal
  version := toolVersion
  sarif := if o.sarif = "" then env.sarif else o.sarif
  html := if o.html = "" then env.html else o.html
  template := env.template

/-- Make a report, show it if it is asked for on the stream, and write its files. -/
def makeReport (env : Environment) (o : Options) (ds : List Diagnostic) : Running Unit := do
  let ro := reportOptions env o
  let files := (← get).files
  let report ← guarded (Report.addAll ro { disk := files } ds {})
  if o.output = some .text then print (report.text ro)
  let delivery := report.deliver ro files
  modify fun p => { p with
    files := delivery.files
    notices := p.notices ++ delivery.complaints.map fun c => .line (c ++ "\n") }
  match delivery.stopped with
  | some e => throw e
  | none => return

/-- Show results in the form asked for (`_emit_results`). -/
def showResults (env : Environment) (o : Options) (r : Results) : Running Unit := do
  if o.output = some .text || o.sarif ≠ "" || o.html ≠ "" then makeReport env o r.diagnostics
  match o.output with
  | none | some .text => return
  | some .json => if !r.diagnostics.isEmpty then print (r.jsonLines ++ "\n")
  | some .compiler => if !r.diagnostics.isEmpty then print (r.compilerLines ++ "\n")
  | some .summary =>
    match r.summary with
    | .ok s => print (s ++ "\n")
    | .error e => throw (.stats e)

/-! ## Mending files -/

/-- The lines of a source, each with its end. -/
def sourceLines (source : Bytes) : Running (List (List Char)) :=
  match decodeText source with
  | .ok text => return breakLines text.toList
  | .error u => throw (.undecodable u)

/-- Show how a file would change. -/
def showDiff (file : String) (before after : Bytes) : Running Unit := do
  let left ← sourceLines before
  let right ← sourceLines after
  print (String.ofList (Diff.unified left right s!"a/{file}" s!"b/{file}").flatten)

/-- The bytes of a file. -/
def readFile (p : Path) : Running Bytes := do
  match (← get).files.read p with
  | .ok data => return data
  | .error e => throw e

/-- Write a file. -/
def writeFile (p : Path) (data : Bytes) : Running Unit := do
  match (← get).files.write p data with
  | .ok files => modify fun s => { s with files }
  | .error e => throw e

/-- What came of mending files: how many changed, and which were left alone because their fixes
clash. -/
structure Mended where
  changed : Nat := 0
  conflicted : List String := []

/-- Mend one file: show how it changes, or write it. -/
def mendFile (o : Options) (m : Mended) (file : String) (fixes : List Fix) :
    Running Mended := do
  let path := Path.ofText file
  let before ← readFile path
  match ← logged (applyFixesLogged before fixes) with
  | .error c =>
    say .error s!"{file}: fixes not applied: {c.toError.text}"
    return { m with conflicted := m.conflicted ++ [file] }
  | .ok after =>
    if after = before then return m
    if o.diff then showDiff file before after
    if o.fix then
      writeFile path after
      say .info s!"{file}: applied {fixes.length} fix(es)"
    return { m with changed := m.changed + 1 }

/-- Mend files one after another. -/
def mendAll (o : Options) : List (String × List Fix) → Mended → Running Mended
  | [], m => return m
  | (file, fixes) :: rest, m => do mendAll o rest (← mendFile o m file fixes)

/-- Mend all files that have fixes, in order of their names (`_apply_fixes`). -/
def mend (o : Options) (r : Results) : Running Mended := do
  let todo := r.fixesByFile.entries.mergeSort fun a b => a.1 ≤ b.1
  let m ← mendAll o todo {}
  let done := if o.fix then "fixed" else "would change"
  say .info s!"{m.changed} file(s) {done}"
  return m

/-! ## The run -/

/-- Whether a finding is left after mending. -/
def isLeft (m : Mended) (d : Diagnostic) : Bool :=
  d.errorId ≠ internalErrorId && (d.fix.isNone || m.conflicted.contains d.location.file)

/-- The code that a run ends with. -/
def exitCode (o : Options) (r : Results) (m : Mended) : Nat :=
  if !r.failures.isEmpty then 2
  else if o.fix then if r.diagnostics.any (isLeft m) then 1 else 0
  else if r.findingCount = 0 then 0 else 1

/-- Check the files that the options name, and show what is found. -/
def inspect (env : Environment) (o : Options) : Running Results := do
  let files ← guarded ((← get).files.collectLogged o.paths o.exclude)
  let suppressions := o.suppress.foldl Suppressions.addGlobal {}
  let runner : Runner := { strict := o.strictParse }
  let work := runner.runFiles env.parser (← get).files (files.map (·.text))
  let results ← guarded (work.run' suppressions)
  showResults env o results
  return results

/-- Check the files that the options name, and mend them if that is asked for. -/
def run (env : Environment) (o : Options) : Running Nat := do
  let results ← inspect env o
  let mended ← if o.fix || o.diff then mend o results else pure {}
  return exitCode o results mended

/-- The log entry about why a run stopped. -/
def stopMessage : Abort → String
  | .lint e => e.text
  | .file e => s!"I/O failure: {e.text}"
  | e => s!"Unhandled exception: {e.text}"

/-- The checkers that come with the program (`_list_checkers`). -/
def checkerList : String :=
  String.join (Registry.standard.names.filterMap fun name =>
    (Registry.standard.get? name).map fun c =>
      let ids := ", ".intercalate (c.errorIds.mergeSort (· ≤ ·))
      "  " ++ padRight 25 c.name ++ s!" {c.description}\n" ++
        "  " ++ blanks 25 ++ s!" IDs: {ids}\n\n")
where
  /-- Blanks behind a text up to a width. -/
  padRight (width : Nat) (s : String) : String := s ++ blanks (width - s.length)

/-- What a run has to show in the end. -/
structure Outcome where
  code : Nat
  output : String := ""
  errors : String := ""
  files : FileSystem

/-- The least level of log entries that are shown. -/
def shownLevel (verbosity : Nat) : Level :=
  match verbosity with
  | 0 => .warning
  | 1 => .info
  | _ => .debug

/-- A notice on the error stream. -/
def Notice.text (level : Level) : Notice → String
  | .log e => if level.rank ≤ e.level.rank then e.line else ""
  | .line s => s

/-- What there is to show after some steps, with all entries from a level on. -/
def conclude (fs : FileSystem) (level : Level) (steps : Running Nat) : Outcome :=
  let (answer, p) := steps.run.run { files := fs }
  let (code, more) :=
    match answer with
    | .ok code => (code, [])
    | .error e => (2, [Notice.log ⟨.error, .command, stopMessage e⟩])
  { code
    output := p.output
    errors := String.join ((p.notices ++ more).map (·.text level))
    files := p.files }

/-- Do what the options ask for. -/
def perform (env : Environment) (fs : FileSystem) (o : Options) : Outcome :=
  if o.listCheckers then { code := 0, output := checkerList, files := fs }
  else if o.paths.isEmpty then
    { code := 2, errors := usage ++ LogEntry.line ⟨.error, .command, "no PATH given"⟩, files := fs }
  else conclude fs (shownLevel o.verbosity) (run env o)

/-- The program (`main`). -/
def execute (env : Environment) (fs : FileSystem) (args : List String) : Outcome :=
  match readArguments args with
  | .ok o => perform env fs o
  | .error .help => { code := 0, output := help, files := fs }
  | .error .version => { code := 0, output := versionLine, files := fs }
  | .error (.refused message) => { code := 2, errors := usageError message, files := fs }

end Command

end CauseLint
