import CauseLint.Command.Run
import CauseLint.Json.Reader
import CauseLint.Syntax.Supplied

/-!
# The program

Reads the files below the current folder and below what the arguments name, and, from standard input,
the trees of their sources, one JSON object a line; then does what the command line asks for and writes
the files that have changed.
-/

namespace CauseLint.Program

/-- How many folders deep files are looked for. -/
def maxDepth : Nat := 64

/-- The name of a place that the operating system takes. -/
def nameOf (place : List String) : String := "/" ++ "/".intercalate place

/-- Add what lies in a folder to a file system. -/
def load : Nat → List String → FileSystem → IO FileSystem
  | 0, _, fs => return fs
  | depth + 1, place, fs => do
    let mut fs := { fs with folders := fs.folders ++ [place] }
    for entry in ← (System.mkFilePath [nameOf place]).readDir do
      let next := place ++ [entry.fileName]
      if ← entry.path.isDir then
        fs ← load depth next fs
      else
        let data ← IO.FS.readBinFile entry.path
        fs := { fs with files := fs.files.insert next data.data.toList }
    return fs

/-- Add what lies where some components lead from a place. -/
def loadFrom (place : List String) : List String → FileSystem → IO FileSystem
  | [], fs => load maxDepth place fs
  | ".." :: rest, fs => loadFrom place.dropLast rest fs
  | name :: rest, fs => do
    let next := place ++ [name]
    let path := System.mkFilePath [nameOf next]
    if ← path.isDir then loadFrom next rest { fs with folders := fs.folders ++ [next] }
    else if ← path.pathExists then
      return { fs with files := fs.files.insert next (← IO.FS.readBinFile path).data.toList }
    else return fs

/-- Add what lies where a path leads, if it leads anywhere. -/
def loadPath (fs : FileSystem) (p : Path) : IO FileSystem :=
  match fs.expandHome p with
  | .ok p => loadFrom (fs.start p) p.parts fs
  | .error _ => return fs

/-- Write the files that differ. -/
def store (before after : FileSystem) : IO Unit := do
  for (place, data) in after.files.entries do
    if before.files.get? place != some data then
      IO.FS.writeBinFile (nameOf place) ⟨data.toArray⟩

/-- The JSON objects on standard input, one a line. -/
def readTrees : IO (List Json) := do
  let input ← IO.getStdin
  let mut trees : Array Json := #[]
  repeat
    let line ← input.getLine
    if line.isEmpty then break
    trees := trees ++ (Json.parse? line).toList
  return trees.toList

/-- The value of an environment variable, empty when it is not set. -/
def setting (name : String) : IO String := return (← IO.getEnv name).getD ""

/-- The files that a run can reach. -/
def reachable (names : List String) : IO FileSystem := do
  let here := (Path.ofText (← IO.currentDir).toString).parts
  let home := (Path.ofText (← setting "HOME")).parts
  let fs ← load maxDepth here { here, homes := .ofList [("", home)] }
  names.foldlM (fun fs name => loadPath fs (Path.ofText name)) fs

/-- Run the program and give its code. -/
def run (args : List String) : IO UInt32 := do
  let output ← IO.getStdout
  let env : Command.Environment :=
    { parser := Supplied.parser (← readTrees)
      terminal := ← output.isTty
      sarif := ← setting "REPORT_GENERATE_SARIF"
      html := ← setting "REPORT_GENERATE_HTML"
      template := ← setting "REPORT_HTML_TEMPLATE" }
  let files ← reachable (args ++ [env.sarif, env.html, env.template].filter (· ≠ ""))
  let outcome := Command.execute env files args
  output.putStr outcome.output
  (← IO.getStderr).putStr outcome.errors
  store files outcome.files
  return outcome.code.toUInt32

end CauseLint.Program

/-- The program. -/
def main (args : List String) : IO UInt32 := CauseLint.Program.run args
