import CauseLint.Files.FileSystem
import CauseLint.Log
import CauseLint.Text.Glob

/-!
# Collecting files

The files to check: a path to a file stands for itself, a path to a folder for everything below it
whose name ends in `.java`, in order of components. No path is taken twice, and paths that match an
exclusion are left out.
-/

namespace CauseLint

/-- Whether a path, or its last component alone, matches one of some globs (`_is_excluded`). -/
def isExcluded (p : Path) (globs : List String) : Bool :=
  globs.any fun g => Glob.isMatch g p.text || Glob.isMatch g p.name

/-- Whether a name is one of a source file. -/
def isSourceName (name : String) : Bool := name.endsWith ".java"

namespace FileSystem

/-- A path with the home folder put in that it begins with, if it begins with one. -/
def expandHome (fs : FileSystem) (p : Path) : Except Abort Path :=
  match p.root, p.parts with
  | "", first :: rest =>
    match first.toList with
    | '~' :: user =>
      match fs.homes.get? (String.ofList user) with
      | some home => .ok ⟨"/", home ++ rest⟩
      | none => .error .noHome
    | _ => .ok p
  | _, _ => .ok p

/-- What a path stands for, as `collect_java_files` expands it. -/
def candidates (fs : FileSystem) (raw : String) : Except Abort (List Path) := do
  let p ← fs.expandHome (Path.ofText raw)
  if ← fs.isFolder p then
    let folder ← fs.locate p
    let found := (fs.below folder).filter fun rel => isSourceName (rel.getLast?.getD "")
    return (found.map fun rel => { p with parts := p.parts ++ rel }).mergeSort Path.le
  else if ← fs.isFile p then return [p]
  else .error (.lint { kind := .configuration, message := s!"path not found: {raw}" })

/-- Add paths that are neither there already nor excluded. -/
def addNew (exclude : List String) (seen new : List Path) : List Path :=
  new.foldl (fun acc p => if acc.contains p || isExcluded p exclude then acc else acc ++ [p]) seen

/-- What some paths stand for, each file once (`collect_java_files`). -/
def collect (fs : FileSystem) (exclude : List String) : List String → List Path →
    Except Abort (List Path)
  | [], seen => .ok seen
  | raw :: rest, seen => do
    let new ← fs.candidates raw
    fs.collect exclude rest (addNew exclude seen new)

/-- Collect files and note how many there are. -/
def collectLogged (fs : FileSystem) (paths exclude : List String) :
    LogM (Except Abort (List Path)) := do
  match fs.collect exclude paths [] with
  | .error e => return .error e
  | .ok files =>
    note .info .command s!"{files.length} Java file(s) to check"
    return .ok files

theorem fst_collectLogged (fs : FileSystem) (paths exclude : List String) (log : Log) :
    ((fs.collectLogged paths exclude).run log).1 = fs.collect exclude paths [] := by
  unfold collectLogged
  cases fs.collect exclude paths [] <;> rfl

end FileSystem

end CauseLint
