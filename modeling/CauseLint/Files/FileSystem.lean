import CauseLint.Abort
import CauseLint.Table

/-!
# File systems

A tree of folders and files without links. A place in it is the list of components that lead there
from the root; the root itself is the empty list. One folder is the current one: paths without a
root start there, all others at the root. A path is resolved one component after another, so that
`..` leads back only out of a folder that exists; the folder above the root is the root.
-/

namespace CauseLint

/-- The files and folders of a tree. A folder exists when it is listed, when it is the current
folder, or when one of these or some file lies below it. -/
structure FileSystem where
  files : Table (List String) Bytes := {}
  folders : List (List String) := []
  /-- The current folder. -/
  here : List String := []
  /-- The home folders by the names of the users; the empty name stands for who runs the program. -/
  homes : Table String (List String) := {}

namespace FileSystem

/-- The folders that are named. -/
def namedFolders (fs : FileSystem) : List (List String) := fs.here :: fs.folders

/-- All places that are named. -/
def named (fs : FileSystem) : List (List String) := fs.files.keys ++ fs.namedFolders

/-- Whether a place is a folder. -/
def isFolderAt (fs : FileSystem) (place : List String) : Bool :=
  place.isEmpty || fs.namedFolders.any (place.isPrefixOf ·) ||
    fs.files.keys.any fun k => place.isPrefixOf k && place.length < k.length

/-- Whether a place is a file. -/
def isFileAt (fs : FileSystem) (place : List String) : Bool := fs.files.contains place

/-- The longest component, in bytes, that a folder can hold. -/
def maxComponent : Nat := 255

/-- The longest path, in bytes, that can be resolved. -/
def maxPath : Nat := 4095

/-- The place where some components lead from a place. -/
def walk (fs : FileSystem) (here : List String) : List String → Except FileTrouble (List String)
  | [] => .ok here
  | c :: rest =>
    if !fs.isFolderAt here then .error .notFolder
    else if c = ".." then fs.walk here.dropLast rest
    else if c.utf8ByteSize > maxComponent then .error .nameTooLong
    else
      let next := here ++ [c]
      if fs.isFolderAt next || fs.isFileAt next then fs.walk next rest else .error .missing

/-- What is wrong with a path as such. -/
def check (p : Path) : Except Abort Unit :=
  if p.parts.any (·.toList.contains '\x00') then .error .zeroByte
  else if p.text.utf8ByteSize > maxPath then .error (.file ⟨.nameTooLong, p⟩)
  else .ok ()

/-- The folder that a path starts from. -/
def start (fs : FileSystem) (p : Path) : List String := if p.root = "" then fs.here else []

/-- Name the path in a refusal. -/
def refuse {α : Type} (p : Path) : Except FileTrouble α → Except Abort α
  | .ok a => .ok a
  | .error t => .error (.file ⟨t, p⟩)

/-- The existing place that a path leads to. -/
def locate (fs : FileSystem) (p : Path) : Except Abort (List String) := do
  check p
  refuse p (fs.walk (fs.start p) p.parts)

/-- Whether some question about a path is answered yes; a path that leads nowhere is no. -/
def holds (test : List String → Bool) : Except Abort (List String) → Except Abort Bool
  | .ok place => .ok (test place)
  | .error .zeroByte => .ok false
  | .error (.file ⟨.missing, _⟩) => .ok false
  | .error (.file ⟨.notFolder, _⟩) => .ok false
  | .error e => .error e

/-- Whether a path leads to a folder. -/
def isFolder (fs : FileSystem) (p : Path) : Except Abort Bool := holds fs.isFolderAt (fs.locate p)

/-- Whether a path leads to a file. -/
def isFile (fs : FileSystem) (p : Path) : Except Abort Bool := holds fs.isFileAt (fs.locate p)

/-- The bytes of the file under a path. -/
def read (fs : FileSystem) (p : Path) : Except Abort Bytes := do
  let place ← fs.locate p
  match fs.files.get? place with
  | some data => .ok data
  | none => .error (.file ⟨.isFolder, p⟩)

/-- The place of a file that is to be written, given the folder it goes into. -/
def placeIn (fs : FileSystem) (folder : List String) (name : String) :
    Except FileTrouble (List String) :=
  if !fs.isFolderAt folder then .error .notFolder
  else if name = ".." then .error .isFolder
  else if name.utf8ByteSize > maxComponent then .error .nameTooLong
  else if fs.isFolderAt (folder ++ [name]) then .error .isFolder
  else .ok (folder ++ [name])

/-- Put a file under a path, in the place of the file that is there. -/
def write (fs : FileSystem) (p : Path) (data : Bytes) : Except Abort FileSystem := do
  check p
  match p.parts.getLast? with
  | none => .error (.file ⟨.isFolder, p⟩)
  | some name =>
    let folder ← refuse p (fs.walk (fs.start p) p.parts.dropLast)
    let place ← refuse p (fs.placeIn folder name)
    return { fs with files := fs.files.insert place data }

/-- The beginnings of a list that are longer than `n`. -/
def beginnings (n : Nat) (l : List String) : List (List String) :=
  (List.range' (n + 1) (l.length - n)).map l.take

/-- Everything below a folder, each place once, as seen from the folder. -/
def below (fs : FileSystem) (folder : List String) : List (List String) :=
  ((fs.named.filter (folder.isPrefixOf ·)).flatMap (beginnings folder.length)).eraseDups.map
    (·.drop folder.length)

end FileSystem

end CauseLint
