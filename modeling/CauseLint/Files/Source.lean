import CauseLint.Files.FileSystem
import CauseLint.Syntax.Unit

/-!
# Source files

A source file is read, checked to be text, and parsed.
-/

namespace CauseLint

/-- Bytes that are to be text, or the place where they are not. -/
def decodeText (data : Bytes) : Except Undecodable String :=
  match Utf8.fault? data with
  | none => .ok (Utf8.toText data)
  | some (offset, fault, width) => .error ⟨fault, (data[offset]?).getD 0, offset, width⟩

namespace FileSystem

/-- The bytes of a source file; a file that cannot be read or is not text is an error of the
input. -/
def readSource (fs : FileSystem) (p : Path) : Except Abort Bytes :=
  match fs.read p with
  | .error (.file e) =>
    .error (.lint { kind := .sourceRead, message := s!"cannot read {p.text}: {e.trouble.reason}" })
  | .error e => .error e
  | .ok data =>
    match decodeText data with
    | .ok _ => .ok data
    | .error u =>
      .error (.lint
        { kind := .sourceRead
          message := s!"{p.text} is not valid UTF-8 (byte {u.offset})"
          hint := "re-encode the file as UTF-8" })

/-- Read and parse a source file (`parse_file`). The unit keeps the path as it is spelled. -/
def readUnit (fs : FileSystem) (parser : Parser) (raw : String) (strict : Bool) :
    LogM (Except Abort SourceUnit) := do
  match fs.readSource (Path.ofText raw) with
  | .error e => return .error e
  | .ok data =>
    match ← SourceUnit.parse parser data raw strict with
    | .ok u => return .ok u
    | .error e => return .error (.lint e)

end FileSystem

end CauseLint
