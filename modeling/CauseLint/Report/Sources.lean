import CauseLint.Edit
import CauseLint.Files.FileSystem
import CauseLint.Text.Blank
import CauseLint.Text.Lines

/-!
# Sources of a report

A report quotes source lines. It takes a source from what the caller supplies and otherwise from
the file system; a source that cannot be read is simply not quoted.
-/

namespace CauseLint

/-- Where sources come from (`_SourceCache`). -/
structure Sources where
  /-- Sources by file name; a file may be declared to have none. -/
  given : Table String (Option Bytes) := {}
  disk : FileSystem := {}

/-- The position behind the last line feed among the first `offset` bytes. -/
def lineStart (bs : Bytes) (offset : Nat) : Nat :=
  ((bs.take offset).reverse.dropWhile (· ≠ lineFeed)).length

/-- The position of the first line feed at or behind `offset`, or the end. -/
def lineStop (bs : Bytes) (offset : Nat) : Nat :=
  min offset bs.length + ((bs.drop offset).takeWhile (· ≠ lineFeed)).length

/-- The text between two positions, without carriage returns and white space at its ends. -/
def trimmedText (bs : Bytes) (start stop : Nat) : String :=
  trimBlank (Utf8.toText (dropCarriageReturns ((bs.take stop).drop start)))

namespace Sources

/-- Supply the source of a file, unless that is settled already. -/
def supply (s : Sources) (file : String) (data : Bytes) : Sources :=
  if s.given.contains file then s else { s with given := s.given.insert file (some data) }

/-- The source of a file, if there is one (`_SourceCache.get`). -/
def get (s : Sources) (file : String) : Except Abort (Option Bytes) :=
  match s.given.get? file with
  | some source => .ok source
  | none =>
    if file = "" then .ok none
    else
      match s.disk.read (Path.ofText file) with
      | .ok data => .ok (some data)
      | .error (.file _) => .ok none
      | .error e => .error e

/-- A line of a file without its end (`_SourceCache.line`); empty when there is none. -/
def line (s : Sources) (file : String) (line : Int) : Except Abort String := do
  match ← s.get file with
  | some data => return lineText data line
  | none => return ""

/-- The line of a source that holds the first edit of a fix, with the fix applied. -/
def patchedLine (fix : Fix) (patched : Bytes) : String :=
  let offset := fix.offset.toNat
  trimmedText patched (lineStart patched offset) (lineStop patched (offset + fix.text.utf8ByteSize))

/-- The line of a file that holds the first edit of a fix, with the fix applied (`fixed_line`);
empty when the fix or the source is missing or the fix cannot be applied. -/
def fixedLine (s : Sources) (file : String) (fix : Fix) : LogM (Except Abort String) := do
  match s.get file with
  | .error e => return .error e
  | .ok none => return .ok ""
  | .ok (some data) =>
    if fix.isEmpty then return .ok ""
    match ← applyFixesLogged data [fix] with
    | .error _ => return .ok ""
    | .ok patched => return .ok (patchedLine fix patched)

end Sources

end CauseLint
