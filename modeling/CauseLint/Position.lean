/-!
# Positions in a source

A location is a point that a message can name; a source span is a stretch of bytes together with
the locations of its two ends.
-/

namespace CauseLint

/-- A point in a file, with 1-based line and column (`SourceLocation`). A column of zero means "no
column". -/
structure Location where
  file : String := ""
  line : Int := 0
  column : Int := 0
deriving Repr, DecidableEq, Inhabited

/-- A location as messages show it. -/
def Location.text (l : Location) : String :=
  if l.column = 0 then s!"{l.file}:{l.line}" else s!"{l.file}:{l.line}:{l.column}"

/-- The bytes from `start` up to but excluding `stop`, with the locations of both ends. -/
structure SourceSpan where
  file : String
  start : Nat
  stop : Nat
  startLine : Nat
  startColumn : Nat
  stopLine : Nat
  stopColumn : Nat
deriving Repr, DecidableEq

/-- Where a span begins (`start_location`). -/
def SourceSpan.startLocation (s : SourceSpan) : Location := ⟨s.file, s.startLine, s.startColumn⟩

/-- Where a span ends (`end_location`); the column is the one behind its last character. -/
def SourceSpan.stopLocation (s : SourceSpan) : Location := ⟨s.file, s.stopLine, s.stopColumn⟩

end CauseLint
