import CauseLint.Text.Utf8

/-!
# Lines

Two notions of a line. Positions in a source count line feed bytes only (`splitAt`, `rowOf`,
`columnBytes`); a text that is compared line by line ends a line at every character that breaks
lines (`breakLines`), and keeps the break with the line.
-/

namespace CauseLint

/-- The line feed byte. -/
def lineFeed : UInt8 := 10

/-- The carriage return byte. -/
def carriageReturn : UInt8 := 13

/-! ## Lines of bytes -/

/-- The pieces between line feeds; there is always at least one. -/
def splitLines : Bytes → List Bytes
  | [] => [[]]
  | b :: bs =>
    if b = lineFeed then [] :: splitLines bs
    else
      match splitLines bs with
      | [] => [[b]]
      | l :: ls => (b :: l) :: ls

theorem splitLines_ne_nil (bs : Bytes) : splitLines bs ≠ [] := by
  cases bs with
  | nil => simp [splitLines]
  | cons b bs =>
    rw [splitLines]
    split
    · simp
    · split <;> simp

/-- Bytes without the carriage returns at their end. -/
def dropCarriageReturns (bs : Bytes) : Bytes :=
  (bs.reverse.dropWhile (· == carriageReturn)).reverse

/-- The 1-based line of a source without its end; empty when there is no such line. -/
def lineBytes (source : Bytes) (line : Int) : Bytes :=
  if 1 ≤ line then
    match (splitLines source)[(line - 1).toNat]? with
    | some l => dropCarriageReturns l
    | none => []
  else []

/-- The text of the 1-based line of a source without its end. -/
def lineText (source : Bytes) (line : Int) : String := Utf8.toText (lineBytes source line)

/-- The 0-based row of a byte offset: the number of line feeds before it. -/
def rowOf (source : Bytes) (offset : Nat) : Nat := (source.take offset).count lineFeed

/-- The distance in bytes from the start of the row to the offset. -/
def columnBytes (source : Bytes) (offset : Nat) : Nat :=
  offset - ((source.take offset).reverse.dropWhile (· != lineFeed)).length

/-- The 1-based column of a byte offset, in characters of its row. -/
def columnOf (source : Bytes) (offset : Nat) : Nat :=
  (Utf8.decodeLossy ((lineBytes source (rowOf source offset + 1)).take
    (columnBytes source offset))).length + 1

/-! ## Lines of characters -/

/-- Whether a character ends a line. A carriage return with a line feed behind it ends one line. -/
def breaksLine (c : Char) : Bool :=
  ('\n' ≤ c && c ≤ '\r') || ('\x1c' ≤ c && c ≤ '\x1e') || c = '\u0085' || c = '\u2028' ||
    c = '\u2029'

/-- The lines of a text, each with its end; nothing for the empty text. -/
def breakLines : List Char → List (List Char)
  | [] => []
  | '\r' :: '\n' :: cs => ['\r', '\n'] :: breakLines cs
  | c :: cs =>
    if breaksLine c then [c] :: breakLines cs
    else
      match breakLines cs with
      | [] => [[c]]
      | l :: ls => (c :: l) :: ls

end CauseLint
