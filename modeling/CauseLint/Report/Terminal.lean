import CauseLint.Report.Tally

/-!
# Reports for people

Two ways to show entries: plain lines, and coloured blocks that quote the source and underline what
is meant.
-/

namespace CauseLint

/-- The colours of a terminal that are used. -/
inductive Colour where
  | red
  | green
  | yellow
  | blue
  | cyan
  | white
deriving Repr, DecidableEq

namespace Colour

/-- The name of a colour. -/
def name : Colour → String
  | .red => "red"
  | .green => "green"
  | .yellow => "yellow"
  | .blue => "blue"
  | .cyan => "cyan"
  | .white => "white"

/-- The terminal's number for a colour. -/
def number : Colour → Nat
  | .red => 31
  | .green => 32
  | .yellow => 33
  | .blue => 34
  | .cyan => 36
  | .white => 97

/-- A text in bold and in a colour. -/
def bold (c : Colour) (s : String) : String := s!"\x1b[1m\x1b[{c.number}m{s}\x1b[0m"

end Colour

/-- The colour of a severity. -/
def Severity.colour : Severity → Colour
  | .error => .red
  | .warning => .yellow
  | .style => .cyan
  | .information => .white

/-- Blanks in a row. -/
def blanks (n : Nat) : String := String.ofList (List.replicate n ' ')

/-- Blanks before a text up to a width. -/
def padLeft (width : Nat) (s : String) : String := blanks (width - s.length) ++ s

/-! ## Coloured blocks -/

namespace Terminal

/-- How many characters of a line to underline. -/
def markLength (u : Underline) (source : String) : Nat :=
  if u.stopLine = u.startLine then (max (u.stopColumn - u.startColumn) 1).toNat
  else (max ((source.length : Int) - u.startColumn + 1) 1).toNat

/-- A quoted line and the line that underlines it. -/
def underlineLines (width : Nat) (severity : Severity) (source : String) (u : Underline) :
    Except Oversize (List String) := do
  let bar := Colour.blue.bold "|"
  let number := Colour.blue.bold (padLeft width (toString u.startLine))
  let indent ← repeated (u.startColumn - 1).toNat " "
  let marks ← repeated (markLength u source) (if u.style = "" then "^" else u.style)
  let label := if u.label = "" then "" else " " ++ u.label
  let marked := severity.colour.bold (marks ++ label)
  return [s!" {number} {bar} {source}", " " ++ blanks (width + 1) ++ s!" {bar} {indent}{marked}"]

/-- The width of the column of line numbers. -/
def gutter (us : List Underline) : Nat :=
  (us.map fun u => (toString u.startLine).length).foldl max 0 + 1

/-- The quoted lines of an entry (`_render_spans`). -/
def quotedLines (sources : Sources) (e : Entry) : Except Abort (List String) :=
  match e.location with
  | none => .ok []
  | some place => do
    let blocks ← e.underlines.mapM fun u => do
      let source ← sources.line place.file u.startLine
      (underlineLines (gutter e.underlines) e.severity source u).mapError .oversize
    return blocks.flatten

/-- A remark below an entry. -/
def remark (colour : Colour) (word text : String) : String :=
  let head := colour.bold word
  s!"  = {head}: {text}"

/-- An entry as a coloured block (`_TerminalRenderer.render`). -/
def entry (sources : Sources) (e : Entry) : Except Abort String := do
  let head := e.severity.colour.bold s!"{e.severity.name}[{e.errorId}]"
  let message := Colour.white.bold e.message
  let arrow := Colour.blue.bold "-->"
  let place := (e.location.map fun l => s!"  {arrow} {l.text}").toList
  let quotes ← quotedLines sources e
  let lines := s!"{head}: {message}" :: place ++ quotes ++ e.notes.map (remark .cyan "note") ++
    e.helps.map (remark .green "help") ++ [""]
  return "\n".intercalate lines ++ "\n"

/-- The last line, coloured by the gravest severity. -/
def summary (t : Tally) : String :=
  let colour : Colour := if t.error ≠ 0 then .red else if t.total ≠ 0 then .yellow else .green
  colour.bold s!"  ╰─ {t.summary}" ++ "\n"

end Terminal

/-! ## Plain lines -/

namespace Plain

/-- An entry as plain lines (`_PlainRenderer.render`). -/
def entry (e : Entry) : String :=
  String.join ((e.compilerLine ++ "\n") :: e.notes.map (s!"  note: {·}\n") ++
    e.helps.map (s!"  help: {·}\n"))

/-- The last line. -/
def summary (t : Tally) : String := s!"  {t.summary}\n"

end Plain

end CauseLint
