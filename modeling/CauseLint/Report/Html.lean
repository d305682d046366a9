import CauseLint.Report.Entry
import CauseLint.Files.Source

/-!
# Pages

A report as a page for a browser. The page is a list of pieces, each either markup of the page itself
or a text from outside; only texts are escaped, and only when the page is written. Rows are grouped
by file: groups are in order of the file names without regard to case, and a group is headed by the
name that its first row has.
-/

namespace CauseLint

/-- What a page shows about one entry. -/
structure Row where
  severity : Severity
  errorId : String
  message : String
  file : String := ""
  line : Int := 0
  column : Int := 0
  /-- The line the entry is about. -/
  source : String := ""
  /-- The line with the fix applied. -/
  fixed : String := ""
  notes : List String := []
  helps : List String := []

/-- The row of an entry (`_HtmlBuilder.add`). -/
def Entry.toRow (e : Entry) (sources : Sources) : LogM (Except Abort Row) := do
  let bare : Row :=
    { severity := e.severity, errorId := e.errorId, message := e.message, notes := e.notes
      helps := e.helps }
  match e.location with
  | none => return .ok bare
  | some place =>
    let fixed ←
      match e.fix with
      | some fix => sources.fixedLine place.file fix
      | none => pure (.ok "")
    return do
      let fixed ← fixed
      let source ← sources.line place.file place.line
      return { bare with file := place.file, line := place.line, column := place.column
                         source := trimBlank source, fixed }

namespace Html

/-- A piece of a page. -/
inductive Piece where
  /-- Markup of the page itself. -/
  | markup (s : String)
  /-- A text from outside. -/
  | text (s : String)
deriving Repr, DecidableEq

/-- A character of a text inside markup. Templates are rendered with autoescaping: which characters are
replaced, and by what, is its documented behaviour in jinja2 (3.1 and later). -/
def escapeChar (c : Char) : List Char :=
  match c with
  | '&' => "&amp;".toList
  | '<' => "&lt;".toList
  | '>' => "&gt;".toList
  | '\'' => "&#39;".toList
  | '"' => "&#34;".toList
  | c => [c]

/-- A text inside markup, as autoescaping writes it. -/
def escape (s : String) : String := String.ofList (s.toList.flatMap escapeChar)

/-- A piece as it is written. -/
def Piece.render : Piece → String
  | .markup s => s
  | .text s => escape s

/-- Pieces as they are written. -/
def render (pieces : List Piece) : String := String.join (pieces.map (·.render))

/-! ## Groups -/

/-- Rows of one file, apart from case, under the name that heads them. -/
structure Group where
  file : String
  rows : List Row

/-- Group neighbours whose file names differ only in case. This and the order of `groups` stand for
`groupby("file")` of jinja2 (3.1 and later) as it is documented: it sorts, it takes upper and lower
case for the same unless told otherwise, and each group has the name of its first row. -/
def groupRuns : List Row → List Group
  | [] => []
  | r :: rest =>
    match groupRuns rest with
    | [] => [⟨r.file, [r]⟩]
    | g :: gs =>
      if lowerCase r.file = lowerCase g.file then ⟨r.file, r :: g.rows⟩ :: gs
      else ⟨r.file, [r]⟩ :: g :: gs

/-- The groups of a page, in order of the file names without regard to case. -/
def groups (rows : List Row) : List Group :=
  groupRuns (rows.mergeSort fun a b => lowerCase a.file ≤ lowerCase b.file)

/-! ## The page -/

/-- The lines of the page up to its first group. -/
def headLines : List String :=
  ["<!DOCTYPE html>",
   "<html lang=\"en\">",
   "<head>",
   "  <meta charset=\"utf-8\">",
   "  <title>flogger-lint report</title>",
   "  <style>",
   "    body \x7b font-family: system-ui, sans-serif; margin: 2em auto; max-width: 72em;",
   "           color: #1f2328; \x7d",
   "    h2 \x7b font-size: 1.05em; margin-top: 2em; border-bottom: 1px solid #d0d7de; \x7d",
   "    table \x7b border-collapse: collapse; width: 100%; \x7d",
   "    td \x7b vertical-align: top; padding: 0.35em 0.6em; border-bottom: 1px solid #eaeef2; \x7d",
   "    td.pos \x7b white-space: nowrap; color: #57606a; \x7d",
   "    .error \x7b color: #cf222e; \x7d .warning \x7b color: #9a6700; \x7d",
   "    .style, .information \x7b color: #0969da; \x7d",
   "    code.before, code.after \x7b display: block; white-space: pre; padding: 0.2em 0.4em; \x7d",
   "    code.before \x7b background: #ffebe9; \x7d code.after \x7b background: #dafbe1; \x7d",
   "    .note \x7b color: #57606a; font-size: 0.9em; \x7d",
   "    footer \x7b margin-top: 2em; color: #57606a; \x7d",
   "  </style>",
   "</head>",
   "<body>",
   "  <h1>flogger-lint report</h1>",
   "  "]

/-- A line of source in a row, unless it is empty. -/
def codeLine (cls sign source : String) : List Piece :=
  if source = "" then []
  else [.markup s!"<code class=\"{cls}\">{sign} ", .text source, .markup "</code>"]

/-- A remark in a row. -/
def remark (word text : String) : List Piece :=
  [.markup s!"<div class=\"note\">{word}: ", .text text, .markup "</div>"]

/-- The position shown in a row. -/
def position (r : Row) : String :=
  if r.column = 0 then s!"{r.line}" else s!"{r.line}:{r.column}"

/-- A row of the page. -/
def rowPieces (r : Row) : List Piece :=
  let place := position r
  [.markup s!"\n    <tr>\n      <td class=\"pos\">{place}</td>\n",
   .markup s!"      <td class=\"{r.severity.name}\">{r.severity.name}</td>\n      <td>\n        ",
   .text r.message, .markup " <code>[", .text r.errorId, .markup "]</code>\n        "] ++
  codeLine "before" "-" r.source ++ [.markup "\n        "] ++
  codeLine "after" "+" r.fixed ++ [.markup "\n        "] ++
  r.notes.flatMap (remark "note") ++ [.markup "\n        "] ++
  r.helps.flatMap (remark "help") ++ [.markup "\n      </td>\n    </tr>\n    "]

/-- The heading of a group. -/
def heading (file : String) : String := if file = "" then "(no file)" else file

/-- A group of the page. -/
def groupPieces (g : Group) : List Piece :=
  [.markup "\n  <h2>", .text (heading g.file), .markup "</h2>\n  <table>\n    "] ++
  g.rows.flatMap rowPieces ++ [.markup "\n  </table>\n  "]

/-- The end of the page. -/
def footer (count : Nat) : String :=
  let plural := if count = 1 then "" else "s"
  s!"\n  <footer>{count} diagnostic{plural}.</footer>\n</body>\n</html>"

/-- The page of some rows. -/
def page (rows : List Row) : List Piece :=
  .markup ("\n".intercalate headLines) :: (groups rows).flatMap groupPieces ++
    [.markup (footer rows.length)]

/-! ## Templates -/

/-- What a page is made from. -/
inductive Template where
  | standard
  /-- A fixed text, the same for all reports. -/
  | fixed (text : String)
deriving Repr, DecidableEq

/-- Line ends as line feeds. -/
def plainEnds : List Char → List Char
  | '\r' :: '\n' :: cs => '\n' :: plainEnds cs
  | '\r' :: cs => '\n' :: plainEnds cs
  | c :: cs => c :: plainEnds cs
  | [] => []

/-- A text without one line feed at its end. -/
def dropFinalNewline (cs : List Char) : List Char :=
  match cs.reverse with
  | '\n' :: rest => rest.reverse
  | _ => cs

/-- The text of a page (`_HtmlBuilder.render`). -/
def Template.render (t : Template) (rows : List Row) : String :=
  match t with
  | .standard => Html.render (page rows)
  | .fixed text => String.ofList (dropFinalNewline (plainEnds text.toList))

/-- The template under a path (`_load_template`); without a path, or when there is no file, the
standard one. -/
def Template.load (fs : FileSystem) (path : String) : Except Abort Template := do
  if path = "" then return .standard
  let p := Path.ofText path
  if ← fs.isFile p then
    match decodeText (← fs.read p) with
    | .ok text => return .fixed text
    | .error u => .error (.undecodable u)
  else return .standard

end Html

end CauseLint
