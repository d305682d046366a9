import CauseLint.Report.Html
import CauseLint.Report.Sarif
import CauseLint.Report.Terminal

/-!
# Reports

A report shows findings on a stream as they come, and in the end its last line. It may also be
written to files, as an interchange report and as a page; a file that cannot be written is
complained about and left out.
-/

namespace CauseLint

/-- How a report is made. -/
structure ReportOptions where
  /-- Whether the stream shows colours. -/
  coloured : Bool := false
  tool : String := toolName
  version : String := "1.0.0"
  /-- Where to write an interchange report; empty for nowhere. -/
  sarif : String := ""
  /-- Where to write a page; empty for nowhere. -/
  html : String := ""
  /-- Where the template of the page may be; empty for the standard one. -/
  template : String := ""

/-- A report: its entries, their rows when a page is wanted, and what the stream shows. -/
structure Report where
  entries : List Entry := []
  rows : List Row := []
  shown : String := ""

namespace Report

/-- The text of an entry on the stream. -/
def showEntry (o : ReportOptions) (sources : Sources) (e : Entry) : Except Abort String :=
  if o.coloured then Terminal.entry sources e else .ok (Plain.entry e)

/-- Take an entry into a report (`_accept`). -/
def accept (o : ReportOptions) (sources : Sources) (r : Report) (e : Entry) :
    LogM (Except Abort Report) := do
  match showEntry o sources e with
  | .error x => return .error x
  | .ok text =>
    let next := { r with entries := r.entries ++ [e], shown := r.shown ++ text }
    if o.html = "" then return .ok next
    match ← e.toRow sources with
    | .error x => return .error x
    | .ok row => return .ok { next with rows := r.rows ++ [row] }

/-- Take entries into a report. -/
def acceptAll (o : ReportOptions) (sources : Sources) :
    List Entry → Report → LogM (Except Abort Report)
  | [], r => return .ok r
  | e :: rest, r => do
    match ← accept o sources r e with
    | .error x => return .error x
    | .ok r => acceptAll o sources rest r

/-- Take findings into a report (`report_all`). -/
def addAll (o : ReportOptions) (sources : Sources) :
    List Diagnostic → Report → LogM (Except Abort Report)
  | [], r => return .ok r
  | d :: rest, r => do
    match ← d.toEntry sources with
    | .error x => return .error x
    | .ok e =>
      match ← accept o sources r e with
      | .error x => return .error x
      | .ok r => addAll o sources rest r

/-- The counts of a report. -/
def tally (r : Report) : Tally := .ofEntries r.entries

/-- Everything the stream shows, with the last line. -/
def text (o : ReportOptions) (r : Report) : String :=
  r.shown ++ if o.coloured then Terminal.summary r.tally else Plain.summary r.tally

/-- The text of the interchange report. -/
def sarifText (o : ReportOptions) (r : Report) : Except Abort String :=
  match Sarif.text? o.tool o.version r.entries with
  | some text => .ok text
  | none => .error .tooLong

/-- Write the page of a report. -/
def writePage (o : ReportOptions) (r : Report) (fs : FileSystem) : Except Abort FileSystem := do
  let template ← Html.Template.load fs o.template
  fs.write (Path.ofText o.html) (Utf8.ofText (template.render r.rows))

/-- Write the interchange report. -/
def writeSarif (o : ReportOptions) (r : Report) (fs : FileSystem) : Except Abort FileSystem := do
  let text ← r.sarifText o
  fs.write (Path.ofText o.sarif) (Utf8.ofText text)

/-- What came of writing the files of a report. -/
structure Delivery where
  files : FileSystem
  complaints : List String := []
  /-- Why the rest was given up. -/
  stopped : Option Abort := none

namespace Delivery

/-- Try to write a file, unless nothing is to be written or the delivery has stopped. -/
def attempt (d : Delivery) (path kind : String) (write : FileSystem → Except Abort FileSystem) :
    Delivery :=
  if path = "" || d.stopped.isSome then d
  else
    match write d.files with
    | .ok files => { d with files }
    | .error (.file e) =>
      { d with complaints := d.complaints ++ [s!"flogger-lint: failed to write {kind}: {e.text}"] }
    | .error e => { d with stopped := some e }

end Delivery

/-- Write the files of a report (`finish`). -/
def deliver (o : ReportOptions) (r : Report) (fs : FileSystem) : Delivery :=
  ((Delivery.attempt { files := fs } o.sarif "SARIF" (r.writeSarif o)).attempt o.html "HTML"
    (r.writePage o))

end Report

end CauseLint
