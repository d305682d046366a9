import CauseLint.Report.Entry

/-!
# Tallies

How many entries of each severity a report has, and how many of them can be mended.
-/

namespace CauseLint

/-- Counts of entries (`ReporterStats`). -/
structure Tally where
  error : Int := 0
  warning : Int := 0
  style : Int := 0
  information : Int := 0
  fixable : Int := 0
deriving Repr, DecidableEq

namespace Tally

/-- Count an entry (`record`). -/
def add (t : Tally) (e : Entry) : Tally :=
  let counted :=
    match e.severity with
    | .error => { t with error := t.error + 1 }
    | .warning => { t with warning := t.warning + 1 }
    | .style => { t with style := t.style + 1 }
    | .information => { t with information := t.information + 1 }
  if e.realFix?.isSome then { counted with fixable := counted.fixable + 1 } else counted

/-- The counts of some entries. -/
def ofEntries (es : List Entry) : Tally := es.foldl add {}

/-- How many entries there are. -/
def total (t : Tally) : Int := t.error + t.warning + t.style + t.information

/-- A count with its word, unless it is zero. -/
def part (n : Int) (word plural : String) : List String :=
  if n = 0 then [] else if n = 1 then [s!"{n} {word}"] else [s!"{n} {word}{plural}"]

/-- The last line of a report (`summary_line`). -/
def summary (t : Tally) : String :=
  let parts := part t.error "error" "s" ++ part t.warning "warning" "s" ++ part t.style "style" "" ++
    part t.information "info" ""
  if parts.isEmpty then "no diagnostics emitted"
  else
    let all := "; ".intercalate parts
    s!"{all} ({t.total} total)" ++
      (if t.fixable = 0 then "" else s!", {t.fixable} fixable with --fix")

/-- The last line for any counts, if the counts and their total can be written. -/
def summary? (t : Tally) : Option String :=
  if [t.error, t.warning, t.style, t.information, t.total, t.fixable].all Decimal.isWritable then
    some t.summary
  else none

end Tally

end CauseLint
