import CauseLint.Rule
import CauseLint.Run.Results

/-!
# Checkers

A checker looks at one unit and says what it found. It may keep statistics, and it may fail, in
which case what it counted before stays counted.
-/

namespace CauseLint

/-- What a checker looks at (`CheckerContext`): a unit with an oracle that remembers types. -/
structure Inspection where
  unit : SourceUnit
  oracle : Oracle (StateM Memo)

/-- The work of a checker: it can fail with a message, count, log and ask for types. -/
abbrev Inspecting := ExceptT String (StateT Stats (LogT (StateM Memo)))

/-- A checker. -/
structure Checker where
  name : String
  /-- The kind of checker, shown with its name. -/
  kind : String
  description : String := ""
  errorIds : List String := []
  inspect : Inspection → Inspecting (List Diagnostic)

/-- A checker as messages show it. -/
def Checker.shown (c : Checker) : String := s!"<{c.kind} '{c.name}'>"

/-- The finding for a match of the rule (`_emit`). -/
def Match.toDiagnostic (u : SourceUnit) (found : Match) (checker : String) : Diagnostic :=
  let span := u.spanOf found.anchor
  let argument := u.textOf found.argument
  { errorId := Rule.errorId
    message := Rule.summary
    severity := .warning
    location := span.startLocation
    stop := some span.stopLocation
    confidence := .high
    checker
    extra := argument
    fix := some found.fix
    evidence := [("exception", .str argument), ("replacement", .str found.fix.text),
      ("offset", .int found.fix.offset)] }

/-- The name of the checker for log statements without their cause. -/
def causeCheckerName : String := "flogger-without-cause"

/-- Look for log statements without their cause (`diagnose`). -/
def findMissingCauses (i : Inspection) : Inspecting (List Diagnostic) := do
  let found ← (Rule.findAll { unit := i.unit, oracle := i.oracle } : LogT (StateM Memo) (List Match))
  modify (·.insert (causeCheckerName ++ "_candidates") (.amount (.whole found.length)))
  return found.map (·.toDiagnostic i.unit causeCheckerName)

/-- The checker for log statements without their cause (`FloggerWithoutCauseChecker`). -/
def causeChecker : Checker where
  name := causeCheckerName
  kind := "FloggerWithoutCauseChecker"
  description := Rule.summary
  errorIds := [Rule.errorId]
  inspect := findMissingCauses

/-- Checkers by name (`CheckerRegistry`). -/
abbrev Registry := Table String Checker

namespace Registry

/-- The registry of some checkers; of two with one name the later counts. -/
def ofCheckers (cs : List Checker) : Registry := Table.ofList (cs.map fun c => (c.name, c))

/-- The checkers that come with the program. -/
def standard : Registry := ofCheckers [causeChecker]

/-- The names of all checkers in ascending order. -/
def names (r : Registry) : List String := r.keys.mergeSort (· ≤ ·)

/-- The checkers of some names, with the names that are unknown (`_select`); without names all
checkers. -/
def select (r : Registry) (chosen : Option (List String)) : List Checker × List String :=
  match chosen with
  | none => (r.values, [])
  | some names => (names.filterMap r.get?, names.filter (!r.contains ·))

end Registry

end CauseLint
