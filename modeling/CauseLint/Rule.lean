import CauseLint.Edit
import CauseLint.Matcher

/-!
# Log statements without their cause

The rule finds calls of `log` on the fluent logging interface that pass a throwable as a format
argument although no `withCause` comes before in the chain, and suggests attaching the argument
right behind the receiver of the call. No failure of the oracle stops it: a question that fails
counts as "does not match" for the candidate it was asked about.
-/

namespace CauseLint

namespace Rule

/-- The identifier of the rule's findings. -/
def errorId : String := "FloggerWithoutCause"

/-- What the rule asks for. -/
def summary : String := "Use withCause to associate Exceptions with log statements"

/-- Calls that emit a log statement. -/
def logMethod : Matcher := (Matcher.instanceMethod.onDescendantOf loggingApi).named "log"

/-- Calls that attach a cause to a log statement. -/
def withCauseMethod : Matcher := (Matcher.instanceMethod.onDescendantOf loggingApi).named "withCause"

end Rule

/-- What the rule looks at (`VisitorState`): a unit, an oracle for it, and the way nodes are
shown. -/
structure Subject (m : Type → Type) where
  unit : SourceUnit
  oracle : Oracle m
  render : Cursor → String := unit.textOf

/-- A log statement that lacks its cause (`MatchResult`). -/
structure Match where
  /-- The call of `log`. -/
  anchor : Cursor
  fix : Fix
  /-- The throwable among its arguments. -/
  argument : Cursor

namespace Rule

variable {m : Type → Type} [Monad m]

/-- Whether an expression emits a log statement (`matches_log_entry_point`). -/
def isLogCall (s : Subject m) (c : Option Cursor) : LogT m Bool := logMethod.isMatch s.unit s.oracle c

/-- Whether an expression attaches a cause (`matches_cause_attachment`). -/
def isCauseCall (s : Subject m) (c : Option Cursor) : LogT m Bool :=
  withCauseMethod.isMatch s.unit s.oracle c

/-- Whether an argument is known to be a throwable and not the null constant. An oracle that gives
nothing for it does not know. -/
def isThrowable (o : Oracle m) (arg : Cursor) : m (Except Failure Bool) := do
  match ← o.typeOf arg with
  | .error f => return .error f
  | .ok (.stray .nothing) => return .ok false
  | .ok t =>
    match ← o.isNullType t with
    | .error f => return .error f
    | .ok true => return .ok false
    | .ok false =>
      match ← o.isSubtype t throwableClass with
      | .error f => return .error f
      | .ok answer => return .ok (answer = .yes)

/-- The first throwable of a list of arguments; an argument that cannot be judged is skipped. -/
def firstThrowable (s : Subject m) : List Cursor → LogT m (Option Cursor)
  | [] => return none
  | arg :: rest => do
    match ← StateT.lift (isThrowable s.oracle arg) with
    | .ok true => return some arg
    | .ok false => firstThrowable s rest
    | .error f =>
      note .debug .checking s!"skipping argument {quoted (s.render arg)}: {f.text}"
      firstThrowable s rest

/-- The rightmost argument of a call that is a throwable (`find_exception_argument`). -/
def exceptionArgument (s : Subject m) (call : Cursor) : LogT m (Option Cursor) :=
  firstThrowable s call.arguments.reverse

/-- Whether one of some chain links attaches a cause. -/
def anyCause (s : Subject m) : List Cursor → LogT m Bool
  | [] => return false
  | link :: rest => do
    if ← isCauseCall s (some link) then return true
    anyCause s rest

/-- Whether the receiver chain of a call attaches a cause (`chain_already_has_cause`). A chain that
is too long is searched up to a depth, with a warning when nothing was found. -/
def chainHasCause (s : Subject m) (call : Cursor) : LogT m Bool := do
  let (links, cut) := call.receivers Cursor.maxChainDepth
  if ← anyCause s links then return true
  noteTruncated Cursor.maxChainDepth cut
  return false

/-- The fix of a call (`build_fix`): attach the argument right behind the receiver. -/
def buildFix? (s : Subject m) (call argument : Cursor) : Option Fix :=
  call.object?.map fun receiver =>
    let text := s.render argument
    Fix.insertAfter receiver.stop s!".withCause({text})" s!"attach {text} with withCause"

/-- The text of the refusal to fix a call without a receiver. -/
def noReceiverMessage (u : SourceUnit) (call : Cursor) : String :=
  s!"{u.shownCall call} has no receiver to attach a cause to"

/-- Judge one expression. -/
def evaluate (s : Subject m) (c : Option Cursor) : LogT m (Option Match) :=
  match c.bind Cursor.call? with
  | none => return none
  | some call => do
    if !(← isLogCall s (some call)) then return none
    match ← exceptionArgument s call with
    | none => return none
    | some argument =>
      let place := (s.unit.locationOf call).text
      if ← chainHasCause s call then
        note .debug .checking s!"{place}: cause already attached"
        return none
      match buildFix? s call argument with
      | none =>
        note .debug .checking s!"{place}: log call without receiver, no fix anchor"
        return none
      | some fix =>
        note .debug .checking s!"{place}: {fix.text}"
        return some ⟨call, fix, argument⟩

/-- The matches among some calls, in order. -/
def matchesAmong (s : Subject m) : List Cursor → LogT m (List Match)
  | [] => return []
  | c :: rest => do
    match ← evaluate s (some c) with
    | some found => return found :: (← matchesAmong s rest)
    | none => matchesAmong s rest

/-- The matches of a unit in pre-order. -/
def findAll (s : Subject m) : LogT m (List Match) := matchesAmong s s.unit.invocations

end Rule

end CauseLint
