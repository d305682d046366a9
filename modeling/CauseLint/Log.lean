/-!
# Logging

Functions that have something to note return it as log entries, oldest first. Which entries are
shown, and how, is decided by whoever runs them.
-/

namespace CauseLint

/-- How important an entry is. -/
inductive Level where
  | debug
  | info
  | warning
  | error
deriving Repr, DecidableEq

namespace Level

/-- Levels in ascending order of importance. -/
def rank : Level → Nat
  | .debug => 10
  | .info => 20
  | .warning => 30
  | .error => 40

/-- The name of a level. -/
def name : Level → String
  | .debug => "DEBUG"
  | .info => "INFO"
  | .warning => "WARNING"
  | .error => "ERROR"

/-- The name of a level cut or filled to five characters. -/
def shortName (l : Level) : String :=
  let cs := l.name.toList.take 5
  String.ofList (cs ++ List.replicate (5 - cs.length) ' ')

end Level

/-- The part of the program that speaks. -/
inductive Channel where
  | source
  | typing
  | matching
  | checking
  | fixing
  | command
deriving Repr, DecidableEq

/-- The name a channel has in the log. -/
def Channel.name : Channel → String
  | .source => "flogger_lint.java_frontend"
  | .typing => "flogger_lint.type_analysis"
  | .matching => "flogger_lint.matchers"
  | .checking => "flogger_lint.checkers"
  | .fixing => "flogger_lint.fixes"
  | .command => "flogger_lint"

/-- One line of the log. -/
structure LogEntry where
  level : Level
  channel : Channel
  message : String
deriving Repr, DecidableEq

/-- Entries, oldest first. -/
abbrev Log := List LogEntry

/-- Computations that add to a log on top of `m`. -/
abbrev LogT (m : Type → Type) := StateT Log m

/-- Computations that only add to a log. -/
abbrev LogM := LogT Id

/-- Add an entry to the log. -/
def note {m : Type → Type} [Monad m] (level : Level) (channel : Channel) (message : String) :
    LogT m Unit := modify (· ++ [⟨level, channel, message⟩])

/-- Run a computation that only adds to a log inside one that can do more. -/
def LogM.lift {m : Type → Type} {α : Type} [Monad m] (x : LogM α) : LogT m α :=
  fun log => pure (x.run log)

/-- The entries at or above a level. -/
def Log.atLeast (log : Log) (level : Level) : Log :=
  log.filter fun e => level.rank ≤ e.level.rank

/-- An entry as a line on the error stream; the clock is not part of the program's work. -/
def LogEntry.line (e : LogEntry) : String :=
  s!"HH:MM:SS [{e.level.shortName}] {e.channel.name}: {e.message}\n"

end CauseLint
