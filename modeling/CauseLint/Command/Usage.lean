import CauseLint.Diagnostic

/-!
# Help

The texts that say how the program is used.
-/

namespace CauseLint

/-- The version of the program. -/
def toolVersion : String := "1.0.0"

/-- Lines, each with its end. -/
def unlines (ls : List String) : String := String.join (ls.map (· ++ "\n"))

/-- How the program is called, in short. -/
def usage : String := unlines
  ["usage: flogger-lint [-h] [--version] [-v] [--output \x7btext,json,gcc,summary\x7d]",
   "                    [--fix | --diff] [--suppress ID [ID ...]]",
   "                    [--exclude GLOB [GLOB ...]] [--sarif FILE] [--html FILE]",
   "                    [--strict-parse] [--list-checkers]",
   "                    [PATH ...]"]

/-- How the program is called, with a line on every option. -/
def help : String := usage ++ unlines
  ["",
   "Find Flogger log(...) calls that pass an exception as a format",
   "argument instead of attaching it with withCause(...).",
   "",
   "positional arguments:",
   "  PATH                  Java files or directories to check.",
   "",
   "options:",
   "  -h, --help            show this help message and exit",
   "  --version             show program's version number and exit",
   "  -v, --verbose         Increase log verbosity (-v INFO, -vv DEBUG).",
   "  --output \x7btext,json,gcc,summary\x7d",
   "                        Output format (default: text).",
   "  --fix                 Rewrite files in place with all suggested fixes",
   "                        applied.",
   "  --diff                Print the suggested fixes as a unified diff.",
   "  --suppress ID [ID ...]",
   "                        Error IDs to suppress everywhere.",
   "  --exclude GLOB [GLOB ...]",
   "                        Skip files whose path or name matches GLOB.",
   "  --sarif FILE          Write a SARIF 2.1.0 report.",
   "  --html FILE           Write an HTML report.",
   "  --strict-parse        Treat Java syntax errors as failures instead of",
   "                        analysing the recovered tree.",
   "  --list-checkers       List available checkers and exit."]

/-- The name and version of the program. -/
def versionLine : String := s!"{toolName} {toolVersion}\n"

/-- The refusal of a command line. -/
def usageError (message : String) : String := usage ++ s!"{toolName}: error: {message}\n"

end CauseLint
