import CauseLint.Command.Options
import CauseLint.Text.Digit

/-!
# Reading the command line

Arguments that begin with a hyphen are options; a spelling may be cut short as long as only one
option fits, a value may follow it behind an equals sign, and options of one letter may be written
together. The first run of other arguments are the paths; further ones are not understood. Behind
the argument `--` there are no options, and as a value attached to an option it counts as none.
Reading ends early, with a `Stop`, where help or the version is asked for or an argument is refused.
-/

namespace CauseLint

/-- What an argument is. -/
inductive Argument where
  | plain
  /-- The argument behind which there are no options. -/
  | divider
  /-- An option, whether it is spelled with one letter, and the value attached to it. -/
  | option (switch : Switch) (short : Bool) (attached : Option String)
  /-- Something that looks like an option. -/
  | unknown
deriving Repr, DecidableEq

/-- Why reading the command line ends early. -/
inductive Stop where
  | help
  | version
  | refused (message : String)
deriving Repr, DecidableEq

namespace Argument

/-- The text before the first equals sign and the text behind it, if there is one. -/
def cutAtEquals (cs : List Char) : List Char × Option (List Char) :=
  match cs.span (· ≠ '=') with
  | (before, _ :: after) => (before, some after)
  | (before, []) => (before, none)

/-- A text without a line end behind it. -/
def dropLineEnd (cs : List Char) : List Char := if cs.getLast? = some '\n' then cs.dropLast else cs

/-- Whether a text is a negative number; a line end may follow it. -/
def isNegativeNumber (cs : List Char) : Bool :=
  match dropLineEnd cs with
  | '-' :: rest =>
    match rest.span isDecimal with
    | (digits, []) => !digits.isEmpty
    | (_, '.' :: fraction) => !fraction.isEmpty && fraction.all isDecimal
    | _ => false
  | _ => false

/-- The options that a spelling with two hyphens may be the beginning of. -/
def completions (spelling : String) : List (String × Switch) :=
  Switch.table.filter fun (w, _) => spelling.toList.isPrefixOf w.toList

/-- An argument that begins with two hyphens and is no full spelling. -/
def readLong (arg : String) : Except Stop (Option Argument) :=
  let (before, value) := cutAtEquals arg.toList
  match completions (String.ofList before) with
  | [] => .ok none
  | [(_, switch)] => .ok (some (.option switch false (value.map String.ofList)))
  | several =>
    let options := ", ".intercalate (several.map (·.1))
    .error (.refused s!"ambiguous option: {arg} could match {options}")

/-- An argument that begins with one hyphen and is no full spelling. -/
def readShort (arg : String) : Option Argument :=
  let cs := arg.toList
  (Switch.ofSpelling? (String.ofList (cs.take 2))).map fun switch =>
    .option switch true (some (String.ofList (cs.drop 2)))

/-- What an argument is that begins with a hyphen and fits no option. -/
def leftOver (arg : String) : Argument :=
  if isNegativeNumber arg.toList || arg.toList.contains ' ' then .plain else .unknown

/-- Whether a spelling is one of a single letter. -/
def isShort (spelling : List Char) : Bool := spelling.length = 2

/-- What an argument is. -/
def ofText (arg : String) : Except Stop Argument :=
  match arg.toList with
  | '-' :: second :: _ =>
    match Switch.ofSpelling? arg with
    | some switch => .ok (.option switch (isShort arg.toList) none)
    | none =>
      let (before, value) := cutAtEquals arg.toList
      match value, Switch.ofSpelling? (String.ofList before) with
      | some v, some switch => .ok (.option switch (isShort before) (some (String.ofList v)))
      | _, _ => do
        let found ← if second = '-' then readLong arg else .ok (readShort arg)
        return found.getD (leftOver arg)
  | _ => .ok .plain

end Argument

/-- What the arguments are. -/
def classify : List String → Except Stop (List (String × Argument))
  | [] => .ok []
  | arg :: rest =>
    if arg = "--" then .ok ((arg, .divider) :: rest.map fun a => (a, .plain))
    else do
      let kind ← Argument.ofText arg
      return (arg, kind) :: (← classify rest)

/-- What has been read. -/
structure Reading where
  options : Options := {}
  /-- Whether the paths have been read. -/
  pathsRead : Bool := false
  /-- The arguments that are not understood. -/
  extras : List String := []

namespace Reading

/-- The refusal of an option. -/
def refuse {α : Type} (s : Switch) (message : String) : Except Stop α :=
  .error (.refused s!"argument {s.shown}: {message}")

/-- Refuse an option together with another. -/
def exclude (s other : Switch) (given : Bool) : Except Stop Unit :=
  if given then refuse s s!"not allowed with argument {other.shown}" else .ok ()

/-- The choice of a form of output; without a word nothing is shown. -/
def chooseOutput (o : Options) : Option String → Except Stop Options
  | none => .ok { o with output := none }
  | some word =>
    match OutputForm.ofName? word with
    | some form => .ok { o with output := some form }
    | none =>
      let value := quoted word
      let choices := ", ".intercalate (OutputForm.all.map (quoted ·.name))
      refuse .output s!"invalid choice: {value} (choose from {choices})"

/-- Follow an option with its values. -/
def follow (o : Options) (s : Switch) (values : List String) : Except Stop Options :=
  let value := values.head?.getD ""
  match s with
  | .help => .error .help
  | .version => .error .version
  | .verbose => .ok { o with verbosity := o.verbosity + 1 }
  | .output => chooseOutput o values.head?
  | .fix => do
    exclude .fix .diff o.diff
    return { o with fix := true }
  | .diff => do
    exclude .diff .fix o.fix
    return { o with diff := true }
  | .suppress => .ok { o with suppress := values }
  | .exclude => .ok { o with exclude := values }
  | .sarif => .ok { o with sarif := value }
  | .html => .ok { o with html := value }
  | .strictParse => .ok { o with strictParse := true }
  | .listCheckers => .ok { o with listCheckers := true }

/-- The refusal of a value that an option does not take. -/
def ignored {α : Type} (s : Switch) (value : List Char) : Except Stop α :=
  let shown := quoted (String.ofList value)
  refuse s s!"ignored explicit argument {shown}"

/-- The options of one letter written together behind a first one. -/
def cluster (s : Switch) : List Char → Except Stop (List Switch)
  | [] => ignored s []
  | c :: rest =>
    match Switch.ofSpelling? (String.ofList ['-', c]) with
    | none => ignored s (c :: rest)
    | some next =>
      match rest with
      | [] => .ok [s, next]
      | d :: ds => do return s :: (← cluster next (d :: ds))

/-- Follow options without values one after another. -/
def followAll (o : Options) : List Switch → Except Stop Options
  | [] => .ok o
  | s :: rest => do followAll (← follow o s []) rest

/-- Read an option with a value attached to it. -/
def readAttached (r : Reading) (s : Switch) (short : Bool) (value : String) :
    Except Stop Reading :=
  match s.arity with
  | .none =>
    if short then do return { r with options := ← followAll r.options (← cluster s value.toList) }
    else ignored s value.toList
  | _ => do return { r with options := ← follow r.options s ([value].erase "--") }

/-- The plain arguments at the start. -/
def plainRun (rest : List (String × Argument)) : List String :=
  (rest.takeWhile (·.2 = .plain)).map (·.1)

/-- The values that an option takes from the arguments behind it. -/
def valuesFor (s : Switch) (rest : List (String × Argument)) : Except Stop (List String) :=
  let run := plainRun rest
  match s.arity with
  | .none => .ok []
  | .one => if run.isEmpty then refuse s "expected one argument" else .ok (run.take 1)
  | .several => if run.isEmpty then refuse s "expected at least one argument" else .ok run

/-- Read the paths, or note that there are more arguments than are understood. -/
def readPlain (r : Reading) (run : List String) : Reading :=
  if r.pathsRead then { r with extras := r.extras ++ run }
  else { r with pathsRead := true, options := { r.options with paths := run.erase "--" } }

/-- Whether an argument is neither an option nor looks like one. -/
def isPositional : Argument → Bool
  | .plain | .divider => true
  | _ => false

/-- Read arguments one after another. -/
def readFrom (r : Reading) : List (String × Argument) → Except Stop Reading
  | [] => .ok r
  | (arg, .unknown) :: rest => readFrom { r with extras := r.extras ++ [arg] } rest
  | (_, .option s short (some value)) :: rest => do
    readFrom (← r.readAttached s short value) rest
  | (_, .option s _ none) :: rest => do
    let values ← valuesFor s rest
    readFrom { r with options := ← follow r.options s values } (rest.drop values.length)
  | (arg, _) :: rest =>
    let run := arg :: (rest.takeWhile (isPositional ·.2)).map (·.1)
    readFrom (r.readPlain run) (rest.drop (run.length - 1))
termination_by args => args.length

end Reading

/-- Read a command line (`_build_parser`). -/
def readArguments (args : List String) : Except Stop Options := do
  let r ← Reading.readFrom {} (← classify args)
  if r.extras.isEmpty then return r.options
  let extras := " ".intercalate r.extras
  .error (.refused s!"unrecognized arguments: {extras}")

end CauseLint
