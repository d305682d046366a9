import CauseLint.Decimal.Written
import CauseLint.Error
import CauseLint.Files.Path
import CauseLint.Text.Repeated
import CauseLint.Text.Utf8

/-!
# Why a run stops

Most failures are noted and a run goes on; the ones here end it.
-/

namespace CauseLint

/-- What is said of an integer that has too many digits to be written. -/
def tooLongText : String :=
  s!"Exceeds the limit ({Decimal.maxDigits} digits) for integer string conversion; " ++
    "use sys.set_int_max_str_digits() to increase the limit"

/-- Why statistics cannot be combined or shown. Kinds of values are given by name. -/
inductive StatError where
  /-- A number came in for a label. -/
  | ontoLabel (kind : String)
  /-- A number came in for a list. -/
  | ontoList (kind : String)
  /-- A number came in for something that nothing can be added to. -/
  | notAddable (old new : String)
  /-- A label stands where a time is to be shown. -/
  | labelAsTime
  /-- Something that is neither a number nor a label stands there. -/
  | otherAsTime (kind : String)
  /-- A whole number lies beyond all doubles. -/
  | tooLarge
  /-- A whole number has too many digits to be written. -/
  | tooLong
deriving Repr, DecidableEq

/-- The text of an error in the statistics. -/
def StatError.text : StatError → String
  | .ontoLabel kind => s!"can only concatenate str (not \"{kind}\") to str"
  | .ontoList kind => s!"'{kind}' object is not iterable"
  | .notAddable old new => s!"unsupported operand type(s) for +=: '{old}' and '{new}'"
  | .labelAsTime => "Unknown format code 'f' for object of type 'str'"
  | .otherAsTime kind => s!"unsupported format string passed to {kind}.__format__"
  | .tooLarge => "int too large to convert to float"
  | .tooLong => tooLongText

/-- Bytes that should have been text but are not. -/
structure Undecodable where
  fault : Utf8.Fault
  /-- The first byte that spells no character. -/
  byte : UInt8
  offset : Nat
  width : Nat
deriving Repr, DecidableEq

/-- The text of the refusal to decode. -/
def Undecodable.text (u : Undecodable) : String :=
  if u.width = 1 then
    let hex := String.ofList (hexDigits 2 u.byte.toNat)
    s!"'utf-8' codec can't decode byte 0x{hex} in position {u.offset}: {u.fault.message}"
  else
    let last := u.offset + u.width - 1
    s!"'utf-8' codec can't decode bytes in position {u.offset}-{last}: {u.fault.message}"

/-- Why a run stops. -/
inductive Abort where
  | lint (error : LintError)
  | file (error : FileError)
  /-- A path holds the character zero. -/
  | zeroByte
  /-- A path begins with the home of an unknown user. -/
  | noHome
  | undecodable (bytes : Undecodable)
  /-- The types of a unit never settle. -/
  | endless
  | stats (error : StatError)
  /-- An integer of a report has too many digits to be written. -/
  | tooLong
  /-- A text of a report would be too long. -/
  | oversize (cause : Oversize)
deriving Repr, DecidableEq

/-- The text of the reason. -/
def Abort.text : Abort → String
  | .lint e => e.text
  | .file e => e.text
  | .zeroByte => "embedded null byte"
  | .noHome => "Could not determine home directory."
  | .undecodable u => u.text
  | .endless => "maximum recursion depth exceeded"
  | .stats e => e.text
  | .tooLong => tooLongText
  | .oversize cause => cause.text

end CauseLint
