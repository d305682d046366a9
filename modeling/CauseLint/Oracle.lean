import CauseLint.Types.Typing

/-!
# Type oracles

The questions about static types that matching and the rule ask. An oracle answers them inside some
monad `m`; it may fail, and where a type is asked for it may give something else. The oracle of an index
remembers types in its state. It comes in two kinds: one never runs out of stack, the other
has the room of its index.
-/

namespace CauseLint

/-- What an oracle may give that is no type. -/
inductive Stray where
  | nothing
  | truth (value : Bool)
  | verdict (value : Subtyping)
deriving Repr, DecidableEq

namespace Stray

/-- What kind of thing it is, as messages name it. -/
def kindName : Stray → String
  | .nothing => "NoneType"
  | .truth _ => "bool"
  | .verdict _ => "Subtyping"

/-- The way it is written. -/
def text : Stray → String
  | .nothing => "None"
  | .truth true => "True"
  | .truth false => "False"
  | .verdict v => s!"Subtyping.{v.name.toUpper}"

end Stray

/-- What an oracle gives where a type is asked for. -/
inductive Answer where
  | type (type : StaticType)
  | stray (value : Stray)

/-- The way an answer is written. -/
def Answer.text : Answer → String
  | .type t => t.text
  | .stray s => s.text

/-- Why an oracle gives no answer. -/
inductive Failure where
  /-- Symbol information is incomplete. -/
  | unresolved (message : String)
  /-- An entry is missing from a table. -/
  | missing (key : String)
  /-- Something else was given where a type is needed. -/
  | noType (given : Stray)
  /-- The computation of a type never ends. -/
  | endless
  /-- Anything else that goes wrong. -/
  | other (message : String)
deriving Repr, DecidableEq

/-- The text of a failure. -/
def Failure.text : Failure → String
  | .unresolved message => LintError.text { kind := .typeResolution, message }
  | .missing key => quoted key
  | .noType given => s!"'{given.kindName}' object has no attribute 'kind'"
  | .endless => "maximum recursion depth exceeded"
  | .other message => message

/-- The type of an answer that is one. -/
def Answer.type? : Answer → Except Failure StaticType
  | .type t => .ok t
  | .stray s => .error (.noType s)

/-- Answers to questions about types (`TypeOracle`). -/
structure Oracle (m : Type → Type) where
  /-- The static type of an expression. -/
  typeOf : Cursor → m (Except Failure Answer)
  /-- The type that a call without a usable receiver is dispatched on. -/
  receiverType : Cursor → m (Except Failure Answer)
  /-- Whether values of a type belong to a class. -/
  isSubtype : Answer → String → m (Except Failure Subtyping)
  /-- Whether a type is the null type. -/
  isNullType : Answer → m (Except Failure Bool)

/-- A typing as the answer of an oracle. -/
def Typing.answer (t : Typing StaticType) : StateM Memo (Except Failure Answer) := do
  match ← t.run with
  | .ok t => return .ok (.type t)
  | .error .endless => return .error .endless

/-- The oracle of an index, given how expressions are typed. It has no answer about what is no
type. -/
def Index.oracleWith (x : Index) (typeOf : Cursor → Typing StaticType) : Oracle (StateM Memo) where
  typeOf c := Typing.answer (typeOf c)
  receiverType c := Typing.answer (x.receiverTypeWith typeOf c)
  isSubtype a root := return a.type?.map (x.subtyping · root)
  isNullType a := return a.type?.map (·.isNull)

/-- The oracle of an index on a stack without end. -/
def Index.oracle (x : Index) : Oracle (StateM Memo) := x.oracleWith x.typeOf

/-- The oracle of an index in its room. -/
def Index.oracleInRoom (x : Index) : Oracle (StateM Memo) := x.oracleWith x.typeOfInRoom

end CauseLint
