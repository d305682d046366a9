import CauseLint.Oracle

/-!
# Method matchers

A matcher picks out method calls by the name of the method, by the class their receiver descends
from, and by whether they are dispatched on a value. A call whose receiver cannot be typed matches
no matcher that asks about the receiver.
-/

namespace CauseLint

/-- Conditions on a call (`MethodMatcher`). -/
structure Matcher where
  /-- Refuse calls whose receiver names a class. -/
  instanceOnly : Bool := false
  /-- The class that the receiver must descend from. -/
  owner : Option String := none
  /-- The accepted method names; none means all. -/
  names : List String := []
deriving Repr, DecidableEq

namespace Matcher

/-- The matcher of calls dispatched on a value (`instance_method`). -/
def instanceMethod : Matcher := { instanceOnly := true }

/-- The matcher of all calls (`any_method`). -/
def anyMethod : Matcher := {}

/-- Ask for a receiver that descends from a class (`on_descendant_of`). -/
def onDescendantOf (p : Matcher) (name : String) : Matcher := { p with owner := some name }

/-- Ask for one method name. -/
def named (p : Matcher) (name : String) : Matcher := { p with names := [name] }

/-- Ask for one of several method names (`named_any`). -/
def namedAny (p : Matcher) (names : List String) : Matcher := { p with names }

/-- The matcher as messages show it. -/
def text (p : Matcher) : String :=
  let owner :=
    match p.owner with
    | none => ""
    | some "" => ""
    | some o => s!".onDescendantOf({o})"
  let names := "|".intercalate (p.names.eraseDups.mergeSort (· ≤ ·))
  (if p.instanceOnly then "instanceMethod()" else "anyMethod()") ++ owner ++
    (if p.names.isEmpty then "" else s!".named({names})")

variable {m : Type → Type} [Monad m]

/-- The type of what a call is dispatched on: its receiver without parentheses, else what the oracle
says of the call. -/
def dispatchType (o : Oracle m) (call : Cursor) : m (Except Failure Answer) :=
  match call.object?.bind Cursor.stripParens with
  | some receiver => o.typeOf receiver
  | none => o.receiverType call

/-- Whether the receiver of a call meets the conditions on it. -/
def acceptsReceiver (p : Matcher) (o : Oracle m) (call : Cursor) : m (Except Failure Bool) := do
  match ← dispatchType o call with
  | .error f => return .error f
  | .ok (.stray given) => return .error (.noType given)
  | .ok (.type (.cls name args isTypeName)) =>
    if p.instanceOnly && isTypeName then return .ok false
    else
      match p.owner with
      | none => return .ok true
      | some owner =>
        match ← o.isSubtype (.type (.cls name args isTypeName)) owner with
        | .error f => return .error f
        | .ok answer => return .ok (answer = .yes)
  | .ok (.type _) => return .ok false

/-- Whether an expression is a call that meets every condition (`matches`). -/
def isMatch (p : Matcher) (u : SourceUnit) (o : Oracle m) (c : Option Cursor) : LogT m Bool :=
  match c.bind Cursor.call? with
  | none => return false
  | some call =>
    if !p.names.isEmpty && !p.names.contains (u.methodName call) then return false
    else if !p.instanceOnly && p.owner.isNone then return true
    else do
      match ← StateT.lift (p.acceptsReceiver o call) with
      | .ok answer => return answer
      | .error f =>
        note .debug .matching s!"receiver of {u.shownCall call} unresolved: {f.text}"
        return false

end Matcher

end CauseLint
