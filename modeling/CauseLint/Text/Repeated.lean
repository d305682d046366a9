/-!
# Repeated texts

A text several times over. What a machine cannot count or hold is refused, each with its cause.
-/

namespace CauseLint

/-- Why a text cannot be repeated. -/
inductive Oversize where
  /-- The count is more than a machine counts to. -/
  | count
  /-- The length would be. -/
  | length
  /-- There is no room for so long a text. -/
  | room
deriving Repr, DecidableEq

namespace Oversize

/-- How far a machine counts. -/
def maxCount : Nat := 0x7fffffffffffffff

/-- How long a text can be held. -/
def maxLength : Nat := 0x200000000

/-- The text of the cause. -/
def text : Oversize → String
  | .count => "cannot fit 'int' into an index-sized integer"
  | .length => "repeated string is too long"
  | .room => ""

end Oversize

/-- A text several times over. -/
def repeated (n : Nat) (s : String) : Except Oversize String :=
  if Oversize.maxCount < n then .error .count
  else if Oversize.maxCount < n * s.length then .error .length
  else if Oversize.maxLength < n * s.length then .error .room
  else .ok (String.join (List.replicate n s))

end CauseLint
