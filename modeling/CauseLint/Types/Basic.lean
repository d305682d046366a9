/-!
# Static types

The types that expressions can have. A type also says whether an expression *names* a class, as the
class in front of a static call does, instead of producing a value of it.

Results:

* `StaticType.same_iff`: types are compared structurally, so equality of types is decidable.
-/

namespace CauseLint

/-- A static type (`JavaType`). The flag of each form says whether an expression names the type. -/
inductive StaticType where
  /-- A class, interface, enumeration or record with its type arguments. -/
  | cls (name : String) (args : List StaticType) (isTypeName : Bool)
  | primitive (name : String) (isTypeName : Bool)
  | array (element : StaticType) (isTypeName : Bool)
  /-- The type of the null constant. -/
  | null (isTypeName : Bool)
  | void (isTypeName : Bool)
  /-- No type could be found. -/
  | error (isTypeName : Bool)
deriving Repr, Inhabited

namespace StaticType

/-! ## Equality -/

mutual
/-- Whether two types are the same. -/
def same : StaticType → StaticType → Bool
  | .cls m as b, .cls n bs c => m == n && sameAll as bs && b == c
  | .primitive m b, .primitive n c => m == n && b == c
  | .array s b, .array t c => same s t && b == c
  | .null b, .null c | .void b, .void c | .error b, .error c => b == c
  | _, _ => false

/-- Whether two lists of types are the same. -/
def sameAll : List StaticType → List StaticType → Bool
  | [], [] => true
  | s :: ss, t :: ts => same s t && sameAll ss ts
  | _, _ => false
end

mutual
theorem same_iff : (s t : StaticType) → (same s t = true ↔ s = t)
  | .cls m as b, t => by cases t <;> simp [same, sameAll_iff as, and_assoc]
  | .primitive m b, t => by cases t <;> simp [same]
  | .array s b, t => by cases t <;> simp [same, same_iff s]
  | .null b, t => by cases t <;> simp [same]
  | .void b, t => by cases t <;> simp [same]
  | .error b, t => by cases t <;> simp [same]

theorem sameAll_iff : (ss ts : List StaticType) → (sameAll ss ts = true ↔ ss = ts)
  | [], ts => by cases ts <;> simp [sameAll]
  | s :: ss, ts => by cases ts <;> simp [sameAll, same_iff s, sameAll_iff ss]
end

instance : DecidableEq StaticType := fun s t => decidable_of_iff _ (same_iff s t)

/-! ## Forms -/

/-- Values of a class (`of_class`). -/
def ofClass (name : String) (args : List StaticType := []) : StaticType := .cls name args false

/-- Values of a primitive type (`primitive`). -/
def ofPrimitive (name : String) : StaticType := .primitive name false

/-- The type of the null constant. -/
def nullType : StaticType := .null false

/-- The type of a call without a result. -/
def voidType : StaticType := .void false

/-- The type of what could not be typed. -/
def errorType : StaticType := .error false

/-- An array type with a number of dimensions, at least one (`array_of`). -/
def arrayOf (element : StaticType) (dims : Nat) : StaticType :=
  Nat.repeat (fun t => .array t false) (max dims 1) element

/-- Whether an expression of this type names it. -/
def isTypeName : StaticType → Bool
  | .cls _ _ b | .primitive _ b | .array _ b | .null b | .void b | .error b => b

/-- The type with its flag set. -/
def withTypeName (b : Bool) : StaticType → StaticType
  | .cls n args _ => .cls n args b
  | .primitive n _ => .primitive n b
  | .array e _ => .array e b
  | .null _ => .null b
  | .void _ => .void b
  | .error _ => .error b

/-- The type as named by an expression (`as_type_name`). -/
def asTypeName (t : StaticType) : StaticType := t.withTypeName true

/-- The type of a value (`as_instance`). -/
def asInstance (t : StaticType) : StaticType := t.withTypeName false

/-- The name of a type; an array has none of its own. -/
def name : StaticType → String
  | .cls n _ _ => n
  | .primitive n _ => n
  | .array _ _ => ""
  | .null _ => "null"
  | .void _ => "void"
  | .error _ => "<error>"

/-- The type arguments. -/
def args : StaticType → List StaticType
  | .cls _ as _ => as
  | _ => []

/-- Whether the type is a class type. -/
def isClass : StaticType → Bool
  | .cls _ _ _ => true
  | _ => false

/-- Whether the type is the null type. -/
def isNull : StaticType → Bool
  | .null _ => true
  | _ => false

/-- Whether no type could be found. -/
def isError : StaticType → Bool
  | .error _ => true
  | _ => false

/-- Whether values of the type are references. -/
def isReference : StaticType → Bool
  | .cls _ _ _ | .array _ _ | .null _ => true
  | _ => false

/-- The name of the kind of type. -/
def kindName : StaticType → String
  | .cls _ _ _ => "CLASS"
  | .primitive _ _ => "PRIMITIVE"
  | .array _ _ => "ARRAY"
  | .null _ => "NULL"
  | .void _ => "VOID"
  | .error _ => "ERROR"

mutual
/-- The type as it is written. -/
def text : StaticType → String
  | .array e _ => text e ++ "[]"
  | .cls n [] _ => n
  | .cls n (a :: as) _ => n ++ "<" ++ argsText (a :: as) ++ ">"
  | .primitive n _ => n
  | .null _ => "null"
  | .void _ => "void"
  | .error _ => "<error>"

/-- Type arguments with commas between them. -/
def argsText : List StaticType → String
  | [] => ""
  | [a] => text a
  | a :: as => text a ++ ", " ++ argsText as
end

end StaticType

end CauseLint
