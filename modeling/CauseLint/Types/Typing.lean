import CauseLint.Syntax.Call
import CauseLint.Types.Index

/-!
# Typing expressions

The static type of every expression of a unit. Types are remembered by node; before a type is
computed the node is remembered as untypeable, which cuts the cycle of a variable that is
initialised from itself, and which stays when the computation never ends.

The functions of the first parts take the typing of subexpressions as an argument `typeOf`. They are
tied together in `typeOfBy`, whose depth bounds how many types are under computation at the same
time; these are types of different nodes, so the number of nodes is depth enough. `typeOf` is given
that depth, as if the stack of the interpreter had no end; `typeOfInRoom` makes do with the room that
the index has.
-/

namespace CauseLint

/-- The types found so far. -/
abbrev Memo := Table NodeKey StaticType

/-- Computations with a memo that is kept when they fail. -/
abbrev Typing := ExceptT Endless (StateM Memo)

namespace Index

/-- The type that a type node means. -/
def written (x : Index) (c : Option Cursor) : Typing StaticType :=
  ExceptT.mk (pure (x.writtenType? c))

/-- The least class above all given classes, searched from the first one upwards
(`_least_upper_bound`); `default` when some type is not a class or none is found. -/
def leastUpperBound (h : Hierarchy) (types : List StaticType) (default : String) : StaticType :=
  match types with
  | .cls first _ _ :: others =>
    if others.all StaticType.isClass then
      match (h.ancestors first).find? fun candidate =>
        others.all fun t => h.subtyping t.name candidate = .yes with
      | some found => .ofClass found
      | none => .ofClass default
    else .ofClass default
  | _ => .ofClass default

/-- The type of the class around a node: the innermost class of the unit, or the type that an
anonymous class extends. -/
def enclosingType (x : Index) : List Cursor → Except Endless StaticType
  | [] => .ok .errorType
  | c :: outer =>
    match (if c.declaresClass then x.classAt.get? c.key else none) with
    | some name => .ok (.ofClass name)
    | none =>
      if c.kind = "class_body" then
        match c.parent? with
        | some p =>
          if p.kind = "object_creation_expression" then x.writtenType? (p.childByField? "type")
          else enclosingType x outer
        | none => enclosingType x outer
      else enclosingType x outer

/-- The type of the class around a node (`enclosing_class_type`). -/
def enclosingClassType (x : Index) (c : Cursor) : Typing StaticType :=
  ExceptT.mk (pure (x.enclosingType c.parents))

section OpenRecursion

variable (x : Index) (typeOf : Cursor → Typing StaticType)

/-- The type of an expression that may be absent. -/
def typeOf? (c : Option Cursor) : Typing StaticType :=
  match c with
  | some c => typeOf c
  | none => pure .errorType

/-! ## Variables -/

/-- The type of a declared variable (`_declared_type`): the written type with the brackets behind
the name, or for `var` the type of the initial value. -/
def declaredType (type : Option Cursor) (declarator : Cursor) : Typing StaticType :=
  match type with
  | none => pure .errorType
  | some t =>
    if t.kind = "type_identifier" && x.unit.textOf t = "var" then
      typeOf? typeOf (declarator.childByField? "value")
    else do
      let base ← x.written (some t)
      match declarator.childByField? "dimensions" with
      | some dims => return .arrayOf base (countBrackets (x.unit.textOf dims))
      | none => return base

/-- The declarator of a name in a variable declaration (`_declarator_named`). -/
def declaratorNamed (decl : Cursor) (name : String) : Option Cursor :=
  (decl.childrenByField "declarator").find? fun d =>
    x.unit.textOf? (d.childByField? "name") = name

/-- The last local variable of a name among statements before an offset. All its declarations are
typed on the way. -/
def localVariable (name : String) (offset : Nat) :
    List Cursor → Option StaticType → Typing (Option StaticType)
  | [], found => pure found
  | s :: rest, found =>
    if s.start ≥ offset then pure found
    else if s.kind = "local_variable_declaration" then
      match declaratorNamed x s name with
      | some d => do
        let t ← declaredType x typeOf (s.childByField? "type") d
        localVariable name offset rest (some t)
      | none => localVariable name offset rest found
    else localVariable name offset rest found

/-- The loop variable of a name in the head of a loop. -/
def loopVariable (name : String) : List Cursor → Typing (Option StaticType)
  | [] => pure none
  | init :: rest =>
    if init.kind = "local_variable_declaration" then
      match declaratorNamed x init name with
      | some d => some <$> declaredType x typeOf (init.childByField? "type") d
      | none => loopVariable name rest
    else loopVariable name rest

/-- The variable of a loop over a collection: an element of an array, the first type argument of a
generic class, or the written type. -/
def elementVariable (name : String) (loop : Cursor) : Typing (Option StaticType) :=
  if x.unit.textOf? (loop.childByField? "name") = name then
    let type := loop.childByField? "type"
    match type with
    | some t =>
      if x.unit.textOf t = "var" then do
        match ← typeOf? typeOf (loop.childByField? "value") with
        | .array element _ => return some element
        | .cls _ (first :: _) _ => return some first
        | _ => return some .errorType
      else some <$> x.written type
    | none => some <$> x.written type
  else pure none

/-- The types of several type nodes. -/
def writtenTypes : List Cursor → Typing (List StaticType)
  | [] => pure []
  | c :: cs => do
    let t ← x.written (some c)
    let ts ← writtenTypes cs
    return t :: ts

/-- The parameter of a catch clause (`_catch_param_type`): its type, or the least class above the
alternatives. -/
def caughtVariable (name : String) (clause : Cursor) : Typing (Option StaticType) :=
  match firstOfKind ["catch_formal_parameter"] clause.parts with
  | none => pure none
  | some p =>
    if x.unit.textOf? (p.childByField? "name") = name then
      match firstOfKind ["catch_type"] p.parts with
      | none => pure (some (.ofClass throwableClass))
      | some alternatives => do
        match ← writtenTypes x alternatives.parts with
        | [single] => return some single
        | types => return some (leastUpperBound x.hierarchy types throwableClass)
    else pure none

/-- The resource of a name in a try statement. -/
def resourceVariable (name : String) (resources : List Cursor) : Typing (Option StaticType) :=
  match resources.find? fun r =>
    r.kind = "resource" && x.unit.textOf? (r.childByField? "name") = name with
  | some r => some <$> declaredType x typeOf (r.childByField? "type") r
  | none => pure none

/-- The parameter of a name (`_parameter_type`). An inferred lambda parameter has no type of its
own. -/
def parameter (name : String) : List Cursor → Typing (Option StaticType)
  | [] => pure none
  | p :: rest =>
    if p.kind = "formal_parameter" then
      if x.unit.textOf? (p.childByField? "name") = name then
        some <$> declaredType x typeOf (p.childByField? "type") p
      else parameter name rest
    else if p.kind = "spread_parameter" then
      match firstOfKind ["variable_declarator"] p.parts with
      | some d =>
        if x.unit.textOf? (d.childByField? "name") = name then do
          let type := p.parts.find? fun c =>
            c.kind ≠ "modifiers" && c.kind ≠ "variable_declarator"
          let t ← x.written type
          return some (.arrayOf t 1)
        else parameter name rest
      | none => parameter name rest
    else if p.kind = "identifier" && x.unit.textOf p = name then pure (some .errorType)
    else parameter name rest

/-- The name and the type that a pattern node binds (`_pattern_binding`). -/
def patternBinding? (c : Cursor) : Option (Cursor × Cursor) :=
  let lastTwo (parts : List Cursor) (least : Nat) : Option (Cursor × Cursor) :=
    match parts.reverse with
    | ident :: type :: _ =>
      if least ≤ parts.length && ident.kind = "identifier" then some (ident, type) else none
    | _ => none
  if c.kind = "instanceof_expression" then
    match c.childByField? "name" with
    | some ident => (c.childByField? "right").map fun type => (ident, type)
    | none => lastTwo c.parts 3
  else if c.kind = "type_pattern" || c.kind = "record_pattern_component" then
    lastTwo (c.parts.filter (·.kind ≠ "modifiers")) 2
  else none

/-- The last pattern variable of a name bound before an offset. All its bindings are typed on the
way. -/
def patternVariable (name : String) (offset : Nat) :
    List Cursor → Option StaticType → Typing (Option StaticType)
  | [], found => pure found
  | c :: rest, found =>
    if c.start ≥ offset then patternVariable name offset rest found
    else
      match patternBinding? c with
      | some (ident, type) =>
        if x.unit.textOf ident = name then do
          let t ← x.written (some type)
          patternVariable name offset rest (some t)
        else patternVariable name offset rest found
      | none => patternVariable name offset rest found

/-- The type of a field by the nearest of the given classes that declares it. -/
def fieldAmong (name : String) : List String → Typing (Option StaticType)
  | [] => pure none
  | c :: rest =>
    match (x.classes.get? c).bind fun d => d.fields.get? name with
    | none => fieldAmong name rest
    | some (type, declarator) =>
      if declarator.kind = "enum_constant" then pure (some (.ofClass c))
      else some <$> declaredType x typeOf type declarator

/-- The type of a field of a class or of the classes it descends from (`_field_type`). -/
def fieldType (cls name : String) : Typing (Option StaticType) :=
  fieldAmong x typeOf name (x.hierarchy.ancestors cls)

/-- The first answer of two. -/
def orElse (a b : Typing (Option StaticType)) : Typing (Option StaticType) := do
  match ← a with
  | some t => return some t
  | none => b

/-- The kinds of nodes whose statements declare local variables. -/
def blockKinds : List String :=
  ["block", "constructor_body", "switch_block_statement_group", "program"]

/-- The kinds of nodes with parameters. -/
def parameterisedKinds : List String :=
  ["method_declaration", "constructor_declaration", "lambda_expression"]

/-- The variable of a name that a node around its use binds. -/
def boundBy (name : String) (use scope : Cursor) : Typing (Option StaticType) :=
  if blockKinds.contains scope.kind then localVariable x typeOf name use.start scope.parts none
  else if scope.kind = "for_statement" then
    loopVariable x typeOf name (scope.childrenByField "init")
  else if scope.kind = "enhanced_for_statement" then elementVariable x typeOf name scope
  else if scope.kind = "catch_clause" then caughtVariable x name scope
  else if scope.kind = "try_with_resources_statement" then
    resourceVariable x typeOf name (((scope.childByField? "resources").map Cursor.parts).getD [])
  else if parameterisedKinds.contains scope.kind then
    let bound :=
      match scope.childByField? "parameters" with
      | none => pure none
      | some ps =>
        if ps.kind = "identifier" then
          pure (if x.unit.textOf ps = name then some .errorType else none)
        else parameter x typeOf name ps.parts
    orElse bound (patternVariable x name use.start scope.preorder none)
  else if scope.declaresClass then
    match x.classAt.get? scope.key with
    | some cls => fieldType x typeOf cls name
    | none => pure none
  else pure none

/-- The variable of a name by the innermost of the given nodes that binds it (`lookup_variable`). -/
def variableIn (name : String) (use : Cursor) : List Cursor → Typing (Option StaticType)
  | [] => pure none
  | scope :: outer => orElse (boundBy x typeOf name use scope) (variableIn name use outer)

/-! ## Expressions -/

/-- The kinds of integer literals. -/
def integerKinds : List String :=
  ["decimal_integer_literal", "hex_integer_literal", "octal_integer_literal",
   "binary_integer_literal"]

/-- The kinds of floating point literals. -/
def floatKinds : List String := ["decimal_floating_point_literal", "hex_floating_point_literal"]

/-- The operators that compare or combine truth values. -/
def comparisonOperators : List String := ["==", "!=", "<", ">", "<=", ">=", "&&", "||"]

/-- The names of primitive types. -/
def primitiveNames : List String :=
  ["boolean", "byte", "short", "char", "int", "long", "float", "double"]

/-- Whether a literal ends in one of two letters. -/
def endsIn (c : Cursor) (lower upper : Char) : Bool :=
  match (x.unit.textOf c).toList.getLast? with
  | some l => l = lower || l = upper
  | none => false

/-- The type of a cast (`_t_cast`): the null constant stays null, anything else gets the written
type. -/
def castType (c : Cursor) : Typing StaticType :=
  match (c.childByField? "value").bind Cursor.stripParens with
  | some operand =>
    if operand.kind = "null_literal" then pure .nullType else x.written (c.childByField? "type")
  | none => x.written (c.childByField? "type")

/-- The type of a new array (`_t_new_array`). -/
def newArrayType (c : Cursor) : Typing StaticType := do
  let element ← x.written (c.childByField? "type")
  let dims := total (fun d => countBrackets (x.unit.textOf d)) (c.childrenByField "dimensions")
  return .arrayOf element dims

/-- The type of an identifier (`_t_identifier`): that of the variable in scope, else the class it
names. -/
def identifierType (c : Cursor) : Typing StaticType := do
  let name := x.unit.textOf c
  match ← variableIn x typeOf name c c.parents with
  | some t => return t
  | none =>
    match x.resolveSimple name (some c) with
    | some cls => return (StaticType.ofClass cls).asTypeName
    | none => return .errorType

/-- The type of a field access (`_t_field_access`): the length of an array, a member type, a field,
or a qualified name used as an expression. -/
def fieldAccessType (c : Cursor) : Typing StaticType := do
  let name := x.unit.textOf? (c.childByField? "field")
  let objectType ← typeOf? typeOf (c.childByField? "object")
  let qualified : StaticType :=
    let dotted := x.unit.textOf c
    if x.hierarchy.knows dotted || x.classes.contains dotted then
      (StaticType.ofClass dotted).asTypeName
    else .errorType
  match objectType with
  | .array _ _ => return if name = "length" then .ofPrimitive "int" else qualified
  | .cls cls _ isTypeName =>
    let nested := cls ++ "." ++ name
    if isTypeName && (x.classes.contains nested || x.hierarchy.knows nested) then
      return (StaticType.ofClass nested).asTypeName
    else return (← fieldType x typeOf cls name).getD .errorType
  | _ => return qualified

/-- The first method with a number of parameters, else the first method (`_pick_overload`). -/
def pickOverload (arity : Nat) (methods : List Cursor) : Option Cursor :=
  let fits (m : Cursor) : Bool :=
    let parameters := ((m.childByField? "parameters").map Cursor.parts).getD []
    (parameters.filter (·.kind = "formal_parameter")).length = arity
  match methods.find? fits with
  | some m => some m
  | none => methods.head?

/-- The type that a return entry means for a receiver (`_from_marker`). -/
def markedType (marker : String) (receiver : StaticType) : StaticType :=
  if marker = selfMarker then receiver.asInstance
  else if marker = "void" then .voidType
  else if primitiveNames.contains marker then .ofPrimitive marker
  else .ofClass marker

/-- What a method returns by the nearest of the given classes that has it, in the unit or in the
hierarchy. -/
def returnType (name : String) (arity : Nat) (receiver : StaticType) :
    List String → Typing StaticType
  | [] => pure .errorType
  | c :: rest =>
    match (x.classes.get? c).bind fun d => d.methods.get? name with
    | some methods =>
      x.written ((pickOverload arity methods).bind fun m => m.childByField? "type")
    | none =>
      match (x.hierarchy.get? c).bind fun info => info.methods.get? name with
      | some marker => pure (markedType marker receiver)
      | none => returnType name arity receiver rest

/-- The type of what a call is dispatched on (`receiver_type`): its receiver, else the class around
it. -/
def receiverTypeWith (call : Cursor) : Typing StaticType :=
  match call.object? with
  | some receiver => typeOf receiver
  | none => x.enclosingClassType call

/-- The type of a call (`_t_invocation`). -/
def callType (c : Cursor) : Typing StaticType := do
  match ← receiverTypeWith x typeOf c with
  | .cls cls args isTypeName =>
    returnType x (x.unit.methodName c) c.arguments.length (.cls cls args isTypeName)
      (x.hierarchy.ancestors cls)
  | _ => return .errorType

/-- The type of a choice between values of two types. -/
def joinTypes (h : Hierarchy) (a b : StaticType) : StaticType :=
  if a.isNull then b
  else if b.isNull || a == b then a
  else
    match a, b with
    | .cls m _ _, .cls n _ _ =>
      if h.subtyping m n = .yes then b
      else if h.subtyping n m = .yes then a
      else leastUpperBound h [a, b] objectClass
    | _, _ => .errorType

/-- The type of a choice (`_t_ternary`). -/
def choiceType (c : Cursor) : Typing StaticType := do
  let a ← typeOf? typeOf (c.childByField? "consequence")
  let b ← typeOf? typeOf (c.childByField? "alternative")
  return joinTypes x.hierarchy a b

/-- The type of an element of an array (`_t_array_access`). -/
def elementType (c : Cursor) : Typing StaticType := do
  match ← typeOf? typeOf (c.childByField? "array") with
  | .array element _ => return element
  | _ => return .errorType

/-- The type of a binary operation (`_t_binary`): a truth value, a text when a text is added, else
the type of the left side. -/
def binaryType (c : Cursor) : Typing StaticType := do
  let operator := ((c.childByField? "operator").map Cursor.kind).getD ""
  if comparisonOperators.contains operator then return .ofPrimitive "boolean"
  let left ← typeOf? typeOf (c.childByField? "left")
  let right ← typeOf? typeOf (c.childByField? "right")
  if operator = "+" && (left.name = stringClass || right.name = stringClass) then
    return .ofClass stringClass
  return left

/-- The type of an expression, given the types of others (`_compute`). -/
def compute (c : Cursor) : Typing StaticType :=
  match c.kind with
  | "parenthesized_expression" => typeOf? typeOf c.stripParens
  | "null_literal" => pure .nullType
  | "string_literal" => pure (.ofClass stringClass)
  | "text_block" => pure (.ofClass stringClass)
  | "character_literal" => pure (.ofPrimitive "char")
  | "true" => pure (.ofPrimitive "boolean")
  | "false" => pure (.ofPrimitive "boolean")
  | "class_literal" => pure (.ofClass classClass)
  | "cast_expression" => castType x c
  | "object_creation_expression" => x.written (c.childByField? "type")
  | "array_creation_expression" => newArrayType x c
  | "identifier" => identifierType x typeOf c
  | "this" => x.enclosingClassType c
  | "field_access" => fieldAccessType x typeOf c
  | "method_invocation" => callType x typeOf c
  | "ternary_expression" => choiceType x typeOf c
  | "assignment_expression" => typeOf? typeOf (c.childByField? "left")
  | "array_access" => elementType typeOf c
  | "binary_expression" => binaryType typeOf c
  | "instanceof_expression" => pure (.ofPrimitive "boolean")
  | kind =>
    if integerKinds.contains kind then
      pure (.ofPrimitive (if endsIn x c 'l' 'L' then "long" else "int"))
    else if floatKinds.contains kind then
      pure (.ofPrimitive (if endsIn x c 'f' 'F' then "float" else "double"))
    else pure .errorType

end OpenRecursion

/-! ## The knot -/

/-- The type of an expression (`type_of`), with at most `depth` types under computation. A
computation with room for `n` more works with the index `stage n`. -/
def typeOfBy (stage : Nat → Index) : Nat → Cursor → Typing StaticType
  | 0, c => do
    match (← get).get? c.key with
    | some t => return t
    | none => throw .endless
  | depth + 1, c => do
    match (← get).get? c.key with
    | some t => return t
    | none =>
      modify (·.insert c.key .errorType)
      let t ← compute (stage depth) (typeOfBy stage depth) c
      modify (·.insert c.key t)
      return t

/-- The type of an expression, with at most `depth` types under computation; the depth takes nothing
away from the readings of type nodes. -/
def typeOfWithin (x : Index) : Nat → Cursor → Typing StaticType := typeOfBy fun _ => x

/-- The type of an expression on a stack without end: nothing that ends is refused. -/
def typeOf (x : Index) (c : Cursor) : Typing StaticType := x.typeOfWithin x.unit.tree.size c

/-- The index in another room. -/
def within (x : Index) (room : Nat) : Index := { x with room }

/-- The type of an expression in the room of the index, which typings and readings share: what a
typing asks for has one place less. -/
def typeOfInRoom (x : Index) : Cursor → Typing StaticType := typeOfBy x.within x.room

/-- Whether values of a type belong to a class (`is_subtype`). The null constant belongs to every
class; arrays belong to three. -/
def subtyping (x : Index) (t : StaticType) (root : String) : Subtyping :=
  match t with
  | .null _ => .yes
  | .error _ => .unknown
  | .array _ _ =>
    if [objectClass, "java.lang.Cloneable", "java.io.Serializable"].contains root then .yes else .no
  | .cls name _ _ => x.hierarchy.subtyping name root
  | .primitive _ _ | .void _ => .no

/-- The qualified names of the declared classes in ascending order (`declared_classes`). -/
def declaredClasses (x : Index) : List String := x.classes.keys.mergeSort (· ≤ ·)

end Index

end CauseLint
