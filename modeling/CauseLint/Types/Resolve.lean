import CauseLint.Hierarchy.Basic
import CauseLint.Syntax.Unit
import CauseLint.Text.Blank
import CauseLint.Types.Basic

/-!
# Names and written types

An index holds what a unit declares; with it a simple name is resolved from the inside out (the
enclosing classes with their own and inherited member types, the classes of the unit, the imports,
the implicitly imported package, imports on demand), and a type as it is written in the source is
turned into a static type.

A type variable stands for its bound, which may mention type variables again. Readings nested
deeper than the tree has nodes have met one node twice and would never end. An index has room for a
number of readings at once, and reports `Endless` behind it, as an interpreter does whose stack is
used up. By default there is room for as many as the tree has nodes: then the stack is idealised, and
only readings that would never end are refused.
-/

namespace CauseLint

/-- There is no room for a computation, be it that it would never end or that it goes too deep. -/
inductive Endless where
  | endless
deriving Repr, DecidableEq

/-- The kinds of nodes that declare a class. -/
def classKinds : List String :=
  ["class_declaration", "interface_declaration", "enum_declaration", "record_declaration",
   "annotation_type_declaration"]

/-- Whether a node declares a class. -/
def Cursor.declaresClass (c : Cursor) : Bool := classKinds.contains c.kind

/-- A class of the unit with its members (`_DeclaredClass`). -/
structure DeclaredClass where
  node : Cursor
  /-- Each field with the node of its type and the node that declares it. -/
  fields : Table String (Option Cursor × Cursor) := {}
  /-- Each method name with its declarations in source order. -/
  methods : Table String (List Cursor) := {}

/-- What a unit declares, over a hierarchy. -/
structure Index where
  unit : SourceUnit
  hierarchy : Hierarchy
  classes : Table String DeclaredClass := {}
  /-- The classes by the nodes that declare them. -/
  classAt : Table NodeKey String := {}
  /-- How many typings of expressions and readings of type nodes can be under way at once. On the
  stack of an interpreter a typing takes three to seven frames, by what it is that it waits for, and
  a reading one or two; functions that start neither are not counted. -/
  room : Nat := unit.tree.size

namespace Index

/-! ## Names -/

/-- The class that a simple name means as seen from inside a class declaration: the class itself, a
member type, or an inherited member type. -/
def memberType? (x : Index) (name : String) (c : Cursor) : Option String :=
  if c.declaresClass then
    match x.classAt.get? c.key with
    | none => none
    | some outer =>
      if x.unit.textOf? (c.childByField? "name") = name then some outer
      else if x.classes.contains (outer ++ "." ++ name) then some (outer ++ "." ++ name)
      else
        ((x.hierarchy.ancestors outer).tail.map (· ++ "." ++ name)).find? fun inherited =>
          x.classes.contains inherited || x.hierarchy.knows inherited
  else none

/-- The class that a simple name means outside all classes. -/
def topLevelType? (x : Index) (name : String) : Option String :=
  let top := if x.unit.package = "" then name else x.unit.package ++ "." ++ name
  if x.classes.contains top then some top
  else
    match x.unit.imports.get? name with
    | some imported => some imported
    | none =>
      if x.hierarchy.knows ("java.lang." ++ name) then some ("java.lang." ++ name)
      else (x.unit.wildcards.map (· ++ "." ++ name)).find? x.hierarchy.knows

/-- The class that a simple name means as seen from a node (`resolve_simple`). -/
def resolveSimple (x : Index) (name : String) (context : Option Cursor) : Option String :=
  let enclosing := (context.map Cursor.parents).getD []
  match enclosing.findSome? (x.memberType? name) with
  | some found => some found
  | none => x.topLevelType? name

/-- The class that a possibly dotted name means as seen from a node. Type arguments are left aside;
of a dotted name the first part is resolved and the others are appended. -/
def resolve (x : Index) (name : String) (context : Option Cursor) : Option String :=
  let plain := trimWhere isBlank (name.toList.takeWhile (· ≠ '<'))
  let text := String.ofList plain
  if plain.isEmpty then none
  else if plain.contains '.' then
    let first := String.ofList (plain.takeWhile (· ≠ '.'))
    let rest := String.ofList (plain.dropWhile (· ≠ '.'))
    match x.resolveSimple first context with
    | some found => some (found ++ rest)
    | none => if x.hierarchy.knows text || x.classes.contains text then some text else none
  else x.resolveSimple text context

/-! ## Written types -/

/-- How many opening brackets a text has. -/
def countBrackets (s : String) : Nat := s.toList.count '['

/-- The first node of a list with one of the given kinds. -/
def firstOfKind (kinds : List String) (cs : List Cursor) : Option Cursor :=
  cs.find? fun c => kinds.contains c.kind

/-- The type parameter of a name that is in scope at a node, innermost first
(`_type_parameter_bound`). -/
def typeParameter? (u : SourceUnit) (name : String) (context : Cursor) : Option Cursor :=
  context.parents.findSome? fun outer =>
    (((outer.childByField? "type_parameters").map Cursor.parts).getD []).find? fun p =>
      p.kind = "type_parameter" &&
        match firstOfKind ["identifier", "type_identifier"] p.parts with
        | some ident => u.textOf ident = name
        | none => false

/-- The first bound of a type parameter. -/
def firstBound? (parameter : Cursor) : Option Cursor :=
  (firstOfKind ["type_bound"] parameter.parts).bind fun bound => bound.parts.head?

/-- The types of type arguments, given how one type node is read; a wildcard stands for any
object. -/
def argumentTypes (read : Cursor → Except Endless StaticType) :
    List Cursor → Except Endless (List StaticType)
  | [] => .ok []
  | c :: cs => do
    let t ← if c.kind = "wildcard" then .ok (.ofClass objectClass) else read c
    let ts ← argumentTypes read cs
    return t :: ts

/-- The static type that a type node means (`_type_from_node` and `_type_parameter_bound`), with at
most `depth` nested readings. -/
def typeWithin (x : Index) : Nat → Cursor → Except Endless StaticType
  | 0, _ => .error .endless
  | depth + 1, c =>
    if ["integral_type", "floating_point_type", "boolean_type"].contains c.kind then
      .ok (.ofPrimitive (x.unit.textOf c))
    else if c.kind = "void_type" then .ok .voidType
    else if c.kind = "annotated_type" then
      match c.parts.getLast? with
      | some inner => typeWithin x depth inner
      | none => .ok .errorType
    else if c.kind = "array_type" then do
      let element ←
        match c.childByField? "element" with
        | some e => typeWithin x depth e
        | none => .ok .errorType
      return .arrayOf element (countBrackets (x.unit.textOf? (c.childByField? "dimensions")))
    else if c.kind = "generic_type" then do
      let base ←
        match c.parts.find? (·.kind ≠ "type_arguments") with
        | some b => typeWithin x depth b
        | none => .ok .errorType
      let argNodes := ((firstOfKind ["type_arguments"] c.parts).map Cursor.parts).getD []
      let args ← argumentTypes (typeWithin x depth) argNodes
      match base with
      | .cls name _ _ => return .ofClass name args
      | other => return other
    else if c.kind = "type_identifier" then
      let text := x.unit.textOf c
      match typeParameter? x.unit text c with
      | some parameter =>
        match firstBound? parameter with
        | some bound => typeWithin x depth bound
        | none => .ok (.ofClass objectClass)
      | none => .ok (.ofClass ((x.resolveSimple text (some c)).getD text))
    else if c.kind = "scoped_type_identifier" then
      let named := c.children.filter fun d =>
        ["type_identifier", "scoped_type_identifier", "."].contains d.kind
      let plain := String.join (named.map x.unit.textOf)
      .ok (.ofClass ((x.resolve plain (some c)).getD plain))
    else .ok .errorType

/-- The static type that a type node means, in the room of the index. -/
def writtenType (x : Index) (c : Cursor) : Except Endless StaticType := x.typeWithin x.room c

/-- The static type that a type node means; nothing written means no type. -/
def writtenType? (x : Index) (c : Option Cursor) : Except Endless StaticType :=
  match c with
  | some c => x.writtenType c
  | none => .ok .errorType

end Index

end CauseLint
