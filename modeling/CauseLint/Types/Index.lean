import CauseLint.Log
import CauseLint.Types.Resolve

/-!
# Indexing a unit

The index of a unit is built in three passes over its tree: the names of the declared classes, then
their supertypes and members, which may use every declared name, and last the classes that are
caught or declared as thrown, which count as throwable even when nothing else is known of them.
-/

namespace CauseLint.Index

/-! ## Declared names -/

/-- The kinds of nodes whose classes cannot be named from outside. -/
def localKinds : List String :=
  ["method_declaration", "constructor_declaration", "object_creation_expression",
   "lambda_expression"]

/-- The names of the classes around a node, innermost first; nothing when the node is local to a
method, a lambda or an anonymous class, or when a class has no name. -/
def enclosingNames (u : SourceUnit) : List Cursor → Option (List String)
  | [] => some []
  | c :: outer =>
    if c.declaresClass then
      match c.childByField? "name" with
      | none => none
      | some name => (enclosingNames u outer).map (u.textOf name :: ·)
    else if localKinds.contains c.kind then none
    else enclosingNames u outer

/-- The qualified name of a class declaration (`_qualified_name`). -/
def qualifiedName (u : SourceUnit) (decl : Cursor) : Option String :=
  match decl.childByField? "name" with
  | none => none
  | some name =>
    (enclosingNames u decl.parents).map fun outer =>
      let names := (u.textOf name :: outer).reverse
      ".".intercalate (if u.package = "" then names else u.package :: names)

/-- The class declarations of a unit with their qualified names, in pre-order. -/
def declarations (u : SourceUnit) : List (Cursor × String) :=
  (u.root.preorder.filter Cursor.declaresClass).filterMap fun c =>
    (qualifiedName u c).map fun name => (c, name)

/-- The index that knows the names of the declared classes only. -/
def ofNames (u : SourceUnit) (parent : Hierarchy) (room : Nat := u.tree.size) : Index :=
  (declarations u).foldl
    (fun x (c, name) =>
      { x with
        classes := x.classes.insert name { node := c }
        classAt := x.classAt.insert c.key name })
    { unit := u, hierarchy := parent.child, room }

/-! ## Supertypes -/

/-- The type nodes in the extends and implements clauses of a declaration. -/
def supertypeNodes (decl : Cursor) : List Cursor :=
  decl.children.flatMap fun c =>
    if c.kind = "superclass" then c.parts
    else if c.kind = "super_interfaces" || c.kind = "extends_interfaces" then
      c.parts.flatMap fun list => if list.kind = "type_list" then list.parts else [list]
    else []

/-- The supertype that a declaration has without naming it. -/
def impliedSupertype (decl : Cursor) : List String :=
  if decl.kind = "enum_declaration" then ["java.lang.Enum"]
  else if decl.kind = "record_declaration" then ["java.lang.Record"]
  else if decl.kind = "class_declaration" && !decl.children.any (·.kind = "superclass") then
    [objectClass]
  else []

/-- The names of the class types among some type nodes. -/
def classNames (x : Index) : List Cursor → Except Endless (List String)
  | [] => .ok []
  | c :: cs => do
    let t ← x.writtenType c
    let rest ← classNames x cs
    match t with
    | .cls name _ _ => return name :: rest
    | _ => return rest

/-- The direct supertypes of a declaration (`_declared_supertypes`). -/
def declaredSupertypes (x : Index) (decl : Cursor) : Except Endless (List String) := do
  let named ← classNames x (supertypeNodes decl)
  return impliedSupertype decl ++ named

/-! ## Members -/

/-- Add the variables of a field declaration. -/
def addFields (u : SourceUnit) (d : DeclaredClass) (member : Cursor) : DeclaredClass :=
  match member.childByField? "type" with
  | none => d
  | some type =>
    (member.childrenByField "declarator").foldl
      (fun d v =>
        let name := u.textOf? (v.childByField? "name")
        if name = "" then d else { d with fields := d.fields.insert name (some type, v) })
      d

/-- Add a method declaration. -/
def addMethod (u : SourceUnit) (d : DeclaredClass) (member : Cursor) : DeclaredClass :=
  { d with
    methods := d.methods.update (u.textOf? (member.childByField? "name")) [] (· ++ [member]) }

/-- Add a member from behind the constants of an enumeration (`_index_members_of_body`). -/
def addBodyMember (u : SourceUnit) (d : DeclaredClass) (member : Cursor) : DeclaredClass :=
  if member.kind = "field_declaration" then addFields u d member
  else if member.kind = "method_declaration" then addMethod u d member
  else d

/-- Add a member of a class body. -/
def addMember (u : SourceUnit) (d : DeclaredClass) (member : Cursor) : DeclaredClass :=
  if member.kind = "field_declaration" || member.kind = "constant_declaration" then
    addFields u d member
  else if member.kind = "method_declaration" then addMethod u d member
  else if member.kind = "enum_body_declarations" then member.parts.foldl (addBodyMember u) d
  else d

/-- Add the constants of an enumeration as fields. -/
def addConstants (u : SourceUnit) (decl : Cursor) (body : List Cursor) (d : DeclaredClass) :
    DeclaredClass :=
  if decl.kind = "enum_declaration" then
    (body.filter (·.kind = "enum_constant")).foldl
      (fun d c =>
        { d with
          fields := d.fields.insert (u.textOf? (c.childByField? "name")) (some decl, c) })
      d
  else d

/-- Add the components of a record as fields. -/
def addComponents (u : SourceUnit) (decl : Cursor) (d : DeclaredClass) : DeclaredClass :=
  if decl.kind = "record_declaration" then
    let parameters := ((decl.childByField? "parameters").map Cursor.parts).getD []
    (parameters.filter (·.kind = "formal_parameter")).foldl
      (fun d p =>
        { d with
          fields := d.fields.insert (u.textOf? (p.childByField? "name"))
            (p.childByField? "type", p) })
      d
  else d

/-- Add all members of a declaration (`_index_members`). -/
def addMembers (u : SourceUnit) (decl : Cursor) (d : DeclaredClass) : DeclaredClass :=
  let body := ((decl.childByField? "body").map Cursor.parts).getD []
  addComponents u decl (addConstants u decl body (body.foldl (addMember u) d))

/-! ## The three passes -/

/-- Whether a declaration is an interface. -/
def isInterface (decl : Cursor) : Bool :=
  decl.kind = "interface_declaration" || decl.kind = "annotation_type_declaration"

/-- Fill in supertypes and members of the declared classes, one after another. -/
def addDeclarations : List (Cursor × String) → Index → Except Endless Index
  | [], x => .ok x
  | (c, name) :: rest, x => do
    let supers ← declaredSupertypes x c
    addDeclarations rest
      { x with
        hierarchy := x.hierarchy.declare { name, supertypes := supers, isInterface := isInterface c }
        classes := x.classes.update name { node := c } (addMembers x.unit c) }

/-- The type nodes in catch and throws clauses, in pre-order. -/
def thrownNodes (u : SourceUnit) : List Cursor :=
  (u.root.preorder.filter fun c => c.kind = "catch_type" || c.kind = "throws").flatMap Cursor.parts

/-- Declare classes that nothing is known of, but that are caught or thrown, as throwable. -/
def addThrown : List Cursor → Index → Except Endless Index
  | [], x => .ok x
  | c :: rest, x => do
    match ← x.writtenType c with
    | .cls name _ _ =>
      if x.hierarchy.knows name then addThrown rest x
      else
        addThrown rest
          { x with hierarchy := x.hierarchy.declare { name, supertypes := [throwableClass] } }
    | _ => addThrown rest x

/-- The index of a unit over a hierarchy (`_index`), made and used in some room. -/
def build (u : SourceUnit) (parent : Hierarchy) (room : Nat := u.tree.size) :
    Except Endless Index := do
  let named := ofNames u parent room
  let declared ← addDeclarations (declarations u) named
  addThrown (thrownNodes u) declared

/-- Build the index of a unit and note how many classes it declares. -/
def buildLogged (u : SourceUnit) (parent : Hierarchy) (room : Nat := u.tree.size) :
    LogM (Except Endless Index) := do
  match build u parent room with
  | .error e => return .error e
  | .ok x =>
    note .debug .typing s!"{u.path}: indexed {x.classes.size} declared type(s)"
    return .ok x

end CauseLint.Index
