import CauseLint.Error
import CauseLint.Log
import CauseLint.Syntax.Cursor
import CauseLint.Table
import CauseLint.Text.Lines

/-!
# Compilation units

A compilation unit is a source with its tree, its package and its imports. The grammar of the
language is not part of this library: a `Parser` supplies the tree of any bytes, and a tree may hold
damaged nodes, which strict reading refuses and lenient reading only notes.
-/

namespace CauseLint

/-- A supplier of trees. -/
abbrev Parser := Bytes → Tree

/-- The text behind the last dot of a name. -/
def lastSegment (name : String) : String :=
  String.ofList (name.toList.reverse.takeWhile (· ≠ '.')).reverse

/-- One parsed source file (`CompilationUnit`). -/
structure SourceUnit where
  path : String
  source : Bytes
  tree : Tree
  package : String := ""
  /-- Simple names with the qualified names they are imported as. -/
  imports : Table String String := {}
  /-- Packages and types whose members are imported on demand. -/
  wildcards : List String := []

namespace SourceUnit

/-- The root of the unit. -/
def root (u : SourceUnit) : Cursor := ⟨u.tree, []⟩

/-- The bytes of a node. -/
def bytesOf (u : SourceUnit) (c : Cursor) : Bytes := (u.source.drop c.start).take (c.stop - c.start)

/-- The text of a node as it is written (`text_of`). -/
def textOf (u : SourceUnit) (c : Cursor) : String := Utf8.toText (u.bytesOf c)

/-- The text of a node that may be absent. -/
def textOf? (u : SourceUnit) (c : Option Cursor) : String := (c.map u.textOf).getD ""

/-- Where a byte offset is. -/
def locationAt (u : SourceUnit) (offset : Nat) : Location :=
  ⟨u.path, rowOf u.source offset + 1, columnOf u.source offset⟩

/-- Where a node begins (`location_of`). -/
def locationOf (u : SourceUnit) (c : Cursor) : Location := u.locationAt c.start

/-- The stretch of a node (`span_of`). -/
def spanOf (u : SourceUnit) (c : Cursor) : SourceSpan where
  file := u.path
  start := c.start
  stop := c.stop
  startLine := rowOf u.source c.start + 1
  startColumn := columnOf u.source c.start
  stopLine := rowOf u.source c.stop + 1
  stopColumn := columnOf u.source c.stop

/-- The calls of the unit in pre-order (`iter_method_invocations`). -/
def invocations (u : SourceUnit) : List Cursor :=
  u.root.preorder.filter (·.kind = "method_invocation")

/-- The damaged and the missing nodes in pre-order (`error_nodes`). -/
def errorNodes (u : SourceUnit) : List Cursor :=
  u.root.preorder.filter fun c => c.focus.label.isError || c.focus.label.isMissing

/-! ## Package and imports -/

/-- The kinds of a possibly dotted name. -/
def nameKinds : List String := ["scoped_identifier", "identifier"]

/-- Read one top-level node into the header of a unit. -/
def readDeclaration (u : SourceUnit) (c : Cursor) : SourceUnit :=
  if c.kind = "package_declaration" then
    match (c.namedChildren.filter fun p => nameKinds.contains p.kind).getLast? with
    | some name => { u with package := u.textOf name }
    | none => u
  else if c.kind = "import_declaration" then
    let isStatic := c.children.any (·.kind = "static")
    let isWildcard := c.children.any (·.kind = "asterisk")
    match c.namedChildren.find? fun p => nameKinds.contains p.kind with
    | none => u
    | some nameNode =>
      let name := u.textOf nameNode
      if isStatic then u
      else if isWildcard then { u with wildcards := u.wildcards ++ [name] }
      else { u with imports := u.imports.insert (lastSegment name) name }
  else u

/-- The unit of a source and its tree, with package and imports filled in (`_read_header`). -/
def ofTree (path : String) (source : Bytes) (tree : Tree) : SourceUnit :=
  let bare : SourceUnit := { path, source, tree }
  bare.root.namedChildren.foldl readDeclaration bare

/-! ## Reading a source -/

/-- The refusal of a damaged source. -/
def syntaxError (path : String) (first : Location) (count : Nat) : LintError :=
  { kind := .javaSyntax
    message := s!"{count} syntax error(s) in {path}"
    location := some first
    count }

/-- Parse a source (`parse_source`). Damage is an error when reading strictly and a warning
otherwise. -/
def parse (parser : Parser) (source : Bytes) (path : String) (strict : Bool) :
    LogM (Except LintError SourceUnit) := do
  let u := ofTree path source (parser source)
  match u.errorNodes with
  | [] => return .ok u
  | first :: rest =>
    let place := u.locationOf first
    let count := rest.length + 1
    if strict then return .error (syntaxError path place count)
    note .warning .source
      s!"{path}: {count} syntax error(s), first at line {place.line}; analysing recovered tree"
    return .ok u

end SourceUnit

end CauseLint
