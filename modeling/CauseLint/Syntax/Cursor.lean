import CauseLint.Syntax.Tree
import CauseLint.Total

/-!
# Cursors

A cursor is a node in its tree: the subtree it stands on and the nodes above it, innermost first,
each with the position of the child that leads down. From a cursor one can go to the children, to
the parent, and walk the whole subtree.

Results:

* `Cursor.walk` visits a subtree with a stack of cursors still to visit; it ends because the number
  of nodes on the stack shrinks.
* `Cursor.sizes_children`: the children together are one node smaller than the cursor.
-/

namespace CauseLint

/-- A node in its tree. -/
structure Cursor where
  focus : Tree
  above : List (Tree × Nat) := []
deriving Repr, Inhabited

/-- What tells nodes of one tree apart where their types are remembered (`node_key`). -/
structure NodeKey where
  start : Nat
  stop : Nat
  kind : String
deriving Repr, DecidableEq

namespace Cursor

/-! ## At the focus -/

/-- The kind of the node. -/
def kind (c : Cursor) : String := c.focus.kind

/-- The first byte of the node. -/
def start (c : Cursor) : Nat := c.focus.start

/-- The byte behind the node. -/
def stop (c : Cursor) : Nat := c.focus.stop

/-- Whether the node is named. -/
def isNamed (c : Cursor) : Bool := c.focus.label.isNamed

/-- The key of the node. -/
def key (c : Cursor) : NodeKey := ⟨c.start, c.stop, c.kind⟩

/-- The kinds of comments. -/
def commentKinds : List String := ["line_comment", "block_comment", "comment"]

/-- Whether the node is a comment (`is_comment`). -/
def isComment (c : Cursor) : Bool := commentKinds.contains c.kind

/-! ## Going down -/

/-- Cursors on trees that are the children of `c` from position `i` on. -/
def childrenFrom (c : Cursor) (i : Nat) : List Tree → List Cursor
  | [] => []
  | t :: ts => ⟨t, (c.focus, i) :: c.above⟩ :: childrenFrom c (i + 1) ts

/-- The children in source order. -/
def children (c : Cursor) : List Cursor := c.childrenFrom 0 c.focus.children

/-- The named children. -/
def namedChildren (c : Cursor) : List Cursor := c.children.filter (·.isNamed)

/-- The named children that are no comments. -/
def parts (c : Cursor) : List Cursor := c.namedChildren.filter (!·.isComment)

/-- The children that fill a field. -/
def childrenByField (c : Cursor) (field : String) : List Cursor :=
  c.children.filter (·.focus.label.field == some field)

/-- The first child that fills a field. -/
def childByField? (c : Cursor) (field : String) : Option Cursor :=
  c.children.find? (·.focus.label.field == some field)

/-! ## Going up -/

/-- The node above. -/
def parent? (c : Cursor) : Option Cursor :=
  match c.above with
  | [] => none
  | (t, _) :: rest => some ⟨t, rest⟩

/-- The nodes above along a path, innermost first. -/
def parentsOf : List (Tree × Nat) → List Cursor
  | [] => []
  | (t, _) :: rest => ⟨t, rest⟩ :: parentsOf rest

/-- The nodes above, innermost first (`iter_parents`). -/
def parents (c : Cursor) : List Cursor := parentsOf c.above

/-- The place of the node in the pre-order of its tree, the root being zero. -/
def position (c : Cursor) : Nat :=
  total (fun (t, i) => Tree.sizes (t.children.take i) + 1) c.above

/-! ## The whole subtree -/

/-- The number of nodes of several subtrees. -/
def sizes (cs : List Cursor) : Nat := total (·.focus.size) cs

theorem sizes_childrenFrom (c : Cursor) (i : Nat) (ts : List Tree) :
    sizes (c.childrenFrom i ts) = Tree.sizes ts := by
  induction ts generalizing i with
  | nil => rfl
  | cons t ts ih =>
    have := ih (i + 1)
    simp only [sizes, childrenFrom, total_cons, Tree.sizes] at this ⊢
    omega

/-- The children together are one node smaller than the cursor. -/
theorem sizes_children (c : Cursor) : sizes c.children + 1 = c.focus.size := by
  rw [children, sizes_childrenFrom, Tree.size_eq]

theorem sizes_append (cs ds : List Cursor) : sizes (cs ++ ds) = sizes cs + sizes ds := by
  simp [sizes]

theorem sizes_cons (c : Cursor) (cs : List Cursor) : sizes (c :: cs) = c.focus.size + sizes cs := by
  simp [sizes]

/-- Visit the nodes on a stack: the top one first, then what lies below it, then the others. -/
def walk : List Cursor → List Cursor
  | [] => []
  | c :: stack => c :: walk (c.children ++ stack)
termination_by stack => sizes stack
decreasing_by
  rw [sizes_append, sizes_cons, ← sizes_children c]
  omega

/-- The nodes of the subtree in pre-order (`iter_preorder`). -/
def preorder (c : Cursor) : List Cursor := walk [c]

/-! ## Parentheses -/

/-- How many nested parentheses, and how many links of a receiver chain, are looked through. -/
def maxChainDepth : Nat := 256

/-- Unwrap at most `n` parentheses around an expression. -/
def stripParensWithin : Nat → Cursor → Option Cursor
  | n, c =>
    if c.kind = "parenthesized_expression" then
      match n, c.parts with
      | _, [] => none
      | 0, _ => none
      | n + 1, inner :: _ => stripParensWithin n inner
    else some c

/-- The expression inside all parentheses (`strip_parens`); nothing when they are empty or nested
too deep. -/
def stripParens (c : Cursor) : Option Cursor := stripParensWithin maxChainDepth c

end Cursor

end CauseLint
