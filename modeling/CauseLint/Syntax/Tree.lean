/-!
# Syntax trees

A parsed source is a tree of nodes, each with a kind, a stretch of bytes and the name of the field
it fills in its parent. Trees come from outside as the list of their nodes in pre-order, each with
the number of its children (`Tree.ofRows?`); `Tree.rows` writes that list.

Results:

* `Tree.ofRows?_rows`: a tree is read back from its own rows.
-/

namespace CauseLint

/-- What a node is, its children left aside. -/
structure Label where
  kind : String
  isNamed : Bool := true
  isMissing : Bool := false
  isError : Bool := false
  start : Nat
  stop : Nat
  field : Option String := none
deriving Repr, DecidableEq, Inhabited

/-- A node with its children in source order. -/
inductive Tree where
  | node (label : Label) (children : List Tree)
deriving Repr, Inhabited

namespace Tree

/-- What the root of a tree is. -/
def label : Tree → Label
  | .node l _ => l

/-- The trees below the root. -/
def children : Tree → List Tree
  | .node _ ts => ts

/-- The kind of the root. -/
def kind (t : Tree) : String := t.label.kind

/-- The first byte of the root. -/
def start (t : Tree) : Nat := t.label.start

/-- The byte behind the root. -/
def stop (t : Tree) : Nat := t.label.stop

mutual
/-- The number of nodes of a tree. -/
def size : Tree → Nat
  | .node _ ts => sizes ts + 1

/-- The number of nodes of several trees. -/
def sizes : List Tree → Nat
  | [] => 0
  | t :: ts => size t + sizes ts
end

theorem size_eq (t : Tree) : t.size = sizes t.children + 1 := by
  cases t
  rfl

theorem size_pos (t : Tree) : 0 < t.size := by
  rw [size_eq]
  omega

theorem size_le_sizes {t : Tree} {ts : List Tree} (h : t ∈ ts) : t.size ≤ sizes ts := by
  induction ts with
  | nil => cases h
  | cons u us ih =>
    rw [sizes]
    rcases List.mem_cons.1 h with rfl | h
    · omega
    · have := ih h
      omega

/-- A child has fewer nodes than its parent. -/
theorem size_lt_of_mem {t u : Tree} (h : u ∈ t.children) : u.size < t.size := by
  have := size_le_sizes h
  rw [size_eq t]
  omega

mutual
/-- The labels of a tree in pre-order, each with its number of children. -/
def rows : Tree → List (Label × Nat)
  | .node l ts => (l, ts.length) :: forestRows ts

/-- The rows of several trees, one tree after another. -/
def forestRows : List Tree → List (Label × Nat)
  | [] => []
  | t :: ts => rows t ++ forestRows ts
end

/-- Put a node on top of the trees that follow it, of which the first `n` are its children. -/
def gather (row : Label × Nat) (following : Option (List Tree)) : Option (List Tree) :=
  match following with
  | none => none
  | some ts =>
    let children := ts.take row.2
    if children.length = row.2 then some (.node row.1 children :: ts.drop row.2) else none

/-- The trees whose rows stand one after another. -/
def forestOfRows? (rs : List (Label × Nat)) : Option (List Tree) := rs.foldr gather (some [])

/-- The one tree with these rows. -/
def ofRows? (rs : List (Label × Nat)) : Option Tree :=
  match forestOfRows? rs with
  | some [t] => some t
  | _ => none

mutual
theorem foldr_gather_rows (t : Tree) (ts : List Tree) :
    (rows t).foldr gather (some ts) = some (t :: ts) := by
  match t with
  | .node l us =>
    rw [rows, List.foldr_cons, foldr_gather_forestRows us ts]
    simp [gather]

theorem foldr_gather_forestRows (us ts : List Tree) :
    (forestRows us).foldr gather (some ts) = some (us ++ ts) := by
  match us with
  | [] => rfl
  | u :: us =>
    rw [forestRows, List.foldr_append, foldr_gather_forestRows us ts,
      foldr_gather_rows u (us ++ ts)]
    rfl
end

/-- A tree is read back from its own rows. -/
theorem ofRows?_rows (t : Tree) : ofRows? t.rows = some t := by
  simp [ofRows?, forestOfRows?, foldr_gather_rows]

end Tree

end CauseLint
