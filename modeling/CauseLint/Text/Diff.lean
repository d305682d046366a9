/-!
# Differences of texts

Two texts are compared line by line. The longest stretch of lines they have in common is kept, and
the same is done with what lies before it and behind it; what is left has changed. A listing shows
the changes in hunks, with up to three unchanged lines around them.

In a long text a line that stands in more than one place in a hundred does not begin a common
stretch; it can only extend one.
-/

namespace CauseLint.Diff

/-- Lines `first ≤ i < last` of one text. -/
structure Span where
  first : Nat
  last : Nat
deriving Repr, DecidableEq

/-- How many lines a span has. -/
def Span.length (s : Span) : Nat := s.last - s.first

/-- `size` equal lines from `left` on in one text and from `right` on in the other. -/
structure Common where
  left : Nat
  right : Nat
  size : Nat
deriving Repr, DecidableEq

variable {α : Type} [DecidableEq α]

/-! ## Common stretches -/

/-- From how many lines on frequent lines are left aside. -/
def longText : Nat := 200

/-- The positions of a line, in ascending order. -/
def positions (text : Array α) (line : α) : List Nat :=
  (List.range text.size).filter fun j => text[j]? = some line

/-- The positions of a line where a common stretch may begin. -/
def starts (text : Array α) (line : α) : List Nat :=
  let all := positions text line
  if longText ≤ text.size && text.size / 100 + 1 < all.length then [] else all

/-- The search for the longest stretch: the best so far, and the lengths of the stretches that end at
the line before, by their ends. -/
structure Search where
  best : Common
  ending : List (Nat × Nat) := []

/-- The length of the stretch that ends right before a position. -/
def Search.before (s : Search) (j : Nat) : Nat :=
  match j with
  | 0 => 0
  | k + 1 => (s.ending.lookup k).getD 0

/-- Look at line `i` of the left text, which also stands at `places` of the right one. -/
def Search.step (s : Search) (i : Nat) (places : List Nat) : Search :=
  let ending := places.map fun j => (j, s.before j + 1)
  let best := ending.foldl (fun (b : Common) (j, k) =>
    if b.size < k then ⟨i + 1 - k, j + 1 - k, k⟩ else b) s.best
  ⟨best, ending⟩

/-- Extend a common stretch backwards, at most `fuel` lines. -/
def extendBack (a b : Array α) (left right : Span) : Nat → Common → Common
  | 0, c => c
  | fuel + 1, c =>
    if left.first < c.left && right.first < c.right && a[c.left - 1]? = b[c.right - 1]? then
      extendBack a b left right fuel ⟨c.left - 1, c.right - 1, c.size + 1⟩
    else c

/-- Extend a common stretch forwards, at most `fuel` lines. -/
def extendForward (a b : Array α) (left right : Span) : Nat → Common → Common
  | 0, c => c
  | fuel + 1, c =>
    if c.left + c.size < left.last && c.right + c.size < right.last &&
        a[c.left + c.size]? = b[c.right + c.size]? then
      extendForward a b left right fuel { c with size := c.size + 1 }
    else c

/-- The longest stretch that two spans have in common; of several the first on the left. -/
def longest (a b : Array α) (places : Array (List Nat)) (left right : Span) : Common :=
  let found := ((List.range' left.first left.length).foldl (fun (s : Search) i =>
    s.step i (((places[i]?).getD []).filter fun j => right.first ≤ j && j < right.last))
    ⟨⟨left.first, right.first, 0⟩, []⟩).best
  extendForward a b left right a.size (extendBack a b left right a.size found)

/-- The common stretches of two spans, at most `fuel` deep. -/
def commonWithin (a b : Array α) (places : Array (List Nat)) : Nat → Span → Span → List Common
  | 0, _, _ => []
  | fuel + 1, left, right =>
    let c := longest a b places left right
    if c.size = 0 then []
    else
      commonWithin a b places fuel ⟨left.first, c.left⟩ ⟨right.first, c.right⟩ ++ [c] ++
      commonWithin a b places fuel ⟨c.left + c.size, left.last⟩ ⟨c.right + c.size, right.last⟩

/-- Join stretches that touch. -/
def joinCommon : List Common → List Common
  | [] => []
  | c :: rest =>
    match joinCommon rest with
    | [] => [c]
    | d :: ds =>
      if c.left + c.size = d.left && c.right + c.size = d.right then
        ⟨c.left, c.right, c.size + d.size⟩ :: ds
      else c :: d :: ds

/-- The common stretches of two texts. -/
def common (a b : Array α) : List Common :=
  let places := a.map (starts b)
  joinCommon (commonWithin a b places a.size ⟨0, a.size⟩ ⟨0, b.size⟩)

/-! ## Changes -/

/-- Lines of the left text that are kept, or become lines of the right text. -/
structure Change where
  kept : Bool
  left : Span
  right : Span
deriving Repr, DecidableEq

/-- The changes from some positions on, given the common stretches behind them. -/
def changesFrom (size size' i j : Nat) : List Common → List Change
  | [] => if i < size || j < size' then [⟨false, ⟨i, size⟩, ⟨j, size'⟩⟩] else []
  | c :: rest =>
    (if i < c.left || j < c.right then [⟨false, ⟨i, c.left⟩, ⟨j, c.right⟩⟩] else []) ++
    ⟨true, ⟨c.left, c.left + c.size⟩, ⟨c.right, c.right + c.size⟩⟩ ::
    changesFrom size size' (c.left + c.size) (c.right + c.size) rest

/-- What becomes of the lines of a text. -/
def changes (a b : Array α) : List Change := changesFrom a.size b.size 0 0 (common a b)

/-! ## Hunks -/

/-- How many unchanged lines are shown around a change. -/
def context : Nat := 3

/-- The last lines of a span. -/
def Span.tail (s : Span) : Span := ⟨max s.first (s.last - context), s.last⟩

/-- The first lines of a span. -/
def Span.head (s : Span) : Span := ⟨s.first, min s.last (s.first + context)⟩

/-- The last lines of an unchanged stretch. -/
def Change.tail (c : Change) : Change :=
  if c.kept then { c with left := c.left.tail, right := c.right.tail } else c

/-- The first lines of an unchanged stretch. -/
def Change.head (c : Change) : Change :=
  if c.kept then { c with left := c.left.head, right := c.right.head } else c

/-- Changes of which the first shows only its last lines and the last only its first ones. -/
def trimEnds (cs : List Change) : List Change :=
  match cs with
  | [] => []
  | c :: rest =>
    match (c.tail :: rest).reverse with
    | [] => []
    | d :: before => (d.head :: before).reverse

/-- Split changes into hunks at long unchanged stretches; `hunk` is the one that has begun. -/
def splitHunks (hunk : List Change) : List Change → List (List Change)
  | [] => if hunk.all (·.kept) then [] else [hunk]
  | c :: rest =>
    if c.kept && 2 * context < c.left.length then
      (hunk ++ [c.head]) :: splitHunks [c.tail] rest
    else splitHunks (hunk ++ [c]) rest

/-- The hunks of a listing. -/
def hunks (cs : List Change) : List (List Change) := splitHunks [] (trimEnds cs)

/-! ## The listing -/

/-- A span in the head of a hunk: its first line, counted from one, and its length unless that is
one; an empty span is placed behind the line before it. -/
def Span.text (s : Span) : String :=
  if s.length = 1 then s!"{s.first + 1}"
  else if s.length = 0 then s!"{s.first},0"
  else s!"{s.first + 1},{s.length}"

/-- The lines of a span behind a mark. -/
def marked (mark : Char) (text : Array (List Char)) (s : Span) : List (List Char) :=
  ((text.toList.drop s.first).take s.length).map (mark :: ·)

/-- The lines of a change. -/
def Change.lines (a b : Array (List Char)) (c : Change) : List (List Char) :=
  if c.kept then marked ' ' a c.left else marked '-' a c.left ++ marked '+' b c.right

/-- The span from the first change of a hunk to its last. -/
def hull (side : Change → Span) (hunk : List Change) : Span :=
  ⟨(hunk.head?.map fun c => (side c).first).getD 0, (hunk.getLast?.map fun c => (side c).last).getD 0⟩

/-- The lines of a hunk. -/
def hunkLines (a b : Array (List Char)) (hunk : List Change) : List (List Char) :=
  let left := (hull (·.left) hunk).text
  let right := (hull (·.right) hunk).text
  s!"@@ -{left} +{right} @@\n".toList :: hunk.flatMap (·.lines a b)

/-- The differences of two texts, given as lines that keep their ends, under two names; nothing when
there are none. -/
def unified (a b : List (List Char)) (leftName rightName : String) : List (List Char) :=
  let a := a.toArray
  let b := b.toArray
  match hunks (changes a b) with
  | [] => []
  | hs => s!"--- {leftName}\n".toList :: s!"+++ {rightName}\n".toList :: hs.flatMap (hunkLines a b)

end CauseLint.Diff
