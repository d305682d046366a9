/-!
# Glob patterns

Patterns for whole names: `*` stands for any characters, `?` for one, and a bracket for one
character of a set. A bracket without its end is an ordinary character. Inside a bracket a leading
`!` asks for a character outside the set, a hyphen between two characters makes a range, and a range
that runs backwards is dropped together with its two ends.

Results:

* `Glob.matchesTokens_iff`: the matcher accepts exactly the texts that a pattern stands for.
-/

namespace CauseLint.Glob

/-! ## Sets of characters -/

/-- A character or a range of characters in a bracket. -/
structure Span where
  first : Char
  last : Char
deriving Repr, DecidableEq

/-- The characters a bracket stands for. -/
structure CharSet where
  negated : Bool
  spans : List Span
deriving Repr, DecidableEq

/-- Whether a set holds a character. -/
def CharSet.contains (s : CharSet) (c : Char) : Bool :=
  s.negated != s.spans.any (fun r => r.first ≤ c && c ≤ r.last)

/-- The set of one character. -/
def CharSet.single (c : Char) : CharSet := ⟨false, [⟨c, c⟩]⟩

/-- The set of all characters. -/
def CharSet.all : CharSet := ⟨true, []⟩

/-- Cut the inside of a bracket at the hyphens that make ranges. A hyphen counts from position
`wait` on, and the next one counts only behind the character that ends the range. -/
def cutAtHyphens (wait : Nat) (piece : List Char) : List Char → List (List Char)
  | [] => [piece.reverse]
  | c :: cs =>
    match wait with
    | wait + 1 => cutAtHyphens wait (c :: piece) cs
    | 0 =>
      if c = '-' then piece.reverse :: cutAtHyphens 2 [] cs else cutAtHyphens 0 (c :: piece) cs

/-- A hyphen at the very end of a bracket is an ordinary character. -/
def keepLastHyphen (pieces : List (List Char)) : List (List Char) :=
  match pieces.reverse with
  | [] :: p :: rest => ((p ++ ['-']) :: rest).reverse
  | _ => pieces

/-- Join neighbouring pieces whose range would run backwards, the ends of the range left out. -/
def dropBackwardRanges : List (List Char) → List (List Char)
  | [] => []
  | p :: ps =>
    match dropBackwardRanges ps with
    | [] => [p]
    | q :: qs =>
      match p.getLast?, q with
      | some hi, lo :: tail => if hi > lo then (p.dropLast ++ tail) :: qs else p :: q :: qs
      | _, _ => p :: q :: qs

/-- The spans of the pieces: single characters, and a range across each cut. -/
def spansOf : List (List Char) → List Span
  | [] => []
  | [p] => p.map fun c => ⟨c, c⟩
  | p :: ps =>
    match p.getLast?, spansOf ps with
    | some first, ⟨_, last⟩ :: rest => (p.dropLast.map fun c => ⟨c, c⟩) ++ ⟨first, last⟩ :: rest
    | none, rest => ⟨'-', '-'⟩ :: rest
    | some first, [] => (p.map fun c => ⟨c, c⟩) ++ [⟨first, first⟩]

/-- The set that the inside of a bracket stands for. -/
def CharSet.ofBody (body : List Char) : CharSet :=
  let pieces :=
    if body.contains '-' then
      dropBackwardRanges (keepLastHyphen (cutAtHyphens (if body.head? = some '!' then 2 else 1) [] body))
    else [body]
  match pieces with
  | ('!' :: p) :: rest => ⟨true, spansOf (p :: rest)⟩
  | _ => ⟨false, spansOf pieces⟩

/-! ## Patterns -/

/-- One part of a pattern. -/
inductive Token where
  /-- Any characters, also none. -/
  | star
  /-- One character of a set. -/
  | one (set : CharSet)
deriving Repr, DecidableEq

/-- Split what follows an opening bracket at its closing one, which a `!` and then a `]` at the
front do not count as. -/
def splitBody (cs : List Char) : Option (List Char × List Char) :=
  let lead := if cs.head? = some '!' then 1 else 0
  let lead := if cs[lead]? = some ']' then lead + 1 else lead
  match (cs.drop lead).dropWhile (· ≠ ']') with
  | [] => none
  | _ :: rest => some (cs.take lead ++ (cs.drop lead).takeWhile (· ≠ ']'), rest)

theorem length_dropWhile_le {α : Type} (p : α → Bool) (l : List α) :
    (l.dropWhile p).length ≤ l.length := (l.dropWhile_sublist p).length_le

theorem length_of_splitBody {cs body rest : List Char} (h : splitBody cs = some (body, rest)) :
    rest.length < cs.length + 1 := by
  unfold splitBody at h
  simp only at h
  split at h
  · simp at h
  · rename_i c r hd
    injection h with h
    injection h with _ h2
    subst h2
    have h1 := congrArg List.length hd
    have h2 := length_dropWhile_le (fun x : Char => decide (x ≠ ']'))
      (cs.drop (if cs[if cs.head? = some '!' then 1 else 0]? = some ']' then
        (if cs.head? = some '!' then 1 else 0) + 1 else if cs.head? = some '!' then 1 else 0))
    simp only [List.length_cons, List.length_drop] at h1 h2
    omega

/-- The parts of a pattern. -/
def tokens : List Char → List Token
  | [] => []
  | c :: cs =>
    if c = '*' then .star :: tokens cs
    else if c = '?' then .one .all :: tokens cs
    else if c = '[' then
      match _h : splitBody cs with
      | none => .one (.single '[') :: tokens cs
      | some (body, rest) => .one (.ofBody body) :: tokens rest
    else .one (.single c) :: tokens cs
termination_by cs => cs.length
decreasing_by
  all_goals first
    | exact length_of_splitBody _h
    | simp

/-- The texts that the parts of a pattern stand for. -/
inductive Denotes : List Token → List Char → Prop
  | done : Denotes [] []
  | one {set : CharSet} {ts : List Token} {c : Char} {cs : List Char} :
      set.contains c = true → Denotes ts cs → Denotes (.one set :: ts) (c :: cs)
  | star {ts : List Token} {cs : List Char} (skipped : List Char) :
      Denotes ts cs → Denotes (.star :: ts) (skipped ++ cs)

/-! ## Matching

A row tells, for every tail of the parts from the longest on, whether it stands for some text. The
row of a text follows from the row of the text without its first character, so the work grows with
the product of the lengths of pattern and text. -/

/-- The row of the empty text. -/
def emptyRow : List Token → List Bool
  | [] => [true]
  | t :: ts =>
    let rest := emptyRow ts
    (t = .star && rest.headD false) :: rest

/-- The row of a text with the character `c` before it, from the row of the text. -/
def nextRow (c : Char) : List Token → List Bool → List Bool
  | [], _ => [false]
  | t :: ts, row =>
    let rest := nextRow c ts row.tail
    let here :=
      match t with
      | .star => rest.headD false || row.headD false
      | .one set => set.contains c && row.tail.headD false
    here :: rest

/-- The row of a text. -/
def textRow (ts : List Token) (cs : List Char) : List Bool := cs.foldr (nextRow · ts) (emptyRow ts)

/-- Whether the parts match a whole text. -/
def matchesTokens (ts : List Token) (cs : List Char) : Bool := (textRow ts cs).headD false

theorem denotes_nil_iff (cs : List Char) : Denotes [] cs ↔ cs = [] :=
  ⟨fun h => by cases h; rfl, fun h => h ▸ .done⟩

theorem not_denotes_one_nil (set : CharSet) (ts : List Token) : ¬ Denotes (.one set :: ts) [] := by
  intro h
  cases h

theorem denotes_one_cons_iff (set : CharSet) (ts : List Token) (c : Char) (cs : List Char) :
    Denotes (.one set :: ts) (c :: cs) ↔ set.contains c = true ∧ Denotes ts cs := by
  constructor
  · intro h
    cases h with
    | one h1 h2 => exact ⟨h1, h2⟩
  · rintro ⟨h1, h2⟩
    exact .one h1 h2

theorem denotes_star_iff (ts : List Token) (cs : List Char) :
    Denotes (.star :: ts) cs ↔ ∃ skipped rest, cs = skipped ++ rest ∧ Denotes ts rest := by
  constructor
  · intro h
    cases h with
    | star skipped h => exact ⟨skipped, _, rfl, h⟩
  · rintro ⟨skipped, rest, rfl, h⟩
    exact .star skipped h

theorem denotes_star_nil_iff (ts : List Token) : Denotes (.star :: ts) [] ↔ Denotes ts [] := by
  rw [denotes_star_iff]
  constructor
  · rintro ⟨skipped, rest, h, hr⟩
    obtain ⟨-, rfl⟩ := List.append_eq_nil_iff.1 h.symm
    exact hr
  · intro h
    exact ⟨[], [], rfl, h⟩

theorem denotes_star_cons_iff (ts : List Token) (c : Char) (cs : List Char) :
    Denotes (.star :: ts) (c :: cs) ↔ Denotes ts (c :: cs) ∨ Denotes (.star :: ts) cs := by
  rw [denotes_star_iff, denotes_star_iff]
  constructor
  · rintro ⟨skipped, rest, h, hr⟩
    cases skipped with
    | nil => exact .inl (h ▸ hr)
    | cons d skipped =>
      rw [List.cons_append, List.cons.injEq] at h
      exact .inr ⟨skipped, rest, h.2, hr⟩
  · rintro (h | ⟨skipped, rest, rfl, hr⟩)
    · exact ⟨[], c :: cs, rfl, h⟩
    · exact ⟨c :: skipped, rest, rfl, hr⟩

/-- What a row says of the tails of the parts is true of a text. -/
def RowOf (cs : List Char) : List Token → List Bool → Prop
  | [], row => (row.headD false = true ↔ Denotes [] cs)
  | t :: ts, row => (row.headD false = true ↔ Denotes (t :: ts) cs) ∧ RowOf cs ts row.tail

theorem RowOf.head {cs : List Char} {ts : List Token} {row : List Bool} (h : RowOf cs ts row) :
    row.headD false = true ↔ Denotes ts cs := by
  cases ts with
  | nil => exact h
  | cons t ts => exact h.1

theorem rowOf_emptyRow (ts : List Token) : RowOf [] ts (emptyRow ts) := by
  induction ts with
  | nil => simp [RowOf, emptyRow, denotes_nil_iff]
  | cons t ts ih =>
    refine ⟨?_, ih⟩
    cases t with
    | star =>
      simp only [emptyRow, List.headD_cons, decide_true, Bool.true_and]
      rw [ih.head, denotes_star_nil_iff]
    | one set => simp [emptyRow, not_denotes_one_nil]

theorem rowOf_nextRow (c : Char) (cs : List Char) (ts : List Token) (row : List Bool)
    (h : RowOf cs ts row) : RowOf (c :: cs) ts (nextRow c ts row) := by
  induction ts generalizing row with
  | nil => simp [RowOf, nextRow, denotes_nil_iff]
  | cons t ts ih =>
    have hrest := ih row.tail h.2
    refine ⟨?_, hrest⟩
    cases t with
    | star =>
      simp only [nextRow, List.headD_cons, Bool.or_eq_true]
      rw [hrest.head, h.1, denotes_star_cons_iff]
    | one set =>
      simp only [nextRow, List.headD_cons, Bool.and_eq_true]
      rw [h.2.head, denotes_one_cons_iff]

theorem rowOf_textRow (ts : List Token) (cs : List Char) : RowOf cs ts (textRow ts cs) := by
  induction cs with
  | nil => exact rowOf_emptyRow ts
  | cons c cs ih => exact rowOf_nextRow c cs ts _ ih

/-- The matcher accepts exactly the texts that the parts of a pattern stand for. -/
theorem matchesTokens_iff (ts : List Token) (cs : List Char) :
    matchesTokens ts cs = true ↔ Denotes ts cs := (rowOf_textRow ts cs).head

/-- Whether a pattern matches a whole name. -/
def isMatch (pattern name : String) : Bool := matchesTokens (tokens pattern.toList) name.toList

end CauseLint.Glob
