import CauseLint.Syntax.Unit
import CauseLint.Text.Quoted

/-!
# Calls and receiver chains

A call is a method invocation `receiver.name(arguments)`. The receiver chain of an expression is
what one meets by going from receiver to receiver, parentheses removed: for `a.b().c()` the links
are `a.b()` and `a`.

Results:

* `Cursor.links` is the whole chain; it ends because every link is a smaller subtree.
* `Cursor.receivers` cuts the chain at a depth and tells where it was cut.
-/

namespace CauseLint

namespace Cursor

/-! ## Sizes along the way down -/

theorem focus_mem_of_mem_childrenFrom {c d : Cursor} {i : Nat} {ts : List Tree}
    (h : d ∈ c.childrenFrom i ts) : d.focus ∈ ts := by
  induction ts generalizing i with
  | nil => cases h
  | cons t ts ih =>
    rw [childrenFrom, List.mem_cons] at h
    rcases h with rfl | h
    · exact List.mem_cons_self
    · exact List.mem_cons_of_mem _ (ih h)

/-- A child is smaller. -/
theorem size_lt_of_mem_children {c d : Cursor} (h : d ∈ c.children) :
    d.focus.size < c.focus.size := Tree.size_lt_of_mem (focus_mem_of_mem_childrenFrom h)

theorem mem_children_of_mem_parts {c d : Cursor} (h : d ∈ c.parts) : d ∈ c.children :=
  (List.mem_filter.1 (List.mem_filter.1 h).1).1

theorem mem_children_of_childByField? {c d : Cursor} {f : String}
    (h : c.childByField? f = some d) : d ∈ c.children := List.mem_of_find?_eq_some h

theorem size_le_of_stripParensWithin {n : Nat} {c d : Cursor}
    (h : stripParensWithin n c = some d) : d.focus.size ≤ c.focus.size := by
  induction n generalizing c with
  | zero =>
    unfold stripParensWithin at h
    split at h
    · split at h <;> simp_all
    · exact Nat.le_of_eq (by rw [Option.some.inj h])
  | succ n ih =>
    unfold stripParensWithin at h
    split at h
    · split at h
      · simp at h
      · simp at h
      · rename_i m inner rest hn hp
        have hm : n = m := Nat.succ.inj hn
        subst hm
        have hlt : inner.focus.size < c.focus.size :=
          size_lt_of_mem_children (mem_children_of_mem_parts (by rw [hp]; exact List.mem_cons_self))
        have := ih h
        omega
    · exact Nat.le_of_eq (by rw [Option.some.inj h])

/-! ## Receivers -/

/-- The receiver of a member access (`get_receiver`): the object of a call or of a field access. -/
def receiver? (c : Cursor) : Option Cursor :=
  match c.stripParens with
  | none => none
  | some d =>
    if d.kind = "method_invocation" || d.kind = "field_access" then d.childByField? "object"
    else none

/-- The next link of the receiver chain. -/
def nextLink? (c : Cursor) : Option Cursor := c.receiver?.bind stripParens

theorem size_lt_of_receiver? {c d : Cursor} (h : c.receiver? = some d) :
    d.focus.size < c.focus.size := by
  unfold receiver? at h
  split at h
  · simp at h
  · rename_i e he
    split at h
    · have h1 := size_lt_of_mem_children (mem_children_of_childByField? h)
      have h2 := size_le_of_stripParensWithin he
      omega
    · simp at h

/-- Every link is smaller than the one before. -/
theorem size_lt_of_nextLink? {c d : Cursor} (h : c.nextLink? = some d) :
    d.focus.size < c.focus.size := by
  obtain ⟨e, he, hd⟩ := Option.bind_eq_some_iff.1 h
  have h1 := size_lt_of_receiver? he
  have h2 := size_le_of_stripParensWithin hd
  omega

/-- The receiver chain, outermost link first. -/
def links (c : Cursor) : List Cursor :=
  match _h : c.nextLink? with
  | none => []
  | some d => d :: links d
termination_by c.focus.size
decreasing_by exact size_lt_of_nextLink? _h

/-- The first links of the chain, and the link at which it was cut, if it is longer. -/
def receivers (c : Cursor) (depth : Nat) : List Cursor × Option Cursor :=
  (c.links.take depth, (c.links.drop depth).head?)

end Cursor

/-- The warning that a chain was cut. The depth is shown as it was asked for. -/
def noteTruncated {m : Type → Type} [Monad m] (depth : Int) (cut : Option Cursor) : LogT m Unit :=
  match cut with
  | none => pure ()
  | some c =>
    note .warning .source
      s!"receiver chain deeper than {depth} links at byte {c.start}; truncated"

/-- The links of a receiver chain up to a depth, with a warning when there are more
(`iter_receivers`). -/
def receiverLinks (c : Cursor) (depth : Int) : LogM (List Cursor) := do
  let (links, cut) := c.receivers depth.toNat
  noteTruncated depth cut
  return links

/-! ## Calls -/

namespace Cursor

/-- The call that an expression is, parentheses removed (`CallSite.wrap`). -/
def call? (c : Cursor) : Option Cursor :=
  match c.stripParens with
  | some d => if d.kind = "method_invocation" then some d else none
  | none => none

/-- The arguments of a call in source order. -/
def arguments (c : Cursor) : List Cursor :=
  match c.childByField? "arguments" with
  | some list => list.parts
  | none => []

/-- The receiver of a call as it is written (`receiver`). -/
def object? (c : Cursor) : Option Cursor := c.childByField? "object"

end Cursor

namespace SourceUnit

/-- The name of the method that a call invokes (`method_name`). -/
def methodName (u : SourceUnit) (call : Cursor) : String := u.textOf? (call.childByField? "name")

/-- A call as messages show it. -/
def shownCall (u : SourceUnit) (call : Cursor) : String :=
  "<CallSite " ++ quoted (u.textOf call) ++ ">"

end SourceUnit

/-- Whether two calls of one unit cover the same bytes. -/
def sameCall (a b : Cursor) : Bool := a.start == b.start && a.stop == b.stop

end CauseLint
