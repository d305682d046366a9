import CauseLint.Decimal.Written
import CauseLint.Json.Basic
import CauseLint.Text.Quoted

/-!
# JSON text

JSON values as text. Only the printable ASCII characters are written as they are; all others become
escapes of four hexadecimal digits, two of them for a character beyond the basic plane. Values are
written on one line (`Json.line`) or spread out with two blanks per level (`Json.pretty`), provided
that all their integers can be written (`Json.isWritable`).

Results:

* `Json.isPlain_of_mem_escape`: the text of a string holds only characters from space to tilde.
-/

namespace CauseLint.Json

/-! ## Strings -/

/-- The escape of one unit of sixteen bits. -/
def escapeUnit (n : Nat) : List Char := '\\' :: 'u' :: hexDigits 4 n

/-- One character inside a string. -/
def escapeChar (c : Char) : List Char :=
  if c = '"' then ['\\', '"']
  else if c = '\\' then ['\\', '\\']
  else if c = '\n' then ['\\', 'n']
  else if c = '\r' then ['\\', 'r']
  else if c = '\t' then ['\\', 't']
  else if c = '\x0c' then ['\\', 'f']
  else if c = '\x08' then ['\\', 'b']
  else if ' ' ≤ c && c ≤ '~' then [c]
  else if c.toNat < 0x10000 then escapeUnit c.toNat
  else
    let n := c.toNat - 0x10000
    escapeUnit (0xD800 + n / 0x400) ++ escapeUnit (0xDC00 + n % 0x400)

/-- The characters of a string with its quotes. -/
def escape (s : String) : List Char := '"' :: s.toList.flatMap escapeChar ++ ['"']

/-! ## Numbers -/

/-- A number with a fraction or an exponent. -/
def decimalText (negative : Bool) (mantissa : Nat) (exponent : Int) : List Char :=
  (if negative then ['-'] else []) ++ (toString mantissa).toList ++ 'e' :: (toString exponent).toList

/-- An infinite number. -/
def infinityText (negative : Bool) : List Char :=
  (if negative then "-Infinity" else "Infinity").toList

/-! ## Values on one line -/

mutual
/-- A value on one line. -/
def lineChars : Json → List Char
  | .null => "null".toList
  | .bool b => (if b then "true" else "false").toList
  | .int n => (toString n).toList
  | .decimal s m e => decimalText s m e
  | .infinity s => infinityText s
  | .nan => "NaN".toList
  | .str s => escape s
  | .arr items => '[' :: lineItems items ++ [']']
  | .obj fields => '\x7b' :: lineFields fields ++ ['\x7d']

/-- The items of an array, with a comma and a blank between neighbours. -/
def lineItems : List Json → List Char
  | [] => []
  | [v] => lineChars v
  | v :: vs => lineChars v ++ ',' :: ' ' :: lineItems vs

/-- The fields of an object, with a comma and a blank between neighbours. -/
def lineFields : List (String × Json) → List Char
  | [] => []
  | [(k, v)] => escape k ++ ':' :: ' ' :: lineChars v
  | (k, v) :: fs => escape k ++ ':' :: ' ' :: lineChars v ++ ',' :: ' ' :: lineFields fs
end

/-- A value as text on one line. -/
def line (v : Json) : String := String.ofList (lineChars v)

/-! ## Values over several lines -/

/-- The start of a line at some level. -/
def newLine (level : Nat) : List Char := '\n' :: List.replicate (2 * level) ' '

mutual
/-- A value spread over lines, at some level. -/
def prettyChars (level : Nat) : Json → List Char
  | .arr [] => ['[', ']']
  | .arr (v :: vs) =>
    '[' :: newLine (level + 1) ++ prettyItems (level + 1) (v :: vs) ++ newLine level ++ [']']
  | .obj [] => ['\x7b', '\x7d']
  | .obj (f :: fs) =>
    '\x7b' :: newLine (level + 1) ++ prettyFields (level + 1) (f :: fs) ++ newLine level ++ ['\x7d']
  | .null => "null".toList
  | .bool b => (if b then "true" else "false").toList
  | .int n => (toString n).toList
  | .decimal s m e => decimalText s m e
  | .infinity s => infinityText s
  | .nan => "NaN".toList
  | .str s => escape s

/-- The items of an array, each on a line of its own. -/
def prettyItems (level : Nat) : List Json → List Char
  | [] => []
  | [v] => prettyChars level v
  | v :: vs => prettyChars level v ++ ',' :: newLine level ++ prettyItems level vs

/-- The fields of an object, each on a line of its own. -/
def prettyFields (level : Nat) : List (String × Json) → List Char
  | [] => []
  | [(k, v)] => escape k ++ ':' :: ' ' :: prettyChars level v
  | (k, v) :: fs =>
    escape k ++ ':' :: ' ' :: prettyChars level v ++ ',' :: newLine level ++ prettyFields level fs
end

/-- A value as text over several lines. -/
def pretty (v : Json) : String := String.ofList (prettyChars 0 v)

/-! ## Values that can be written -/

mutual
/-- Whether every integer in a value can be written. -/
def isWritable : Json → Bool
  | .int n => Decimal.isWritable n
  | .arr items => allWritable items
  | .obj fields => fieldsWritable fields
  | .null | .bool _ | .decimal _ _ _ | .infinity _ | .nan | .str _ => true

/-- Whether every integer in some values can be written. -/
def allWritable : List Json → Bool
  | [] => true
  | v :: vs => v.isWritable && allWritable vs

/-- Whether every integer in some fields can be written. -/
def fieldsWritable : List (String × Json) → Bool
  | [] => true
  | (_, v) :: fs => v.isWritable && fieldsWritable fs
end

/-- A value as text over several lines, if it can be written. -/
def pretty? (v : Json) : Option String := if v.isWritable then some v.pretty else none

/-! ## What a string is written with -/

/-- Whether a character lies between the space and the tilde. -/
def isPlain (c : Char) : Bool := ' ' ≤ c && c ≤ '~'

theorem isPlain_hexDigit : ∀ n < 16, isPlain (hexDigit n) = true := by decide

theorem isPlain_of_mem_hexDigits (w n : Nat) : ∀ c ∈ hexDigits w n, isPlain c = true := by
  induction w generalizing n with
  | zero => simp [hexDigits]
  | succ w ih =>
    intro c hc
    rw [hexDigits, List.mem_append, List.mem_singleton] at hc
    rcases hc with hc | hc
    · exact ih _ c hc
    · exact hc ▸ isPlain_hexDigit _ (Nat.mod_lt _ (by omega))

theorem isPlain_of_mem_escapeUnit (n : Nat) : ∀ c ∈ escapeUnit n, isPlain c = true := by
  intro c hc
  rw [escapeUnit, List.mem_cons, List.mem_cons] at hc
  rcases hc with rfl | rfl | hc
  · decide
  · decide
  · exact isPlain_of_mem_hexDigits _ _ c hc

/-- A character is written as one letter behind a backslash, as itself, or as one or two units. -/
theorem escapeChar_cases (c : Char) :
    (∃ d, (c, d) ∈ [('"', '"'), ('\\', '\\'), ('\n', 'n'), ('\r', 'r'), ('\t', 't'), ('\x0c', 'f'),
        ('\x08', 'b')] ∧ escapeChar c = ['\\', d]) ∨
    (c ≠ '"' ∧ c ≠ '\\' ∧ isPlain c = true ∧ escapeChar c = [c]) ∨
    (c.toNat < 0x10000 ∧ escapeChar c = escapeUnit c.toNat) ∨
    (0x10000 ≤ c.toNat ∧ escapeChar c = escapeUnit (0xD800 + (c.toNat - 0x10000) / 0x400) ++
      escapeUnit (0xDC00 + (c.toNat - 0x10000) % 0x400)) := by
  by_cases hshort : c ∈ ['"', '\\', '\n', '\r', '\t', '\x0c', '\x08']
  · left
    simp only [List.mem_cons, List.not_mem_nil, or_false] at hshort
    rcases hshort with rfl | rfl | rfl | rfl | rfl | rfl | rfl <;>
      exact ⟨_, by decide, rfl⟩
  · right
    simp only [List.mem_cons, List.not_mem_nil, or_false, not_or] at hshort
    obtain ⟨hquote, hslash, hline, hreturn, htab, hfeed, hback⟩ := hshort
    unfold escapeChar
    rw [if_neg hquote, if_neg hslash, if_neg hline, if_neg hreturn, if_neg htab, if_neg hfeed,
      if_neg hback]
    by_cases hplain : (' ' ≤ c && c ≤ '~') = true
    · rw [if_pos hplain]
      exact .inl ⟨hquote, hslash, hplain, rfl⟩
    rw [if_neg hplain]
    by_cases hsmall : c.toNat < 0x10000
    · rw [if_pos hsmall]
      exact .inr (.inl ⟨hsmall, rfl⟩)
    · rw [if_neg hsmall]
      exact .inr (.inr ⟨Nat.le_of_not_lt hsmall, rfl⟩)

theorem isPlain_of_mem_escapeChar (d : Char) : ∀ c ∈ escapeChar d, isPlain c = true := by
  rcases escapeChar_cases d with ⟨letter, hletter, htext⟩ | ⟨-, -, hplain, htext⟩ | ⟨-, htext⟩ |
    ⟨-, htext⟩ <;> rw [htext]
  · have hletters : isPlain letter = true := by
      simp only [List.mem_cons, List.not_mem_nil, or_false, Prod.mk.injEq] at hletter
      rcases hletter with h | h | h | h | h | h | h <;> rw [h.2] <;> decide
    exact List.forall_mem_cons.2 ⟨by decide, List.forall_mem_singleton.2 hletters⟩
  · exact List.forall_mem_singleton.2 hplain
  · exact isPlain_of_mem_escapeUnit _
  · exact List.forall_mem_append.2 ⟨isPlain_of_mem_escapeUnit _, isPlain_of_mem_escapeUnit _⟩

/-- The text of a string holds only characters from space to tilde. -/
theorem isPlain_of_mem_escape (s : String) : ∀ c ∈ escape s, isPlain c = true := by
  intro c hc
  simp only [escape, List.cons_append, List.mem_cons, List.mem_append, List.mem_flatMap,
    List.not_mem_nil, or_false] at hc
  rcases hc with rfl | ⟨d, -, hd⟩ | rfl
  · decide
  · exact isPlain_of_mem_escapeChar d c hd
  · decide

end CauseLint.Json
