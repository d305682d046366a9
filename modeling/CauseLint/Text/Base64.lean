import CauseLint.Text.Utf8

/-!
# Bytes as letters

Bytes that are not text are written with 64 letters, three bytes as four letters; equals signs fill up
the last group.
-/

namespace CauseLint.Base64

/-- The letter of the last six bits of a number: capitals, small letters, digits, then two signs. -/
def letter (n : Nat) : Char :=
  let d := n % 64
  if d < 26 then Char.ofNat ('A'.toNat + d)
  else if d < 52 then Char.ofNat ('a'.toNat + (d - 26))
  else if d < 62 then Char.ofNat ('0'.toNat + (d - 52))
  else if d = 62 then '+'
  else '/'

/-- The value of a letter. -/
def value? (c : Char) : Option Nat :=
  if 'A' ≤ c && c ≤ 'Z' then some (c.toNat - 'A'.toNat)
  else if 'a' ≤ c && c ≤ 'z' then some (c.toNat - 'a'.toNat + 26)
  else if '0' ≤ c && c ≤ '9' then some (c.toNat - '0'.toNat + 52)
  else if c = '+' then some 62
  else if c = '/' then some 63
  else none

/-- Write bytes. -/
def encode : Bytes → List Char
  | a :: b :: c :: rest =>
    let n := a.toNat * 65536 + b.toNat * 256 + c.toNat
    letter (n / 262144) :: letter (n / 4096) :: letter (n / 64) :: letter n :: encode rest
  | [a, b] =>
    let n := a.toNat * 65536 + b.toNat * 256
    [letter (n / 262144), letter (n / 4096), letter (n / 64), '=']
  | [a] => [letter (a.toNat / 4), letter (a.toNat * 16), '=', '=']
  | [] => []

/-- The bytes of four letters, of which the last two may be missing. -/
def group (x y : Nat) : Option Nat → Option Nat → Bytes
  | some z, some w =>
    [(x * 4 + y / 16).toUInt8, (y % 16 * 16 + z / 4).toUInt8, (z % 4 * 64 + w).toUInt8]
  | some z, none => [(x * 4 + y / 16).toUInt8, (y % 16 * 16 + z / 4).toUInt8]
  | none, _ => [(x * 4 + y / 16).toUInt8]

/-- Read bytes; a group that does not begin with two letters holds none. -/
def decode : List Char → Bytes
  | a :: b :: c :: d :: rest =>
    match value? a, value? b with
    | some x, some y => group x y (value? c) (value? d) ++ decode rest
    | _, _ => decode rest
  | _ => []

theorem value?_letter_lt : ∀ n < 64, value? (letter n) = some n := by decide

theorem value?_letter (n : Nat) : value? (letter n) = some (n % 64) := by
  have h := value?_letter_lt (n % 64) (Nat.mod_lt _ (by decide))
  have e : letter (n % 64) = letter n := by simp only [letter, Nat.mod_mod]
  rwa [e] at h

theorem value?_fill : value? '=' = none := by decide

/-- A number that is a byte is read back from its low eight bits. -/
theorem toUInt8_eq {n : Nat} {b : UInt8} (h : n = b.toNat) : n.toUInt8 = b := by
  subst h
  exact UInt8.ofNat_toNat

/-- The first byte of a group lies in its first two letters. -/
theorem first_of_group {a r : Nat} (hr : r < 65536) :
    (a * 65536 + r) / 262144 % 64 * 4 + (a * 65536 + r) / 4096 % 64 / 16 = a % 256 := by
  omega

/-- The second byte of a group lies in its second and third letter. -/
theorem second_of_group {a b c : Nat} (hb : b < 256) (hc : c < 256) :
    (a * 65536 + b * 256 + c) / 4096 % 64 % 16 * 16 + (a * 65536 + b * 256 + c) / 64 % 64 / 4 = b := by
  omega

/-- The third byte of a group lies in its last two letters. -/
theorem third_of_group {m c : Nat} (hc : c < 256) :
    (m * 256 + c) / 64 % 64 % 4 * 64 + (m * 256 + c) % 64 = c := by
  omega

/-- Bytes are read back as they were written. -/
theorem decode_encode (bs : Bytes) : decode (encode bs) = bs := by
  fun_induction encode bs with
  | case1 a b c rest n ih =>
    have ha := a.toNat_lt
    have hb := b.toNat_lt
    have hc := c.toNat_lt
    have h1 : n / 262144 % 64 * 4 + n / 4096 % 64 / 16 = a.toNat := by
      have := @first_of_group a.toNat (b.toNat * 256 + c.toNat) (by omega)
      rwa [← Nat.add_assoc, Nat.mod_eq_of_lt ha] at this
    have h2 : n / 4096 % 64 % 16 * 16 + n / 64 % 64 / 4 = b.toNat := second_of_group hb hc
    have h3 : n / 64 % 64 % 4 * 64 + n % 64 = c.toNat := by
      have := @third_of_group (a.toNat * 256 + b.toNat) c.toNat hc
      rwa [Nat.add_mul, Nat.mul_assoc] at this
    rw [decode, value?_letter, value?_letter, value?_letter, value?_letter, ih]
    simp only [group, toUInt8_eq h1, toUInt8_eq h2, toUInt8_eq h3, List.cons_append, List.nil_append]
  | case2 a b n =>
    have ha := a.toNat_lt
    have hb := b.toNat_lt
    have h1 : n / 262144 % 64 * 4 + n / 4096 % 64 / 16 = a.toNat := by
      have := @first_of_group a.toNat (b.toNat * 256) (by omega)
      rwa [Nat.mod_eq_of_lt ha] at this
    have h2 : n / 4096 % 64 % 16 * 16 + n / 64 % 64 / 4 = b.toNat := by
      have := @second_of_group a.toNat b.toNat 0 hb (by decide)
      rwa [Nat.add_zero] at this
    rw [decode, value?_letter, value?_letter, value?_letter, value?_fill]
    simp only [group, toUInt8_eq h1, toUInt8_eq h2, decode, List.append_nil]
  | case3 a =>
    have ha := a.toNat_lt
    have h1 : a.toNat / 4 % 64 * 4 + a.toNat * 16 % 64 / 16 = a.toNat := by omega
    rw [decode, value?_letter, value?_letter, value?_fill]
    simp only [group, toUInt8_eq h1, decode, List.append_nil]
  | case4 => rfl

end CauseLint.Base64
