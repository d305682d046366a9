import CauseLint.Json.Printer
import CauseLint.Json.Reader

/-!
# Strings and numbers that are read back

The reader takes the escapes of a character apart again: a short escape stands for one character,
an escape of four digits for a unit of sixteen bits, and two units for one character beyond the
basic plane. Digits are read up to the first character that is none.

Results:

* `Reader.stringBody_escape`: a string is read back from its text.
* `Reader.number_int`, `Reader.number_decimal`: so is a number.
-/

namespace CauseLint.Json

open Reader

/-! ## Escapes -/

theorem hexValue?_hexDigit : ∀ n < 16, hexValue? (hexDigit n) = some n := by decide

/-- Four digits spell a unit of sixteen bits. -/
theorem exists_hexDigits {n : Nat} (h : n < 0x10000) :
    ∃ a b c d, hexDigits 4 n = [a, b, c, d] ∧ hexValue4? a b c d = some n := by
  refine ⟨_, _, _, _, rfl, ?_⟩
  unfold hexValue4?
  have hlt : ∀ n : Nat, n % 16 < 16 := fun n => Nat.mod_lt n (by decide)
  rw [hexValue?_hexDigit _ (hlt _), hexValue?_hexDigit _ (hlt _), hexValue?_hexDigit _ (hlt _),
    hexValue?_hexDigit _ (hlt _)]
  refine congrArg some ?_
  omega

namespace Reader

variable {pending : Option Nat} {read rest : List Char}

theorem stringBody_escapeUnit {n : Nat} (h : n < 0x10000) :
    stringBody pending read (escapeUnit n ++ rest) =
      stringBody (pushUnit pending n read).1 (pushUnit pending n read).2 rest := by
  obtain ⟨a, b, c, d, hdigits, hvalue⟩ := exists_hexDigits h
  rw [escapeUnit, hdigits]
  simp only [List.cons_append, List.nil_append]
  rw [stringBody, hvalue]

theorem toNat_between (c : Char) : c.toNat < 0xD800 ∨ 0xDFFF < c.toNat ∧ c.toNat < 0x110000 :=
  c.valid

/-- A unit that is a character of its own. -/
theorem pushUnit_toNat (c : Char) (read : List Char) :
    pushUnit none c.toNat read = (none, c :: read) := by
  have hbetween := toNat_between c
  unfold pushUnit
  rw [if_neg (by simp; omega), if_neg (by simp; omega), Char.ofNat_toNat]
  rfl

/-- Two units that spell a character together. -/
theorem pushUnit_pair {c : Char} (h : 0x10000 ≤ c.toNat) (read : List Char) :
    let n := c.toNat - 0x10000
    pushUnit none (0xD800 + n / 0x400) read = (some (0xD800 + n / 0x400), read) ∧
      pushUnit (some (0xD800 + n / 0x400)) (0xDC00 + n % 0x400) read = (none, c :: read) := by
  intro n
  have hbetween := toNat_between c
  have hlow : n % 0x400 < 0x400 := Nat.mod_lt _ (by decide)
  have hn : n = c.toNat - 0x10000 := rfl
  refine ⟨?_, ?_⟩
  · unfold pushUnit
    rw [if_pos (by simp; omega)]
    rfl
  · unfold pushUnit
    have hlate : ¬ 0xDC00 + n % 0x400 < 0xDC00 := by omega
    rw [if_neg (by simp [hlate]), if_pos (by simp; omega)]
    have hnat : 0x10000 + (0xD800 + n / 0x400 - 0xD800) * 0x400 + (0xDC00 + n % 0x400 - 0xDC00) =
        c.toNat := by omega
    dsimp only
    rw [hnat, Char.ofNat_toNat]

theorem stringBody_plain {c : Char} (hquote : c ≠ '"') (hslash : c ≠ '\\') :
    stringBody none read (c :: rest) = stringBody none (c :: read) rest := by
  rw [stringBody.eq_def]
  split
  · contradiction
  · rename_i heq
    exact absurd (List.cons.inj heq).1 hquote
  · rename_i heq
    exact absurd (List.cons.inj heq).1 hslash
  · rename_i heq
    exact absurd (List.cons.inj heq).1 hslash
  · rename_i heq
    obtain ⟨rfl, rfl⟩ := List.cons.inj heq
    rfl

/-- One character is read back from its text. -/
theorem stringBody_escapeChar (c : Char) :
    stringBody none read (escapeChar c ++ rest) = stringBody none (c :: read) rest := by
  rcases escapeChar_cases c with ⟨letter, hletter, htext⟩ | ⟨hquote, hslash, -, htext⟩ |
    ⟨hsmall, htext⟩ | ⟨hlarge, htext⟩ <;> rw [htext]
  · simp only [List.mem_cons, List.not_mem_nil, or_false, Prod.mk.injEq] at hletter
    rcases hletter with h | h | h | h | h | h | h <;>
      (obtain ⟨rfl, rfl⟩ := h; rfl)
  · exact stringBody_plain hquote hslash
  · rw [stringBody_escapeUnit hsmall, pushUnit_toNat]
  · have hbetween := toNat_between c
    obtain ⟨hhigh, hlow⟩ := pushUnit_pair hlarge read
    rw [List.append_assoc, stringBody_escapeUnit (by omega), hhigh,
      stringBody_escapeUnit (by omega), hlow]

/-- A string is read back from its text. -/
theorem stringBody_escape (s : String) :
    stringBody none [] (s.toList.flatMap escapeChar ++ '"' :: rest) = some (s, rest) := by
  have hall : ∀ (cs read : List Char),
      stringBody none read (cs.flatMap escapeChar ++ '"' :: rest) =
        some (String.ofList (read.reverse ++ cs), rest) := by
    intro cs
    induction cs with
    | nil =>
      intro read
      rw [List.append_nil]
      rfl
    | cons c cs ih =>
      intro read
      rw [List.flatMap_cons, List.append_assoc, stringBody_escapeChar, ih, List.reverse_cons,
        List.append_assoc, List.singleton_append]
  rw [hall, List.reverse_nil, List.nil_append, String.ofList_toList]

/-! ## Numbers -/

/-- The digits of a number end where something else begins. -/
structure Digits (n : Nat) (ds rest : List Char) : Prop where
  whole : (ds ++ rest).takeWhile Char.isDigit = ds
  behind : (ds ++ rest).dropWhile Char.isDigit = rest
  value : digitsValue ds = n
  head : ∃ d ds', ds = d :: ds' ∧ d.isDigit = true

theorem digits_toString (n : Nat) (h : ∀ c ∈ rest.head?, c.isDigit = false) :
    Digits n (toString n).toList rest := by
  have hall : ∀ c ∈ (toString n).toList, c.isDigit = true := fun c hc =>
    Decimal.isDigit_of_mem_toString hc
  rw [Nat.toString_eq_repr, Nat.toList_repr] at *
  have hnone : rest.takeWhile Char.isDigit = [] ∧ rest.dropWhile Char.isDigit = rest := by
    cases rest with
    | nil => exact ⟨rfl, rfl⟩
    | cons c rest =>
      have hc := h c rfl
      rw [List.takeWhile_cons, List.dropWhile_cons, hc]
      exact ⟨rfl, rfl⟩
  refine ⟨?_, ?_, ?_, ?_⟩
  · rw [List.takeWhile_append_of_pos hall, hnone.1, List.append_nil]
  · rw [List.dropWhile_append_of_pos hall, hnone.2]
  · have hstep : ∀ (ds : List Char) (n : Nat),
        ds.foldl (fun n d => n * 10 + (d.toNat - '0'.toNat)) n = Nat.ofDigitChars 10 ds n := by
      intro ds n
      unfold Nat.ofDigitChars
      congr 1
      funext n d
      rw [Nat.mul_comm]
    exact (hstep _ 0).trans (Nat.ofDigitChars_toDigits (by decide) (by decide))
  · cases hds : Nat.toDigits 10 n with
    | nil => exact absurd hds Nat.toDigits_ne_nil
    | cons d ds => exact ⟨d, ds, rfl, hall d (hds ▸ List.mem_cons_self)⟩

/-- What cannot go on a number. -/
def Stops (rest : List Char) : Prop :=
  ∀ c ∈ rest.head?, c.isDigit = false ∧ c ≠ '.' ∧ c ≠ 'e' ∧ c ≠ 'E'

/-- The fraction behind the digits of a number. -/
def fractionOf (cs : List Char) : Option (List Char) × List Char :=
  match cs with
  | '.' :: rest => (some (rest.takeWhile Char.isDigit), rest.dropWhile Char.isDigit)
  | _ => (none, cs)

/-- Digits that may have a sign. -/
def signedOf (cs : List Char) : Int × List Char :=
  let down := cs.head? = some '-'
  let cs := if down || cs.head? = some '+' then cs.tail else cs
  let size : Int := digitsValue (cs.takeWhile Char.isDigit)
  (if down then -size else size, cs.dropWhile Char.isDigit)

/-- The exponent behind the digits of a number. -/
def exponentOf (cs : List Char) : Option Int × List Char :=
  if cs.head? = some 'e' || cs.head? = some 'E' then
    (some (signedOf cs.tail).1, (signedOf cs.tail).2)
  else (none, cs)

/-- The number of some parts. -/
def numberOf (negative : Prop) [Decidable negative] (whole : List Char)
    (fraction : Option (List Char)) (exponent : Option Int) : Json :=
  match fraction, exponent with
  | none, none => .int (if negative then -digitsValue whole else digitsValue whole)
  | _, _ => .decimal negative (digitsValue (whole ++ fraction.getD []))
      (exponent.getD 0 - (fraction.getD []).length)

/-- A number is read part by part. -/
theorem number_eq (cs : List Char) :
    number cs =
      let negative := cs.head? = some '-'
      let cs := if negative then cs.tail else cs
      let fraction := fractionOf (cs.dropWhile Char.isDigit)
      let exponent := exponentOf fraction.2
      if (cs.takeWhile Char.isDigit).isEmpty then none
      else some (numberOf negative (cs.takeWhile Char.isDigit) fraction.1 exponent.1,
        exponent.2) := by
  let negative := cs.head? = some '-'
  let cs' := if negative then cs.tail else cs
  let fraction := fractionOf (cs'.dropWhile Char.isDigit)
  let exponent := exponentOf fraction.2
  show (if (cs'.takeWhile Char.isDigit).isEmpty then none else
    match fraction.1, exponent.1 with
    | none, none =>
      let n : Int := digitsValue (cs'.takeWhile Char.isDigit)
      some (Json.int (if negative then -n else n), exponent.2)
    | _, _ =>
      let places := fraction.1.getD []
      some (Json.decimal negative (digitsValue (cs'.takeWhile Char.isDigit ++ places))
        (exponent.1.getD 0 - places.length), exponent.2)) =
    if (cs'.takeWhile Char.isDigit).isEmpty then none
    else some (numberOf negative (cs'.takeWhile Char.isDigit) fraction.1 exponent.1, exponent.2)
  cases fraction.1 <;> cases exponent.1 <;> rfl

/-- The sign of a number, where it is negative. -/
def sign (negative : Bool) : List Char := if negative then ['-'] else []

theorem toList_toString_int (n : Int) :
    (toString n).toList = sign (n < 0) ++ (toString n.natAbs).toList := by
  cases n with
  | ofNat m => rfl
  | negSucc m =>
    rw [sign, if_pos (decide_eq_true (Int.negSucc_lt_zero m))]
    show ("-" ++ (m + 1).repr).toList = _
    rw [String.toList_append]
    rfl

theorem signed_natAbs (n : Int) : (if n < 0 then -(n.natAbs : Int) else n.natAbs) = n := by
  split <;> omega

/-- The sign and the digits of a number are told apart. -/
theorem number_sign {n : Nat} {ds : List Char} (hd : Digits n ds rest) (negative : Bool) :
    number (sign negative ++ ds ++ rest) =
      some (numberOf negative ds (fractionOf rest).1 (exponentOf (fractionOf rest).2).1,
        (exponentOf (fractionOf rest).2).2) := by
  obtain ⟨d, ds', hds, hdigit⟩ := hd.head
  have hminus : d ≠ '-' := by
    rintro rfl
    cases hdigit
  have hempty : (ds.isEmpty = true) = False := by rw [hds]; simp
  have hsigned : (if negative = true then (sign negative ++ (ds ++ rest)).tail
      else sign negative ++ (ds ++ rest)) = ds ++ rest := by
    cases negative <;> rfl
  have hnegative : ((sign negative ++ (ds ++ rest)).head? = some '-') = (negative = true) := by
    cases negative with
    | false =>
      rw [hds]
      exact propext ⟨fun h => absurd (Option.some.inj h) hminus, fun h => by cases h⟩
    | true => exact propext ⟨fun _ => rfl, fun _ => rfl⟩
  rw [List.append_assoc, number_eq]
  simp only [hnegative, hsigned, hd.whole, hd.behind, hempty, if_false]

theorem fractionOf_stops (h : Stops rest) : fractionOf rest = (none, rest) := by
  unfold fractionOf
  split
  · exact absurd rfl (h _ rfl).2.1
  · rfl

theorem exponentOf_stops (h : Stops rest) : exponentOf rest = (none, rest) := by
  unfold exponentOf
  rw [if_neg]
  cases rest with
  | nil => simp
  | cons c rest =>
    obtain ⟨-, -, he, hE⟩ := h c rfl
    simp [he, hE]

/-- An exponent is read back from its text. -/
theorem exponentOf_toString (e : Int) (h : Stops rest) :
    exponentOf ('e' :: (toString e).toList ++ rest) = (some e, rest) := by
  have hd := digits_toString e.natAbs fun c hc => (h c hc).1
  have hvalue := signed_natAbs e
  have hsigned : signedOf ((toString e).toList ++ rest) = (e, rest) := by
    rw [toList_toString_int]
    by_cases he : e < 0
    · rw [if_pos he] at hvalue
      rw [decide_eq_true he]
      show (-(digitsValue (((toString e.natAbs).toList ++ rest).takeWhile Char.isDigit) : Int),
        ((toString e.natAbs).toList ++ rest).dropWhile Char.isDigit) = _
      rw [hd.whole, hd.behind, hd.value, hvalue]
    · rw [if_neg he] at hvalue
      rw [decide_eq_false he]
      obtain ⟨d, ds, hds, hdigit⟩ := hd.head
      have hminus : d ≠ '-' := by rintro rfl; cases hdigit
      have hplus : d ≠ '+' := by rintro rfl; cases hdigit
      have hhead : (sign false ++ (toString e.natAbs).toList ++ rest).head? = some d := by
        rw [hds]
        rfl
      unfold signedOf
      simp only [hhead, Option.some.injEq, hminus, hplus, decide_false, Bool.or_self, if_false,
        Bool.false_eq_true]
      show ((digitsValue (((toString e.natAbs).toList ++ rest).takeWhile Char.isDigit) : Int),
        ((toString e.natAbs).toList ++ rest).dropWhile Char.isDigit) = _
      rw [hd.whole, hd.behind, hd.value, hvalue]
  show (some (signedOf ((toString e).toList ++ rest)).1,
    (signedOf ((toString e).toList ++ rest)).2) = _
  rw [hsigned]

/-- An integer is read back from its text. -/
theorem number_int (n : Int) (h : Stops rest) :
    number ((toString n).toList ++ rest) = some (.int n, rest) := by
  have hd := digits_toString n.natAbs fun c hc => (h c hc).1
  rw [toList_toString_int, number_sign hd, fractionOf_stops h, exponentOf_stops h]
  show some (Json.int _, rest) = _
  rw [hd.value]
  simp only [decide_eq_true_eq, signed_natAbs]

/-- A number with an exponent is read back from its text. -/
theorem number_decimal (negative : Bool) (m : Nat) (e : Int) (h : Stops rest) :
    number (decimalText negative m e ++ rest) = some (.decimal negative m e, rest) := by
  have hd : Digits m (toString m).toList ('e' :: (toString e).toList ++ rest) :=
    digits_toString m fun c hc => by cases hc; rfl
  have htext : decimalText negative m e ++ rest =
      sign negative ++ (toString m).toList ++ ('e' :: (toString e).toList ++ rest) := by
    rw [decimalText, List.append_assoc]
    rfl
  have hfraction : fractionOf ('e' :: (toString e).toList ++ rest) =
      (none, 'e' :: (toString e).toList ++ rest) := rfl
  rw [htext, number_sign hd, hfraction]
  dsimp only
  rw [exponentOf_toString e h]
  show some (Json.decimal (decide (negative = true)) (digitsValue ((toString m).toList ++ []))
    (e - 0), rest) = _
  rw [List.append_nil, hd.value, Int.sub_zero, Bool.decide_eq_true]

end Reader

end CauseLint.Json
