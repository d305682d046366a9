import CauseLint.Text.Utf8
import Mathlib.Tactic.SplitIfs

/-!
# Bytes that spell text

Bytes are valid exactly when they are the bytes of some characters, so text can be cut at the
offsets where a character ends, joined again, and read back without loss.

Results:

* `Utf8.isValid_iff`: bytes without a fault are those that some characters are written as.
* `Utf8.ofText_toText`: reading valid bytes and writing the text gives the bytes back.
* `Utf8.isValid_slice`: what lies between two character boundaries of a text is text.
* `Utf8.isValid_behind_ascii`: so is what stands behind a byte below 128 of a text.
-/

namespace CauseLint.Utf8

/-! ## Reading inverts writing -/

theorem toNat_ofNat_of_valid {n : Nat} (h : n < 0xD800 ∨ 0xDFFF < n ∧ n < 0x110000) :
    (Char.ofNat n).toNat = n := by
  rw [Char.ofNat, dif_pos h]
  rfl

theorem tailBits_lt {b : UInt8} (h : isTail b = true) : tailBits b < 64 := by
  simp only [isTail, Bool.and_eq_true, decide_eq_true_eq, UInt8.le_iff_toNat_le] at h
  have h1 : (128 : Nat) ≤ b.toNat := h.1
  have h2 : b.toNat ≤ 191 := h.2
  unfold tailBits
  omega

theorem ofNat_tailBits {b : UInt8} (h : isTail b = true) : UInt8.ofNat (0x80 + tailBits b) = b := by
  simp only [isTail, Bool.and_eq_true, decide_eq_true_eq, UInt8.le_iff_toNat_le] at h
  have h1 : (128 : Nat) ≤ b.toNat := h.1
  unfold tailBits
  rw [show 0x80 + (b.toNat - 0x80) = b.toNat by omega, UInt8.ofNat_toNat]

theorem isTail_of_between {lo hi b : UInt8} (hlo : 0x80 ≤ lo) (hhi : hi ≤ 0xBF)
    (h : (decide (lo ≤ b) && decide (b ≤ hi)) = true) : isTail b = true := by
  simp only [Bool.and_eq_true, decide_eq_true_eq] at h
  simp only [isTail, Bool.and_eq_true, decide_eq_true_eq]
  exact ⟨UInt8.le_trans hlo h.1, UInt8.le_trans h.2 hhi⟩

/-- A character that ends in a continuation byte was read from that byte. -/
theorem of_lastTail_eq_scalar {high width : Nat} {bs r : Bytes} {c : Char}
    (h : lastTail high width bs = .scalar c r) :
    ∃ t, bs = t :: r ∧ isTail t = true ∧ c = Char.ofNat (high * 64 + tailBits t) := by
  unfold lastTail at h
  split at h
  · cases h
  · split at h
    · rename_i t rest ht
      obtain ⟨hc, hr⟩ := Front.scalar.inj h
      exact ⟨t, by rw [hr], ht, hc.symm⟩
    · cases h

theorem of_lastTwoTails_eq_scalar {high width : Nat} {bs r : Bytes} {c : Char}
    (h : lastTwoTails high width bs = .scalar c r) :
    ∃ s t, bs = s :: t :: r ∧ isTail s = true ∧ isTail t = true ∧
      c = Char.ofNat ((high * 64 + tailBits s) * 64 + tailBits t) := by
  unfold lastTwoTails at h
  split at h
  · cases h
  · split at h
    · rename_i s rest hs
      obtain ⟨t, hr, ht, hc⟩ := of_lastTail_eq_scalar h
      exact ⟨s, t, by rw [hr], hs, ht, hc⟩
    · cases h

theorem of_secondByte_eq_scalar {lo hi : UInt8} {f : Nat → Bytes → Front} {bs r : Bytes} {c : Char}
    (h : secondByte lo hi f bs = .scalar c r) :
    ∃ s rest, bs = s :: rest ∧ (decide (lo ≤ s) && decide (s ≤ hi)) = true ∧
      f (tailBits s) rest = .scalar c r := by
  unfold secondByte at h
  split at h
  · cases h
  · split at h
    · rename_i s rest hs
      exact ⟨s, rest, rfl, hs, h⟩
    · cases h

theorem encodeChar_ofNat_two {n : Nat} (h1 : 0x80 ≤ n) (h2 : n < 0x800) :
    encodeChar (Char.ofNat n) = [UInt8.ofNat (0xC0 + n / 64), UInt8.ofNat (0x80 + n % 64)] := by
  simp only [encodeChar, toNat_ofNat_of_valid (n := n) (by omega)]
  rw [if_neg (by omega), if_pos h2]

theorem encodeChar_ofNat_three {n : Nat} (h1 : 0x800 ≤ n) (h2 : n < 0x10000)
    (h3 : n < 0xD800 ∨ 0xDFFF < n) :
    encodeChar (Char.ofNat n) = [UInt8.ofNat (0xE0 + n / 4096), UInt8.ofNat (0x80 + n / 64 % 64),
      UInt8.ofNat (0x80 + n % 64)] := by
  simp only [encodeChar, toNat_ofNat_of_valid (n := n) (by omega)]
  rw [if_neg (by omega), if_neg (by omega), if_pos h2]

theorem encodeChar_ofNat_four {n : Nat} (h1 : 0x10000 ≤ n) (h2 : n < 0x110000) :
    encodeChar (Char.ofNat n) = [UInt8.ofNat (0xF0 + n / 262144),
      UInt8.ofNat (0x80 + n / 4096 % 64), UInt8.ofNat (0x80 + n / 64 % 64),
      UInt8.ofNat (0x80 + n % 64)] := by
  simp only [encodeChar, toNat_ofNat_of_valid (n := n) (by omega)]
  rw [if_neg (by omega), if_neg (by omega), if_neg (by omega)]

/-- The range of a second byte, as numbers. -/
theorem range_of_between {lo hi s : UInt8} (h : (decide (lo ≤ s) && decide (s ≤ hi)) = true) :
    lo.toNat ≤ s.toNat ∧ s.toNat ≤ hi.toNat := by
  simp only [Bool.and_eq_true, decide_eq_true_eq, UInt8.le_iff_toNat_le] at h
  exact h

section

variable {b : UInt8} {rest r : Bytes} {c : Char} (h : next b rest = .scalar c r)

include h

theorem eq_encodeChar_of_one (hb : b.toNat < 128) : b :: rest = encodeChar c ++ r := by
  rw [next_of_one _ hb] at h
  obtain ⟨hc, rfl⟩ := Front.scalar.inj h
  have hn : c.toNat = b.toNat := by rw [← hc, toNat_ofNat_of_valid (by omega)]
  simp [encodeChar, hn, hb]

theorem eq_encodeChar_of_two (hb : 194 ≤ b.toNat) (hb' : b.toNat < 224) :
    b :: rest = encodeChar c ++ r := by
  rw [next_of_two _ hb hb'] at h
  obtain ⟨t, rfl, ht, hc⟩ := of_lastTail_eq_scalar h
  have ht' := tailBits_lt ht
  rw [hc, encodeChar_ofNat_two (by omega) (by omega)]
  rw [show 0xC0 + ((b.toNat - 0xC0) * 64 + tailBits t) / 64 = b.toNat by omega,
    show ((b.toNat - 0xC0) * 64 + tailBits t) % 64 = tailBits t by omega, UInt8.ofNat_toNat,
    ofNat_tailBits ht]
  rfl

/-- The range of the second byte keeps out overlong forms and surrogates. -/
theorem eq_encodeChar_of_three (hb : 224 ≤ b.toNat) (hb' : b.toNat < 240) :
    b :: rest = encodeChar c ++ r := by
  rw [next_of_three _ hb hb'] at h
  obtain ⟨s, rest', rfl, hs, h⟩ := of_secondByte_eq_scalar h
  obtain ⟨t, rfl, ht, hc⟩ := of_lastTail_eq_scalar h
  have hst : isTail s = true :=
    isTail_of_between (by split_ifs <;> decide) (by split_ifs <;> decide) hs
  obtain ⟨hlo, hhi⟩ := range_of_between hs
  simp only [apply_ite UInt8.toNat, UInt8.reduceToNat] at hlo hhi
  have hs' := tailBits_lt hst
  have ht' := tailBits_lt ht
  have hv : tailBits s = s.toNat - 128 := rfl
  rw [hc, encodeChar_ofNat_three (by split_ifs at hlo <;> omega) (by omega)
    (by split_ifs at hhi <;> omega)]
  generalize hn : ((b.toNat - 0xE0) * 64 + tailBits s) * 64 + tailBits t = n
  rw [show 0xE0 + n / 4096 = b.toNat by omega, show n / 64 % 64 = tailBits s by omega,
    show n % 64 = tailBits t by omega, UInt8.ofNat_toNat, ofNat_tailBits hst, ofNat_tailBits ht]
  rfl

/-- The range of the second byte keeps out overlong forms and what lies beyond the last
character. -/
theorem eq_encodeChar_of_four (hb : 240 ≤ b.toNat) (hb' : b.toNat < 245) :
    b :: rest = encodeChar c ++ r := by
  rw [next_of_four _ hb hb'] at h
  obtain ⟨s, rest', rfl, hs, h⟩ := of_secondByte_eq_scalar h
  obtain ⟨t, v, rfl, ht, hv, hc⟩ := of_lastTwoTails_eq_scalar h
  have hst : isTail s = true :=
    isTail_of_between (by split_ifs <;> decide) (by split_ifs <;> decide) hs
  obtain ⟨hlo, hhi⟩ := range_of_between hs
  simp only [apply_ite UInt8.toNat, UInt8.reduceToNat] at hlo hhi
  have hs' := tailBits_lt hst
  have ht' := tailBits_lt ht
  have hv' := tailBits_lt hv
  have he : tailBits s = s.toNat - 128 := rfl
  rw [hc, encodeChar_ofNat_four (by split_ifs at hlo <;> omega) (by split_ifs at hhi <;> omega)]
  generalize hn : (((b.toNat - 0xF0) * 64 + tailBits s) * 64 + tailBits t) * 64 + tailBits v = n
  rw [show 0xF0 + n / 262144 = b.toNat by omega, show n / 4096 % 64 = tailBits s by omega,
    show n / 64 % 64 = tailBits t by omega, show n % 64 = tailBits v by omega,
    UInt8.ofNat_toNat, ofNat_tailBits hst, ofNat_tailBits ht, ofNat_tailBits hv]
  rfl

/-- What is read as one character is the bytes of that character. -/
theorem eq_encodeChar_append_of_next : b :: rest = encodeChar c ++ r := by
  by_cases h1 : b.toNat < 128
  · exact eq_encodeChar_of_one h h1
  by_cases hstart : b.toNat < 194 ∨ 245 ≤ b.toNat
  · rw [next_of_start _ (by omega) hstart] at h
    cases h
  by_cases h2 : b.toNat < 224
  · exact eq_encodeChar_of_two h (by omega) h2
  by_cases h3 : b.toNat < 240
  · exact eq_encodeChar_of_three h (by omega) h3
  · exact eq_encodeChar_of_four h (by omega) (by omega)

end

/-! ## Validity -/

theorem faultFrom_encode_append (offset : Nat) (cs : List Char) (rest : Bytes) :
    ∃ later, faultFrom offset (encode cs ++ rest) = faultFrom later rest := by
  induction cs generalizing offset with
  | nil => exact ⟨offset, rfl⟩
  | cons c cs ih =>
    obtain ⟨b, bs, hb, hn⟩ := next_encodeChar c (encode cs ++ rest)
    have hcons : encode (c :: cs) ++ rest = b :: (bs ++ (encode cs ++ rest)) := by
      simp [encode, hb]
    rw [hcons, faultFrom]
    split
    · rename_i d r hd
      rw [hn] at hd
      obtain ⟨-, rfl⟩ := Front.scalar.inj hd
      exact ih _
    · rename_i hd
      rw [hn] at hd
      cases hd

theorem exists_encode_of_faultFrom_eq_none (offset : Nat) (bs : Bytes)
    (h : faultFrom offset bs = none) : ∃ cs, bs = encode cs := by
  fun_induction faultFrom offset bs with
  | case1 => exact ⟨[], rfl⟩
  | case2 offset b rest c r hn ih =>
    obtain ⟨cs, hcs⟩ := ih h
    refine ⟨c :: cs, ?_⟩
    rw [eq_encodeChar_append_of_next hn, hcs]
    rfl
  | case3 => cases h

/-- Bytes without a fault are those that some characters are written as. -/
theorem isValid_iff {bs : Bytes} : isValid bs = true ↔ ∃ cs, bs = encode cs := by
  rw [isValid, fault?, Option.isNone_iff_eq_none]
  constructor
  · exact exists_encode_of_faultFrom_eq_none 0 bs
  · rintro ⟨cs, rfl⟩
    obtain ⟨later, h⟩ := faultFrom_encode_append 0 cs []
    rw [List.append_nil] at h
    rw [h, faultFrom]

theorem isValid_encode (cs : List Char) : isValid (encode cs) = true := isValid_iff.2 ⟨cs, rfl⟩

@[simp] theorem isValid_ofText (s : String) : isValid (ofText s) = true := isValid_encode _

theorem encode_append (cs ds : List Char) : encode (cs ++ ds) = encode cs ++ encode ds :=
  List.flatMap_append

theorem isValid_append {as bs : Bytes} (ha : isValid as = true) (hb : isValid bs = true) :
    isValid (as ++ bs) = true := by
  obtain ⟨cs, rfl⟩ := isValid_iff.1 ha
  obtain ⟨ds, rfl⟩ := isValid_iff.1 hb
  rw [← encode_append]
  exact isValid_encode _

theorem decodeLossy_encode (cs : List Char) : decodeLossy (encode cs) = cs := by
  have h := decodeLossy_encode_append cs []
  rw [List.append_nil] at h
  rw [h, decodeLossy, List.append_nil]

/-- Text behind text that belongs to one text is text itself. -/
theorem isValid_of_append {as bs : Bytes} (ha : isValid as = true) (h : isValid (as ++ bs) = true) :
    isValid bs = true := by
  obtain ⟨cs, rfl⟩ := isValid_iff.1 ha
  obtain ⟨es, he⟩ := isValid_iff.1 h
  have hd : cs ++ decodeLossy bs = es := by
    rw [← decodeLossy_encode_append, he, decodeLossy_encode]
  rw [← hd, encode_append] at he
  exact isValid_iff.2 ⟨_, List.append_cancel_left he⟩

/-- Reading distributes over what follows a text. -/
theorem decodeLossy_append {as : Bytes} (ha : isValid as = true) (bs : Bytes) :
    decodeLossy (as ++ bs) = decodeLossy as ++ decodeLossy bs := by
  obtain ⟨cs, rfl⟩ := isValid_iff.1 ha
  rw [decodeLossy_encode_append, decodeLossy_encode]

/-- Reading valid bytes and writing the text gives the bytes back. -/
theorem ofText_toText {bs : Bytes} (h : isValid bs = true) : ofText (toText bs) = bs := by
  obtain ⟨cs, rfl⟩ := isValid_iff.1 h
  rw [ofText, toText, String.toList_ofList, decodeLossy_encode]

@[simp] theorem toText_ofText (s : String) : toText (ofText s) = s := by
  rw [ofText, toText, decodeLossy_encode, String.ofList_toList]

/-- Valid bytes are told by the text they spell. -/
theorem eq_ofText_of_toText {bs : Bytes} {s : String} (hv : isValid bs = true)
    (h : toText bs = s) : bs = ofText s := by
  rw [← h, ofText_toText hv]

theorem ofText_append (s t : String) : ofText (s ++ t) = ofText s ++ ofText t := by
  rw [ofText, String.toList_append, encode_append]
  rfl

/-! ## Boundaries -/

/-- Whether an offset lies in some bytes where a character ends or none has begun. -/
def IsBoundary (bs : Bytes) (n : Nat) : Prop := n ≤ bs.length ∧ isValid (bs.take n) = true

instance (bs : Bytes) (n : Nat) : Decidable (IsBoundary bs n) := inferInstanceAs (Decidable (_ ∧ _))

theorem IsBoundary.isValid_drop {bs : Bytes} {n : Nat} (h : IsBoundary bs n)
    (hv : isValid bs = true) : isValid (bs.drop n) = true :=
  isValid_of_append h.2 (by rwa [List.take_append_drop])

/-- A boundary is one of the bytes up to any later offset. -/
theorem IsBoundary.take {bs : Bytes} {m n : Nat} (h : IsBoundary bs n) (hn : n ≤ m) :
    IsBoundary (bs.take m) n := by
  refine ⟨?_, ?_⟩
  · have := h.1
    rw [List.length_take]
    omega
  · rw [List.take_take, Nat.min_eq_left hn]
    exact h.2

/-- What lies between two boundaries of a text is text. -/
theorem isValid_slice {bs : Bytes} {m n : Nat} (hm : IsBoundary bs m) (hn : IsBoundary bs n) :
    isValid ((bs.drop m).take (n - m)) = true := by
  rcases Nat.le_total m n with h | h
  · refine isValid_of_append hm.2 ?_
    have hsplit : bs.take m ++ (bs.drop m).take (n - m) = bs.take n := by
      rw [← List.take_add, Nat.add_sub_cancel' h]
    rw [hsplit]
    exact hn.2
  · rw [Nat.sub_eq_zero_of_le h, List.take_zero]
    exact isValid_encode []

/-- Bytes below 128 are a character each. -/
theorem isValid_of_ascii {bs : Bytes} (h : ∀ b ∈ bs, b.toNat < 128) : isValid bs = true := by
  refine isValid_iff.2 ⟨bs.map fun b => Char.ofNat b.toNat, ?_⟩
  induction bs with
  | nil => rfl
  | cons b bs ih =>
    have hb := h b List.mem_cons_self
    have hn : (Char.ofNat b.toNat).toNat = b.toNat := toNat_ofNat_of_valid (by omega)
    have he : encodeChar (Char.ofNat b.toNat) = [b] := by
      simp [encodeChar, hn, hb]
    rw [List.map_cons, encode, List.flatMap_cons, he]
    exact congrArg (b :: ·) (ih fun x hx => h x (List.mem_cons_of_mem _ hx))

/-- Bytes below 128 can be cut anywhere. -/
theorem isBoundary_of_ascii {bs : Bytes} (h : ∀ b ∈ bs, b.toNat < 128) {n : Nat}
    (hn : n ≤ bs.length) : IsBoundary bs n :=
  ⟨hn, isValid_of_ascii fun b hb => h b (List.mem_of_mem_take hb)⟩

/-- A byte below 128 in the bytes of a character is all of them. -/
theorem encodeChar_of_mem_ascii {c : Char} {b : UInt8} (hb : b ∈ encodeChar c)
    (hascii : b.toNat < 128) : encodeChar c = [b] := by
  have hv : c.toNat < 0xD800 ∨ 0xDFFF < c.toNat ∧ c.toNat < 0x110000 := c.valid
  have hnot : ∀ n, 128 ≤ n → n < 256 → b ≠ UInt8.ofNat n := by
    rintro n hlow hhigh rfl
    rw [toNat_ofNat_of_lt hhigh] at hascii
    omega
  unfold encodeChar at hb ⊢
  generalize c.toNat = n at *
  dsimp only at hb ⊢
  split at hb
  · rename_i h
    rw [if_pos h, List.mem_singleton.1 hb]
  · -- all bytes of a longer form are 128 or more
    exfalso
    split at hb
    · simp only [List.mem_cons, List.not_mem_nil, or_false] at hb
      rcases hb with h | h <;> exact hnot _ (by omega) (by omega) h
    split at hb
    · simp only [List.mem_cons, List.not_mem_nil, or_false] at hb
      rcases hb with h | h | h <;> exact hnot _ (by omega) (by omega) h
    · simp only [List.mem_cons, List.not_mem_nil, or_false] at hb
      rcases hb with h | h | h | h <;> exact hnot _ (by omega) (by omega) h

theorem isValid_encodeChar (c : Char) : isValid (encodeChar c) = true :=
  isValid_iff.2 ⟨[c], (List.append_nil _).symm⟩

/-- What stands before a byte below 128 of a text is text. -/
theorem isValid_before_ascii {as bs : Bytes} {b : UInt8} (hascii : b.toNat < 128)
    (h : isValid (as ++ b :: bs) = true) : isValid as = true := by
  obtain ⟨cs, hcs⟩ := isValid_iff.1 h
  clear h
  induction cs generalizing as with
  | nil => cases (List.append_eq_nil_iff.1 hcs).2
  | cons c cs ih =>
    have hchar : as ++ b :: bs = encodeChar c ++ encode cs := hcs
    rcases List.append_eq_append_iff.1 hchar with ⟨front, hc, hbs⟩ | ⟨rest, rfl, hrest⟩
    · cases front with
      | nil =>
        rw [List.append_nil] at hc
        exact hc ▸ isValid_encodeChar c
      | cons b' front =>
        -- the character holds the byte, so it is the byte
        obtain ⟨rfl, -⟩ := List.cons.inj hbs
        have hone : encodeChar c = [b] := encodeChar_of_mem_ascii (by rw [hc]; simp) hascii
        rw [hone] at hc
        rcases List.singleton_eq_append_iff.1 hc with ⟨rfl, -⟩ | ⟨-, hnil⟩
        · exact isValid_encode []
        · cases hnil
    · exact isValid_append (isValid_encodeChar c) (ih hrest.symm)

/-- What stands behind a byte below 128 of a text is text. -/
theorem isValid_behind_ascii {as bs : Bytes} {b : UInt8} (hascii : b.toNat < 128)
    (h : isValid (as ++ b :: bs) = true) : isValid bs = true := by
  have hbyte : isValid [b] = true :=
    isValid_of_ascii fun x hx => List.mem_singleton.1 hx ▸ hascii
  exact isValid_of_append hbyte (isValid_of_append (isValid_before_ascii hascii h) h)

end CauseLint.Utf8
