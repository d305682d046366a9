/-!
# UTF-8

Bytes and the characters they spell. Reading is done one character at a time by `Utf8.next`; bytes
that spell no character are cut off in the longest piece that could have begun one, and the reader
goes on behind it. `decodeLossy` shows each such piece as one replacement character, and `fault?`
names the first of them.

Results:

* `next_encodeChar`: reading takes exactly one written character off the front.
* `decodeLossy_encode_append`: reading distributes over written text.
-/

namespace CauseLint

/-- Raw file content. -/
abbrev Bytes := List UInt8

namespace Utf8

/-- Why bytes at some place spell no character. -/
inductive Fault where
  /-- The first byte starts no character. -/
  | start
  /-- A byte that should continue the character does not. -/
  | continuation
  /-- The bytes end inside a character. -/
  | truncated
deriving Repr, DecidableEq

/-- The text of a fault. -/
def Fault.message : Fault → String
  | .start => "invalid start byte"
  | .continuation => "invalid continuation byte"
  | .truncated => "unexpected end of data"

/-! ## Writing -/

/-- The bytes of one character. -/
def encodeChar (c : Char) : Bytes :=
  let n := c.toNat
  if n < 0x80 then [UInt8.ofNat n]
  else if n < 0x800 then
    [UInt8.ofNat (0xC0 + n / 64), UInt8.ofNat (0x80 + n % 64)]
  else if n < 0x10000 then
    [UInt8.ofNat (0xE0 + n / 4096), UInt8.ofNat (0x80 + n / 64 % 64), UInt8.ofNat (0x80 + n % 64)]
  else
    [UInt8.ofNat (0xF0 + n / 262144), UInt8.ofNat (0x80 + n / 4096 % 64),
      UInt8.ofNat (0x80 + n / 64 % 64), UInt8.ofNat (0x80 + n % 64)]

/-- The bytes of a sequence of characters. -/
def encode (cs : List Char) : Bytes := cs.flatMap encodeChar

/-! ## Reading -/

/-- What stands at the front of some bytes: a character, or a faulty piece of `width` bytes. -/
inductive Front where
  | scalar (c : Char) (rest : Bytes)
  | faulty (fault : Fault) (width : Nat) (rest : Bytes)
deriving Repr, DecidableEq

/-- The bytes that follow the front piece. -/
def Front.rest : Front → Bytes
  | .scalar _ rest => rest
  | .faulty _ _ rest => rest

/-- Whether a byte can continue a character. -/
def isTail (b : UInt8) : Bool := 0x80 ≤ b && b ≤ 0xBF

/-- The low six bits of a continuation byte. -/
def tailBits (b : UInt8) : Nat := b.toNat - 0x80

/-- The last byte of a character whose bits so far are `high`; `width` bytes came before it. -/
def lastTail (high width : Nat) : Bytes → Front
  | [] => .faulty .truncated width []
  | b :: rest =>
    if isTail b then .scalar (Char.ofNat (high * 64 + tailBits b)) rest
    else .faulty .continuation width (b :: rest)

/-- The last two bytes of a character whose bits so far are `high`. -/
def lastTwoTails (high width : Nat) : Bytes → Front
  | [] => .faulty .truncated width []
  | b :: rest =>
    if isTail b then lastTail (high * 64 + tailBits b) (width + 1) rest
    else .faulty .continuation width (b :: rest)

/-- The second byte of a character, which the first one confines to `lo` to `hi`. -/
def secondByte (lo hi : UInt8) (next : Nat → Bytes → Front) : Bytes → Front
  | [] => .faulty .truncated 1 []
  | b :: rest =>
    if lo ≤ b && b ≤ hi then next (tailBits b) rest else .faulty .continuation 1 (b :: rest)

/-- Read the front of `b :: rest`. Overlong forms and surrogates are ruled out by the range that
the first byte leaves to the second. -/
def next (b : UInt8) (rest : Bytes) : Front :=
  if b < 0x80 then .scalar (Char.ofNat b.toNat) rest
  else if b < 0xC2 then .faulty .start 1 rest
  else if b < 0xE0 then lastTail (b.toNat - 0xC0) 1 rest
  else if b < 0xF0 then
    secondByte (if b = 0xE0 then 0xA0 else 0x80) (if b = 0xED then 0x9F else 0xBF)
      (fun low r => lastTail ((b.toNat - 0xE0) * 64 + low) 2 r) rest
  else if b < 0xF5 then
    secondByte (if b = 0xF0 then 0x90 else 0x80) (if b = 0xF4 then 0x8F else 0xBF)
      (fun low r => lastTwoTails ((b.toNat - 0xF0) * 64 + low) 2 r) rest
  else .faulty .start 1 rest

theorem length_lastTail_le (high width : Nat) (bs : Bytes) :
    (lastTail high width bs).rest.length ≤ bs.length := by
  unfold lastTail
  split
  · simp [Front.rest]
  · split <;> simp [Front.rest]

theorem length_lastTwoTails_le (high width : Nat) (bs : Bytes) :
    (lastTwoTails high width bs).rest.length ≤ bs.length := by
  unfold lastTwoTails
  split
  · simp [Front.rest]
  · rename_i b rest
    split
    · exact Nat.le_succ_of_le (length_lastTail_le _ _ rest)
    · simp [Front.rest]

theorem length_secondByte_le (lo hi : UInt8) (f : Nat → Bytes → Front)
    (hf : ∀ n r, (f n r).rest.length ≤ r.length) (bs : Bytes) :
    (secondByte lo hi f bs).rest.length ≤ bs.length := by
  unfold secondByte
  split
  · simp [Front.rest]
  · rename_i b rest
    split
    · exact Nat.le_succ_of_le (hf _ rest)
    · simp [Front.rest]

/-- Reading never gives bytes back. -/
theorem length_next_le (b : UInt8) (rest : Bytes) : (next b rest).rest.length ≤ rest.length := by
  unfold next
  split
  · simp [Front.rest]
  split
  · simp [Front.rest]
  split
  · exact length_lastTail_le _ _ rest
  split
  · exact length_secondByte_le _ _ _ (fun _ r => length_lastTail_le _ _ r) rest
  split
  · exact length_secondByte_le _ _ _ (fun _ r => length_lastTwoTails_le _ _ r) rest
  · simp [Front.rest]

/-- The character shown for a faulty piece. -/
def replacement : Char := '\uFFFD'

/-- The character that the front piece is shown as. -/
def Front.shown : Front → Char
  | .scalar c _ => c
  | .faulty _ _ _ => replacement

/-- Read all bytes, showing each faulty piece as one replacement character. -/
def decodeLossy : Bytes → List Char
  | [] => []
  | b :: rest => (next b rest).shown :: decodeLossy (next b rest).rest
termination_by bs => bs.length
decreasing_by exact Nat.lt_succ_of_le (length_next_le b rest)

/-- The first faulty piece from `offset` on: where it starts, why, and how wide it is. -/
def faultFrom (offset : Nat) : Bytes → Option (Nat × Fault × Nat)
  | [] => none
  | b :: rest =>
    match h : next b rest with
    | .scalar _ r => faultFrom (offset + (rest.length + 1 - r.length)) r
    | .faulty fault width _ => some (offset, fault, width)
termination_by bs => bs.length
decreasing_by
  have := length_next_le b rest
  rw [h] at this
  exact Nat.lt_succ_of_le this

/-- The first place where bytes spell no character. -/
def fault? (bs : Bytes) : Option (Nat × Fault × Nat) := faultFrom 0 bs

/-- Whether bytes spell text. -/
def isValid (bs : Bytes) : Bool := (fault? bs).isNone

/-- The text of some bytes, faulty pieces replaced. -/
def toText (bs : Bytes) : String := String.ofList (decodeLossy bs)

/-- The bytes of a text. -/
def ofText (s : String) : Bytes := encode s.toList

/-! ## The first byte -/

section

variable {b : UInt8} (rest : Bytes)

theorem next_of_one (h : b.toNat < 128) : next b rest = .scalar (Char.ofNat b.toNat) rest := by
  simp only [next, UInt8.lt_iff_toNat_lt, UInt8.reduceToNat]
  rw [if_pos h]

theorem next_of_two (h : 194 ≤ b.toNat) (h' : b.toNat < 224) :
    next b rest = lastTail (b.toNat - 0xC0) 1 rest := by
  simp only [next, UInt8.lt_iff_toNat_lt, UInt8.reduceToNat]
  rw [if_neg (by omega), if_neg (by omega), if_pos h']

theorem next_of_three (h : 224 ≤ b.toNat) (h' : b.toNat < 240) :
    next b rest = secondByte (if b.toNat = 224 then 0xA0 else 0x80)
      (if b.toNat = 237 then 0x9F else 0xBF)
      (fun low r => lastTail ((b.toNat - 0xE0) * 64 + low) 2 r) rest := by
  simp only [next, UInt8.lt_iff_toNat_lt, ← UInt8.toNat_inj, UInt8.reduceToNat]
  rw [if_neg (by omega), if_neg (by omega), if_neg (by omega), if_pos h']

theorem next_of_four (h : 240 ≤ b.toNat) (h' : b.toNat < 245) :
    next b rest = secondByte (if b.toNat = 240 then 0x90 else 0x80)
      (if b.toNat = 244 then 0x8F else 0xBF)
      (fun low r => lastTwoTails ((b.toNat - 0xF0) * 64 + low) 2 r) rest := by
  simp only [next, UInt8.lt_iff_toNat_lt, ← UInt8.toNat_inj, UInt8.reduceToNat]
  rw [if_neg (by omega), if_neg (by omega), if_neg (by omega), if_neg (by omega), if_pos h']

/-- Other bytes start no character. -/
theorem next_of_start (h : 128 ≤ b.toNat) (h' : b.toNat < 194 ∨ 245 ≤ b.toNat) :
    next b rest = .faulty .start 1 rest := by
  simp only [next, UInt8.lt_iff_toNat_lt, UInt8.reduceToNat]
  rw [if_neg (by omega)]
  rcases h' with h' | h'
  · rw [if_pos h']
  · rw [if_neg (by omega), if_neg (by omega), if_neg (by omega), if_neg (by omega)]

end

/-! ## Reading what was written -/

theorem toNat_ofNat_of_lt {n : Nat} (h : n < 256) : (UInt8.ofNat n).toNat = n := by
  simp [UInt8.toNat_ofNat', Nat.mod_eq_of_lt h]

section

variable {k : Nat} (hk : k < 64) (rest : Bytes)

include hk

theorem isTail_ofNat : isTail (UInt8.ofNat (0x80 + k)) = true := by
  have h1 : (UInt8.ofNat (0x80 + k)).toNat = 0x80 + k := toNat_ofNat_of_lt (by omega)
  simp only [isTail, UInt8.le_iff_toNat_le, h1, Bool.and_eq_true, decide_eq_true_eq]
  constructor
  · show 128 ≤ _ ; omega
  · show _ ≤ 191 ; omega

theorem tailBits_ofNat : tailBits (UInt8.ofNat (0x80 + k)) = k := by
  have h1 : (UInt8.ofNat (0x80 + k)).toNat = 0x80 + k := toNat_ofNat_of_lt (by omega)
  unfold tailBits
  omega

/-- A written continuation byte is read as the last one. -/
theorem lastTail_ofNat (high width : Nat) :
    lastTail high width (UInt8.ofNat (0x80 + k) :: rest) =
      .scalar (Char.ofNat (high * 64 + k)) rest := by
  rw [lastTail, if_pos (isTail_ofNat hk), tailBits_ofNat hk]

theorem lastTwoTails_ofNat (high width : Nat) :
    lastTwoTails high width (UInt8.ofNat (0x80 + k) :: rest) =
      lastTail (high * 64 + k) (width + 1) rest := by
  rw [lastTwoTails, if_pos (isTail_ofNat hk), tailBits_ofNat hk]

/-- A written continuation byte is read as the second one where the first one admits it. -/
theorem secondByte_ofNat {lo hi : UInt8} (next : Nat → Bytes → Front) (hlo : lo.toNat ≤ 0x80 + k)
    (hhi : 0x80 + k ≤ hi.toNat) :
    secondByte lo hi next (UInt8.ofNat (0x80 + k) :: rest) = next k rest := by
  have h1 : (UInt8.ofNat (0x80 + k)).toNat = 0x80 + k := toNat_ofNat_of_lt (by omega)
  have hin : (decide (lo ≤ UInt8.ofNat (0x80 + k)) && decide (UInt8.ofNat (0x80 + k) ≤ hi)) =
      true := by
    simp only [UInt8.le_iff_toNat_le, h1, Bool.and_eq_true, decide_eq_true_eq]
    exact ⟨hlo, hhi⟩
  rw [secondByte, if_pos hin, tailBits_ofNat hk]

end

section

variable {n : Nat} (rest : Bytes)

theorem next_two_bytes (h : 0x80 ≤ n) (h' : n < 0x800) :
    next (UInt8.ofNat (0xC0 + n / 64)) (UInt8.ofNat (0x80 + n % 64) :: rest) =
      .scalar (Char.ofNat n) rest := by
  have hb : (UInt8.ofNat (0xC0 + n / 64)).toNat = 0xC0 + n / 64 := toNat_ofNat_of_lt (by omega)
  rw [next_of_two _ (by omega) (by omega), hb, lastTail_ofNat (by omega)]
  exact congrArg (fun m => Front.scalar (Char.ofNat m) rest) (by omega)

/-- The second byte of three keeps out overlong forms and surrogates. -/
theorem next_three_bytes (h : 0x800 ≤ n) (h' : n < 0x10000) (hn : n < 0xD800 ∨ 0xDFFF < n) :
    next (UInt8.ofNat (0xE0 + n / 4096))
        (UInt8.ofNat (0x80 + n / 64 % 64) :: UInt8.ofNat (0x80 + n % 64) :: rest) =
      .scalar (Char.ofNat n) rest := by
  have hb : (UInt8.ofNat (0xE0 + n / 4096)).toNat = 0xE0 + n / 4096 :=
    toNat_ofNat_of_lt (by omega)
  rw [next_of_three _ (by omega) (by omega), hb, secondByte_ofNat (by omega)]
  · rw [lastTail_ofNat (by omega)]
    exact congrArg (fun m => Front.scalar (Char.ofNat m) rest) (by omega)
  · split
    · show 160 ≤ _; omega
    · show 128 ≤ _; omega
  · split
    · show _ ≤ 159; omega
    · show _ ≤ 191; omega

/-- The second byte of four keeps out overlong forms and what lies beyond the last character. -/
theorem next_four_bytes (h : 0x10000 ≤ n) (h' : n < 0x110000) :
    next (UInt8.ofNat (0xF0 + n / 262144))
        (UInt8.ofNat (0x80 + n / 4096 % 64) :: UInt8.ofNat (0x80 + n / 64 % 64) ::
          UInt8.ofNat (0x80 + n % 64) :: rest) =
      .scalar (Char.ofNat n) rest := by
  have hb : (UInt8.ofNat (0xF0 + n / 262144)).toNat = 0xF0 + n / 262144 :=
    toNat_ofNat_of_lt (by omega)
  rw [next_of_four _ (by omega) (by omega), hb, secondByte_ofNat (by omega)]
  · rw [lastTwoTails_ofNat (by omega), lastTail_ofNat (by omega)]
    exact congrArg (fun m => Front.scalar (Char.ofNat m) rest) (by omega)
  · split
    · show 144 ≤ _; omega
    · show 128 ≤ _; omega
  · split
    · show _ ≤ 143; omega
    · show _ ≤ 191; omega

end

/-- Reading takes exactly one written character off the front. -/
theorem next_encodeChar (c : Char) (rest : Bytes) :
    ∃ b bs, encodeChar c = b :: bs ∧ next b (bs ++ rest) = .scalar c rest := by
  have hv : c.toNat < 0xD800 ∨ 0xDFFF < c.toNat ∧ c.toNat < 0x110000 := c.valid
  have hc : Char.ofNat c.toNat = c := Char.ofNat_toNat c
  unfold encodeChar
  generalize c.toNat = n at *
  subst hc
  by_cases h1 : n < 0x80
  · have hb : (UInt8.ofNat n).toNat = n := toNat_ofNat_of_lt (by omega)
    refine ⟨_, _, if_pos h1, ?_⟩
    rw [next_of_one _ (by omega), hb]
    rfl
  by_cases h2 : n < 0x800
  · exact ⟨_, _, (if_neg h1).trans (if_pos h2), next_two_bytes rest (by omega) h2⟩
  by_cases h3 : n < 0x10000
  · exact ⟨_, _, (if_neg h1).trans ((if_neg h2).trans (if_pos h3)),
      next_three_bytes rest (by omega) h3 (by omega)⟩
  · exact ⟨_, _, (if_neg h1).trans ((if_neg h2).trans (if_neg h3)),
      next_four_bytes rest (by omega) (by omega)⟩

/-- Reading distributes over written text. -/
theorem decodeLossy_encode_append (cs : List Char) (rest : Bytes) :
    decodeLossy (encode cs ++ rest) = cs ++ decodeLossy rest := by
  induction cs with
  | nil => rfl
  | cons c cs ih =>
    obtain ⟨b, bs, hb, hn⟩ := next_encodeChar c (encode cs ++ rest)
    have : encode (c :: cs) ++ rest = b :: (bs ++ (encode cs ++ rest)) := by
      simp [encode, hb]
    rw [this, decodeLossy, hn]
    simp [Front.shown, Front.rest, ih]

end Utf8

end CauseLint
