import CauseLint.Proofs.Json.Strings

/-!
# Lines that are read back

A value on one line is read back by the reader, whatever its depth: no text of a value begins
another one, and behind a value comes a comma, a bracket or the end. So a line tells the value it
was written from. A line holds printable characters of ASCII only.

Results:

* `parse?_line`: a value is read back from its line.
* `line_injective`: different values have different lines.
* `isPlain_of_mem_line`: a line holds only characters from space to tilde.
-/

namespace CauseLint.Json

open Reader

/-! ## How a value begins -/

/-- A character that a value can begin with. -/
structure Begins (c : Char) : Prop where
  blank : skipBlanks [c] = [c]
  bracket : c ≠ ']'

theorem Begins.skipBlanks {c : Char} (h : Begins c) (cs : List Char) :
    skipBlanks (c :: cs) = c :: cs := by
  have hc := h.blank
  unfold Reader.skipBlanks at *
  rw [List.dropWhile_cons] at *
  split at hc
  · cases hc
  · rename_i hblank
    rw [if_neg hblank]

theorem begins_of_isDigit {c : Char} (h : c.isDigit = true) : Begins c := by
  refine ⟨?_, by rintro rfl; cases h⟩
  unfold Reader.skipBlanks
  rw [List.dropWhile_cons_of_neg]
  simp only [Bool.or_eq_true, decide_eq_true_eq, not_or]
  refine ⟨⟨⟨?_, ?_⟩, ?_⟩, ?_⟩ <;> (rintro rfl; cases h)

theorem exists_sign_digits (negative : Bool) (n : Nat) :
    ∃ c cs, sign negative ++ (toString n).toList = c :: cs ∧ Begins c := by
  have hdigits : Digits n (toString n).toList [] := digits_toString n fun c hc => by cases hc
  obtain ⟨d, ds, hds, hdigit⟩ := hdigits.head
  rw [hds]
  cases negative with
  | false => exact ⟨d, ds, rfl, begins_of_isDigit hdigit⟩
  | true => exact ⟨'-', d :: ds, rfl, rfl, by decide⟩

theorem exists_lineChars (v : Json) : ∃ c cs, lineChars v = c :: cs ∧ Begins c := by
  cases v with
  | null => exact ⟨'n', _, rfl, rfl, by decide⟩
  | bool b =>
    cases b with
    | false => exact ⟨'f', _, rfl, rfl, by decide⟩
    | true => exact ⟨'t', _, rfl, rfl, by decide⟩
  | int n =>
    obtain ⟨c, cs, hcs, hc⟩ := exists_sign_digits (n < 0) n.natAbs
    exact ⟨c, cs, (toList_toString_int n).trans hcs, hc⟩
  | decimal s m e =>
    obtain ⟨c, cs, hcs, hc⟩ := exists_sign_digits s m
    exact ⟨c, cs ++ 'e' :: (toString e).toList, congrArg (· ++ _) hcs, hc⟩
  | infinity s =>
    cases s with
    | false => exact ⟨'I', _, rfl, rfl, by decide⟩
    | true => exact ⟨'-', _, rfl, rfl, by decide⟩
  | nan => exact ⟨'N', _, rfl, rfl, by decide⟩
  | str s => exact ⟨'"', _, rfl, rfl, by decide⟩
  | arr vs => exact ⟨'[', _, rfl, rfl, by decide⟩
  | obj fs => exact ⟨'\x7b', _, rfl, rfl, by decide⟩

/-! ## Numbers as values -/

theorem value_number {n : Nat} {c : Char} {cs : List Char} (hc : c.isDigit = true ∨ c = '-') :
    value (n + 1) (c :: cs) = (nonFinite (c :: cs)).or (number (c :: cs)) := by
  have hbegins : Begins c := by
    rcases hc with hc | rfl
    · exact begins_of_isDigit hc
    · exact ⟨rfl, by decide⟩
  rw [value, hbegins.skipBlanks]
  split
  all_goals first
    | rfl
    | (rename_i heq
       obtain ⟨rfl, -⟩ := List.cons.inj heq
       rcases hc with hc | hc <;> cases hc)

theorem nonFinite_digit {d : Char} (hd : d.isDigit = true) (cs : List Char) (negative : Bool) :
    nonFinite (sign negative ++ d :: cs) = none := by
  have hI : 'I' ≠ d := by rintro rfl; cases hd
  have hN : 'N' ≠ d := by rintro rfl; cases hd
  have hminus : '-' ≠ d := by rintro rfl; cases hd
  cases negative with
  | false => simp [sign, nonFinite, hI, hN, hminus]
  | true => simp [sign, nonFinite, hI]

/-- Text that begins with the sign and the digits of a number is read as a number. -/
theorem value_sign {n m : Nat} (negative : Bool) (cs : List Char) :
    value (n + 1) (sign negative ++ (toString m).toList ++ cs) =
      number (sign negative ++ (toString m).toList ++ cs) := by
  have hdigits : Digits m (toString m).toList [] := digits_toString m fun c hc => by cases hc
  obtain ⟨d, ds, hds, hdigit⟩ := hdigits.head
  rw [hds, List.append_assoc, List.cons_append]
  have hnone := nonFinite_digit hdigit (ds ++ cs) negative
  cases negative with
  | false =>
    refine (value_number (.inl hdigit)).trans ?_
    exact congrArg (Option.or · _) hnone
  | true =>
    refine (value_number (.inr rfl)).trans ?_
    exact congrArg (Option.or · _) hnone

/-! ## Lists -/

theorem lineItems_cons_cons (v w : Json) (vs : List Json) :
    lineItems (v :: w :: vs) = lineChars v ++ ',' :: ' ' :: lineItems (w :: vs) := by
  rw [lineItems]
  rintro ⟨⟩

theorem lineFields_cons_cons (k : String) (v : Json) (f : String × Json)
    (fs : List (String × Json)) :
    lineFields ((k, v) :: f :: fs) =
      escape k ++ ':' :: ' ' :: lineChars v ++ ',' :: ' ' :: lineFields (f :: fs) := by
  rw [lineFields]
  rintro ⟨⟩

theorem exists_lineItems (v : Json) (vs : List Json) :
    ∃ c cs, lineItems (v :: vs) = c :: cs ∧ Begins c := by
  obtain ⟨c, cs, hcs, hc⟩ := exists_lineChars v
  cases vs with
  | nil => exact ⟨c, cs, hcs, hc⟩
  | cons w vs =>
    rw [lineItems_cons_cons, hcs]
    exact ⟨c, _, rfl, hc⟩

theorem exists_lineFields (k : String) (v : Json) (fs : List (String × Json)) :
    ∃ cs, lineFields ((k, v) :: fs) = escape k ++ cs := by
  cases fs with
  | nil => exact ⟨_, rfl⟩
  | cons f fs =>
    rw [lineFields_cons_cons, List.append_assoc]
    exact ⟨_, rfl⟩

theorem stops_comma (cs : List Char) : Stops (',' :: cs) := by
  rintro c ⟨⟩
  decide

theorem stops_bracket (cs : List Char) : Stops (']' :: cs) := by
  rintro c ⟨⟩
  decide

theorem stops_brace (cs : List Char) : Stops ('\x7d' :: cs) := by
  rintro c ⟨⟩
  decide

section

variable {n : Nat} {cs rest : List Char} {k : String} {v : Json}

theorem value_blank : value (n + 1) (' ' :: cs) = value (n + 1) cs := rfl

theorem items_blank {read : List Json} : items (n + 2) (' ' :: cs) read = items (n + 2) cs read :=
  rfl

theorem items_comma {read : List Json} (h : value n cs = some (v, ',' :: rest)) :
    items (n + 1) cs read = items n rest (v :: read) := by
  rw [items, h]
  rfl

theorem items_bracket {read : List Json} (h : value n cs = some (v, ']' :: rest)) :
    items (n + 1) cs read = some ((v :: read).reverse, rest) := by
  rw [items, h]
  rfl

theorem value_bracket :
    value (n + 1) ('[' :: cs) =
      match skipBlanks cs with
      | ']' :: rest => some (.arr [], rest)
      | rest => (items n rest []).map fun (vs, rest) => (.arr vs, rest) := rfl

theorem value_items {c : Char} (hc : Begins c) :
    value (n + 1) ('[' :: c :: cs) =
      (items n (c :: cs) []).map fun (vs, rest) => (.arr vs, rest) := by
  rw [value_bracket, hc.skipBlanks]
  split
  · rename_i heq
    exact absurd (List.cons.inj heq).1 hc.bracket
  · rfl

theorem fields_blank {read : List (String × Json)} :
    fields (n + 1) (' ' :: cs) read = fields (n + 1) cs read := rfl

theorem fields_quote {read : List (String × Json)} :
    fields (n + 1) ('"' :: cs) read =
      match stringBody none [] cs with
      | none => none
      | some (key, rest) =>
        match skipBlanks rest with
        | ':' :: rest =>
          match value n rest with
          | none => none
          | some (v, rest) =>
            match skipBlanks rest with
            | ',' :: rest => fields n rest ((key, v) :: read)
            | '\x7d' :: rest => some (((key, v) :: read).reverse, rest)
            | _ => none
        | _ => none := rfl

theorem fields_key {read : List (String × Json)} :
    fields (n + 1) (escape k ++ ':' :: cs) read =
      match value n cs with
      | none => none
      | some (v, rest) =>
        match skipBlanks rest with
        | ',' :: rest => fields n rest ((k, v) :: read)
        | '\x7d' :: rest => some (((k, v) :: read).reverse, rest)
        | _ => none := by
  rw [escape, List.append_assoc, List.singleton_append, List.cons_append, fields_quote,
    stringBody_escape]
  rfl

theorem fields_comma {read : List (String × Json)} (h : value n cs = some (v, ',' :: rest)) :
    fields (n + 1) (escape k ++ ':' :: cs) read = fields n rest ((k, v) :: read) := by
  rw [fields_key, h]
  rfl

theorem fields_brace {read : List (String × Json)} (h : value n cs = some (v, '\x7d' :: rest)) :
    fields (n + 1) (escape k ++ ':' :: cs) read = some (((k, v) :: read).reverse, rest) := by
  rw [fields_key, h]
  rfl

theorem value_fields : value (n + 1) ('\x7b' :: (escape k ++ cs)) =
    (fields n (escape k ++ cs) []).map fun (fs, rest) => (.obj fs, rest) := rfl

end

/-! ## Values -/

mutual
/-- A value is read back, and what comes behind it is left. -/
theorem value_lineChars : ∀ (n : Nat) (v : Json), (lineChars v).length < n →
    ∀ {rest : List Char}, Stops rest → value n (lineChars v ++ rest) = some (v, rest)
  | n + 1, .null, _, rest, _ => rfl
  | n + 1, .bool b, _, rest, _ => by cases b <;> rfl
  | n + 1, .int k, _, rest, h => by
    show value (n + 1) ((toString k).toList ++ rest) = _
    rw [← number_int k h, toList_toString_int, value_sign]
  | n + 1, .decimal s m e, _, rest, h => by
    have htext : lineChars (.decimal s m e) ++ rest =
        sign s ++ (toString m).toList ++ ('e' :: (toString e).toList ++ rest) := by
      rw [lineChars, decimalText, List.append_assoc]
      rfl
    rw [← number_decimal s m e h, htext, value_sign, ← htext]
    rfl
  | n + 1, .infinity s, _, rest, _ => by cases s <;> rfl
  | n + 1, .nan, _, rest, _ => rfl
  | n + 1, .str s, _, rest, _ => by
    show (stringBody none [] (s.toList.flatMap escapeChar ++ ['"'] ++ rest)).map _ = _
    rw [List.append_assoc, List.singleton_append, stringBody_escape]
    rfl
  | n + 1, .arr [], _, rest, _ => rfl
  | n + 1, .arr (v :: vs), hn, rest, _ => by
    simp only [lineChars, List.length_append, List.length_cons, List.length_nil] at hn
    have hitems := items_lineItems n v vs (by omega) [] rest
    obtain ⟨c, cs, hcs, hc⟩ := exists_lineItems v vs
    rw [hcs] at hitems
    rw [lineChars, hcs, List.append_assoc]
    refine (value_items hc).trans ?_
    exact congrArg (Option.map fun (vs, rest) => (Json.arr vs, rest)) hitems
  | n + 1, .obj [], _, rest, _ => rfl
  | n + 1, .obj ((k, v) :: fs), hn, rest, _ => by
    simp only [lineChars, List.length_append, List.length_cons, List.length_nil] at hn
    have hfields := fields_lineFields n k v fs (by omega) [] rest
    obtain ⟨cs, hcs⟩ := exists_lineFields k v fs
    rw [hcs, List.append_assoc] at hfields
    rw [lineChars, hcs, List.append_assoc, List.cons_append, List.append_assoc]
    refine value_fields.trans ?_
    exact congrArg (Option.map fun (fs, rest) => (Json.obj fs, rest)) hfields
termination_by n => n

/-- The items of an array are read back behind those that were read. -/
theorem items_lineItems : ∀ (n : Nat) (v : Json) (vs : List Json),
    (lineItems (v :: vs)).length + 1 < n → ∀ (read : List Json) (rest : List Char),
      items n (lineItems (v :: vs) ++ ']' :: rest) read = some (read.reverse ++ v :: vs, rest)
  | n + 1, v, [], hn, read, rest => by
    rw [lineItems] at hn ⊢
    rw [items_bracket (value_lineChars _ v (by omega) (stops_bracket rest)), List.reverse_cons]
  | n + 1, v, w :: vs, hn, read, rest => by
    rw [lineItems_cons_cons] at hn ⊢
    simp only [List.length_append, List.length_cons] at hn
    obtain ⟨m, rfl⟩ : ∃ m, n = m + 2 := ⟨n - 2, by omega⟩
    rw [List.append_assoc, List.cons_append, List.cons_append,
      items_comma (value_lineChars _ v (by omega) (stops_comma _)), items_blank,
      items_lineItems _ w vs (by omega), List.reverse_cons, List.append_assoc,
      List.singleton_append]
termination_by n => n

/-- The fields of an object are read back behind those that were read. -/
theorem fields_lineFields : ∀ (n : Nat) (k : String) (v : Json) (fs : List (String × Json)),
    (lineFields ((k, v) :: fs)).length + 1 < n →
      ∀ (read : List (String × Json)) (rest : List Char),
        fields n (lineFields ((k, v) :: fs) ++ '\x7d' :: rest) read =
          some (read.reverse ++ (k, v) :: fs, rest)
  | n + 1, k, v, [], hn, read, rest => by
    rw [lineFields] at hn ⊢
    simp only [List.length_append, List.length_cons] at hn
    obtain ⟨m, rfl⟩ : ∃ m, n = m + 1 := ⟨n - 1, by omega⟩
    rw [List.append_assoc, List.cons_append, List.cons_append]
    rw [fields_brace ((value_blank).trans (value_lineChars _ v (by omega) (stops_brace rest))),
      List.reverse_cons]
  | n + 1, k, v, (k', w) :: fs, hn, read, rest => by
    rw [lineFields_cons_cons] at hn ⊢
    simp only [List.length_append, List.length_cons] at hn
    obtain ⟨m, rfl⟩ : ∃ m, n = m + 1 := ⟨n - 1, by omega⟩
    simp only [List.append_assoc, List.cons_append]
    rw [fields_comma ((value_blank).trans (value_lineChars _ v (by omega) (stops_comma _))),
      fields_blank, fields_lineFields _ k' w fs (by omega), List.reverse_cons, List.append_assoc,
      List.singleton_append]
termination_by n => n
end

/-- A value is read back from its line. -/
theorem parse?_line (v : Json) : parse? v.line = some v := by
  unfold parse? line
  rw [String.toList_ofList]
  have hstops : Stops [] := by rintro c ⟨⟩
  have hvalue := value_lineChars _ v (Nat.lt_succ_self _) hstops
  rw [List.append_nil] at hvalue
  dsimp only
  rw [hvalue]
  rfl

/-- Different values have different lines. -/
theorem line_injective : Function.Injective line := by
  intro v w h
  have hread := parse?_line v
  rw [h, parse?_line w] at hread
  exact (Option.some.inj hread).symm

/-! ## What a line is written with -/

theorem isPlain_of_isDigit {c : Char} (h : c.isDigit = true) : isPlain c = true := by
  simp only [Char.isDigit, Bool.and_eq_true, decide_eq_true_eq] at h
  have h0 : (48 : UInt32) ≤ c.val := h.1
  have h9 : c.val ≤ (57 : UInt32) := h.2
  unfold isPlain
  rw [Bool.and_eq_true, decide_eq_true_eq, decide_eq_true_eq]
  exact ⟨UInt32.le_trans (by decide) h0, UInt32.le_trans h9 (by decide)⟩

theorem isPlain_of_mem_sign (negative : Bool) : ∀ c ∈ sign negative, isPlain c = true := by
  cases negative <;> exact List.all_eq_true.1 (by decide)

theorem isPlain_of_mem_nat (n : Nat) : ∀ c ∈ (toString n).toList, isPlain c = true :=
  fun _ hc => isPlain_of_isDigit (Decimal.isDigit_of_mem_toString hc)

theorem isPlain_of_mem_int (n : Int) : ∀ c ∈ (toString n).toList, isPlain c = true := by
  intro c hc
  rcases Decimal.isDigit_of_mem_toString_int hc with rfl | hc
  · decide
  · exact isPlain_of_isDigit hc

mutual
theorem isPlain_of_mem_lineChars : ∀ v : Json, ∀ c ∈ lineChars v, isPlain c = true
  | .null => List.all_eq_true.1 (by decide)
  | .bool b => by cases b <;> exact List.all_eq_true.1 (by decide)
  | .int n => isPlain_of_mem_int n
  | .decimal s m e => by
    refine List.forall_mem_append.2 ⟨List.forall_mem_append.2 ⟨?_, isPlain_of_mem_nat m⟩, ?_⟩
    · exact isPlain_of_mem_sign s
    · exact List.forall_mem_cons.2 ⟨by decide, isPlain_of_mem_int e⟩
  | .infinity s => by cases s <;> exact List.all_eq_true.1 (by decide)
  | .nan => List.all_eq_true.1 (by decide)
  | .str s => isPlain_of_mem_escape s
  | .arr vs => by
    rw [lineChars]
    refine List.forall_mem_append.2 ⟨List.forall_mem_cons.2 ⟨by decide, ?_⟩, ?_⟩
    · exact isPlain_of_mem_lineItems vs
    · exact List.forall_mem_singleton.2 (by decide)
  | .obj fs => by
    rw [lineChars]
    refine List.forall_mem_append.2 ⟨List.forall_mem_cons.2 ⟨by decide, ?_⟩, ?_⟩
    · exact isPlain_of_mem_lineFields fs
    · exact List.forall_mem_singleton.2 (by decide)

theorem isPlain_of_mem_lineItems : ∀ vs : List Json, ∀ c ∈ lineItems vs, isPlain c = true
  | [] => by rintro c ⟨⟩
  | [v] => isPlain_of_mem_lineChars v
  | v :: w :: vs => by
    rw [lineItems_cons_cons]
    refine List.forall_mem_append.2 ⟨isPlain_of_mem_lineChars v, ?_⟩
    refine List.forall_mem_cons.2 ⟨by decide, List.forall_mem_cons.2 ⟨by decide, ?_⟩⟩
    exact isPlain_of_mem_lineItems (w :: vs)

theorem isPlain_of_mem_lineFields :
    ∀ fs : List (String × Json), ∀ c ∈ lineFields fs, isPlain c = true
  | [] => by rintro c ⟨⟩
  | [(k, v)] => by
    rw [lineFields]
    refine List.forall_mem_append.2 ⟨isPlain_of_mem_escape k, ?_⟩
    refine List.forall_mem_cons.2 ⟨by decide, List.forall_mem_cons.2 ⟨by decide, ?_⟩⟩
    exact isPlain_of_mem_lineChars v
  | (k, v) :: f :: fs => by
    rw [lineFields_cons_cons]
    refine List.forall_mem_append.2 ⟨List.forall_mem_append.2 ⟨isPlain_of_mem_escape k, ?_⟩, ?_⟩
    · refine List.forall_mem_cons.2 ⟨by decide, List.forall_mem_cons.2 ⟨by decide, ?_⟩⟩
      exact isPlain_of_mem_lineChars v
    · refine List.forall_mem_cons.2 ⟨by decide, List.forall_mem_cons.2 ⟨by decide, ?_⟩⟩
      exact isPlain_of_mem_lineFields (f :: fs)
end

/-- A line holds only characters from space to tilde. -/
theorem isPlain_of_mem_line (v : Json) : ∀ c ∈ v.line.toList, isPlain c = true := by
  unfold line
  rw [String.toList_ofList]
  exact isPlain_of_mem_lineChars v

end CauseLint.Json
