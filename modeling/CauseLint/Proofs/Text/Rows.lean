import CauseLint.Proofs.Syntax.Traversal
import CauseLint.Proofs.Text.Validity
import CauseLint.Syntax.Unit
import Mathlib.Data.List.DropRight

/-!
# Rows and columns

An offset divides its row into what stands before it and what stands from it on. The line of the
offset is both together without the carriage returns at its end, and the column counts the
characters of that line before the offset. Where offsets lie between characters, so do the
beginnings of their rows, since a line feed is a character of its own; so columns grow along a row,
and a stretch of a row is found in its line by the columns of its two ends.

Results:

* `getElem?_splitLines`: the line of an offset.
* `columnOf_mono`: columns do not decrease along a row.
* `SourceUnit.textOf_eq_columns`: the columns of a node select its text.
-/

namespace CauseLint

/-! ## Lines between line feeds -/

theorem splitLines_append (as bs : Bytes) :
    splitLines (as ++ lineFeed :: bs) = splitLines as ++ splitLines bs := by
  induction as with
  | nil => rfl
  | cons a as ih =>
    rw [List.cons_append, splitLines, splitLines, ih]
    split
    · rfl
    · cases has : splitLines as with
      | nil => exact absurd has (splitLines_ne_nil as)
      | cons l ls => rfl

theorem length_splitLines (bs : Bytes) : (splitLines bs).length = bs.count lineFeed + 1 := by
  induction bs with
  | nil => rfl
  | cons b bs ih =>
    rw [splitLines]
    split
    · rename_i hb
      rw [hb, List.count_cons_self, List.length_cons, ih]
    · rename_i hb
      rw [List.count_cons_of_ne hb, ← ih]
      cases hls : splitLines bs with
      | nil => exact absurd hls (splitLines_ne_nil bs)
      | cons l ls => rfl

/-- The first line ends before the first line feed. -/
theorem head?_splitLines (bs : Bytes) :
    (splitLines bs).head? = some (bs.takeWhile (· != lineFeed)) := by
  induction bs with
  | nil => rfl
  | cons b bs ih =>
    rw [splitLines]
    split
    · rename_i hb
      rw [hb]
      rfl
    · rename_i hb
      rw [List.takeWhile_cons_of_pos (by simpa using hb)]
      cases hls : splitLines bs with
      | nil => exact absurd hls (splitLines_ne_nil bs)
      | cons l ls =>
        rw [hls] at ih
        rw [← Option.some.inj ih]
        rfl

/-! ## The row of an offset -/

/-- What its row has before an offset. -/
def rowFront (source : Bytes) (n : Nat) : Bytes := (source.take n).rtakeWhile (· != lineFeed)

/-- What its row has from an offset on. -/
def rowRest (source : Bytes) (n : Nat) : Bytes := (source.drop n).takeWhile (· != lineFeed)

/-- A row begins at the source or behind a line feed. -/
theorem rowFront_cases (source : Bytes) (n : Nat) :
    source.take n = rowFront source n ∨
      ∃ before, source.take n = before ++ lineFeed :: rowFront source n := by
  have hsplit : source.take n = (source.take n).rdropWhile (· != lineFeed) ++ rowFront source n :=
    List.rdropWhile_append_rtakeWhile.symm
  rcases List.eq_nil_or_concat' ((source.take n).rdropWhile (· != lineFeed)) with
    hnil | ⟨before, b, hconcat⟩
  · rw [hnil] at hsplit
    exact .inl hsplit
  · refine .inr ⟨before, ?_⟩
    have hlast := List.rdropWhile_last_not (· != lineFeed) (source.take n)
      (by rw [hconcat]; simp)
    obtain rfl : b = lineFeed := by simpa [hconcat] using hlast
    rw [hconcat, List.append_assoc] at hsplit
    exact hsplit

theorem ne_lineFeed_of_mem_rowFront {source : Bytes} {n : Nat} {b : UInt8}
    (h : b ∈ rowFront source n) : (b != lineFeed) = true :=
  List.mem_rtakeWhile_imp (p := (· != lineFeed)) h

theorem notMem_rowFront (source : Bytes) (n : Nat) : lineFeed ∉ rowFront source n := by
  intro h
  simpa using ne_lineFeed_of_mem_rowFront h

/-- The line of an offset is what its row has before it and from it on. -/
theorem getElem?_splitLines (source : Bytes) (n : Nat) :
    (splitLines source)[rowOf source n]? = some (rowFront source n ++ rowRest source n) := by
  have hrow : (rowFront source n ++ source.drop n).takeWhile (· != lineFeed) =
      rowFront source n ++ rowRest source n :=
    List.takeWhile_append_of_pos fun b hb => ne_lineFeed_of_mem_rowFront hb
  have hhead : (splitLines (rowFront source n ++ source.drop n))[0]? =
      some (rowFront source n ++ rowRest source n) := by
    rw [← List.head?_eq_getElem?, head?_splitLines, hrow]
  have hcount : (rowFront source n).count lineFeed = 0 :=
    List.count_eq_zero.2 (notMem_rowFront source n)
  unfold rowOf
  rcases rowFront_cases source n with htake | ⟨before, htake⟩
  · rw [htake, hcount]
    rwa [← htake, List.take_append_drop, htake] at hhead
  · rw [htake, List.count_append, List.count_cons_self, hcount, Nat.zero_add,
      ← length_splitLines]
    conv_lhs => rw [← List.take_append_drop n source, htake, List.append_assoc, List.cons_append,
      splitLines_append, List.getElem?_append_right (Nat.le_refl _), Nat.sub_self]
    exact hhead

theorem lineBytes_rowOf (source : Bytes) (n : Nat) :
    lineBytes source ((rowOf source n + 1 : Nat) : Int) =
      dropCarriageReturns (rowFront source n ++ rowRest source n) := by
  have hindex : (((rowOf source n + 1 : Nat) : Int) - 1).toNat = rowOf source n := by omega
  rw [lineBytes, if_pos (by omega), hindex, getElem?_splitLines]

theorem columnBytes_eq {source : Bytes} {n : Nat} (hn : n ≤ source.length) :
    columnBytes source n = (rowFront source n).length := by
  have hlength := congrArg List.length
    (List.rdropWhile_append_rtakeWhile (p := (· != lineFeed)) (l := source.take n))
  rw [List.length_append, List.length_take, Nat.min_eq_left hn, List.rdropWhile,
    List.length_reverse] at hlength
  unfold columnBytes rowFront
  omega

/-- Before a boundary stands text, from the beginning of the row on. -/
theorem isValid_rowFront {source : Bytes} {n : Nat} (hn : Utf8.IsBoundary source n) :
    Utf8.isValid (rowFront source n) = true := by
  have hvalid := hn.2
  rcases rowFront_cases source n with htake | ⟨before, htake⟩
  · rwa [htake] at hvalid
  · rw [htake] at hvalid
    exact Utf8.isValid_behind_ascii (by decide) hvalid

/-! ## Two offsets of one row -/

theorem take_eq_append {source : Bytes} {m n : Nat} (hmn : m ≤ n) :
    source.take n = source.take m ++ (source.drop m).take (n - m) := by
  rw [← List.take_add, Nat.add_sub_cancel' hmn]

theorem rowOf_mono (source : Bytes) {m n : Nat} (hmn : m ≤ n) :
    rowOf source m ≤ rowOf source n := by
  unfold rowOf
  rw [take_eq_append hmn, List.count_append]
  exact Nat.le_add_right _ _

/-- Between two offsets of one row there is no line feed. -/
theorem rowFront_eq_append {source : Bytes} {m n : Nat} (hmn : m ≤ n)
    (hrow : rowOf source m = rowOf source n) :
    rowFront source n = rowFront source m ++ (source.drop m).take (n - m) := by
  have hnone : lineFeed ∉ (source.drop m).take (n - m) := by
    unfold rowOf at hrow
    rw [take_eq_append hmn, List.count_append] at hrow
    exact List.count_eq_zero.1 (by omega)
  have hpass : ∀ b ∈ ((source.drop m).take (n - m)).reverse, (b != lineFeed) = true := by
    intro b hb
    rw [bne_iff_ne]
    rintro rfl
    exact hnone (List.mem_reverse.1 hb)
  unfold rowFront List.rtakeWhile
  rw [take_eq_append hmn, List.reverse_append, List.takeWhile_append_of_pos hpass,
    List.reverse_append, List.reverse_reverse]

/-- Two offsets of one row are on one line. -/
theorem line_eq_of_rowOf_eq {source : Bytes} {m n : Nat}
    (hrow : rowOf source m = rowOf source n) :
    rowFront source m ++ rowRest source m = rowFront source n ++ rowRest source n :=
  Option.some.inj ((getElem?_splitLines source m).symm.trans
    (hrow ▸ getElem?_splitLines source n))

/-! ## Columns -/

theorem dropCarriageReturns_isPrefixOf (bs : Bytes) : dropCarriageReturns bs <+: bs :=
  List.rdropWhile_prefix _ _

theorem columnOf_eq {source : Bytes} {n : Nat} (hn : n ≤ source.length) :
    columnOf source n =
      (Utf8.decodeLossy ((dropCarriageReturns (rowFront source n ++ rowRest source n)).take
        (rowFront source n).length)).length + 1 := by
  have hline : lineBytes source ((rowOf source n : Int) + 1) =
      dropCarriageReturns (rowFront source n ++ rowRest source n) := lineBytes_rowOf source n
  rw [columnOf, hline, columnBytes_eq hn]

/-- Where the line goes on up to an offset, the column counts the characters before it. -/
theorem columnOf_of_goesOn {source : Bytes} {n : Nat} (hn : n ≤ source.length)
    (hbefore : rowFront source n <+:
      dropCarriageReturns (rowFront source n ++ rowRest source n)) :
    columnOf source n = (Utf8.decodeLossy (rowFront source n)).length + 1 := by
  rw [columnOf_eq hn, ← List.prefix_iff_eq_take.1 hbefore]

/-- Along a row the columns do not decrease, also where they stop at the carriage returns. -/
theorem columnOf_mono {source : Bytes} {m n : Nat} (hm : Utf8.IsBoundary source m) (hmn : m ≤ n)
    (hn : n ≤ source.length) (hrow : rowOf source m = rowOf source n) :
    columnOf source m ≤ columnOf source n := by
  rw [columnOf_eq hm.1, columnOf_eq hn, line_eq_of_rowOf_eq hrow, Nat.add_le_add_iff_right]
  have hfront := rowFront_eq_append hmn hrow
  have hline := dropCarriageReturns_isPrefixOf (rowFront source n ++ rowRest source n)
  generalize dropCarriageReturns (rowFront source n ++ rowRest source n) = line at hline ⊢
  have hlength : (rowFront source m).length ≤ (rowFront source n).length := by
    rw [hfront, List.length_append]
    exact Nat.le_add_right _ _
  rcases Nat.le_total (rowFront source m).length line.length with hle | hle
  · have htake : line.take (rowFront source m).length = rowFront source m := by
      have hbefore : rowFront source m <+: rowFront source n ++ rowRest source n := by
        rw [hfront, List.append_assoc]
        exact List.prefix_append _ _
      exact (List.prefix_iff_eq_take.1 (List.prefix_of_prefix_length_le hbefore hline hle)).symm
    rw [take_eq_append hlength, htake, Utf8.decodeLossy_append (isValid_rowFront hm),
      List.length_append]
    exact Nat.le_add_right _ _
  · rw [List.take_of_length_le hle, List.take_of_length_le (Nat.le_trans hle hlength)]

/-! ## The text of a span -/

/-- A node that begins and ends between characters of one line, before the carriage returns at its
end, has for its text the characters of that line from its first column up to the one behind it. -/
theorem SourceUnit.textOf_eq_columns {u : SourceUnit} {c : Cursor} (hc : c.start ≤ c.stop)
    (hstart : Utf8.IsBoundary u.source c.start) (hstop : Utf8.IsBoundary u.source c.stop)
    (hline : (u.spanOf c).startLine = (u.spanOf c).stopLine)
    (hend : columnBytes u.source c.stop ≤ (lineBytes u.source (u.spanOf c).stopLine).length) :
    let span := u.spanOf c
    ((lineText u.source span.startLine).toList.take (span.stopColumn - 1)).drop
      (span.startColumn - 1) = (u.textOf c).toList := by
  intro span
  have hrow : rowOf u.source c.start = rowOf u.source c.stop := Nat.succ.inj hline
  have hfront : rowFront u.source c.stop = rowFront u.source c.start ++ u.bytesOf c :=
    rowFront_eq_append hc hrow
  have hshown : lineBytes u.source span.startLine =
      dropCarriageReturns (rowFront u.source c.stop ++ rowRest u.source c.stop) :=
    hline ▸ lineBytes_rowOf u.source c.stop
  rw [columnBytes_eq hstop.1, ← hline, hshown] at hend
  obtain ⟨rest, hrest⟩ := List.prefix_of_prefix_length_le (List.prefix_append _ _)
    (dropCarriageReturns_isPrefixOf _) hend
  have hstopColumn : span.stopColumn =
      (Utf8.decodeLossy (rowFront u.source c.stop)).length + 1 :=
    columnOf_of_goesOn hstop.1 ⟨rest, hrest⟩
  have hstartColumn : span.startColumn =
      (Utf8.decodeLossy (rowFront u.source c.start)).length + 1 := by
    refine columnOf_of_goesOn hstart.1 ?_
    rw [line_eq_of_rowOf_eq hrow, ← hrest, hfront, List.append_assoc]
    exact List.prefix_append _ _
  have hbytes : Utf8.isValid (u.bytesOf c) = true := Utf8.isValid_slice hstart hstop
  have htext : lineText u.source span.startLine = String.ofList
      (Utf8.decodeLossy (rowFront u.source c.start) ++ Utf8.decodeLossy (u.bytesOf c) ++
        Utf8.decodeLossy rest) := by
    rw [lineText, hshown, ← hrest, Utf8.toText, Utf8.decodeLossy_append (isValid_rowFront hstop),
      hfront, Utf8.decodeLossy_append (isValid_rowFront hstart)]
  rw [htext, hstopColumn, hstartColumn, hfront,
    Utf8.decodeLossy_append (isValid_rowFront hstart), String.toList_ofList, Nat.add_sub_cancel,
    Nat.add_sub_cancel, List.take_left, List.drop_left, SourceUnit.textOf, Utf8.toText,
    String.toList_ofList]

/-- A call on the second line of a source with characters of all widths. -/
def wideCall : Tree :=
  .node { kind := "method_invocation", start := 21, stop := 29 } [
    .node { kind := "identifier", start := 21, stop := 22, field := some "name" } [],
    .node { kind := "argument_list", start := 22, stop := 29, field := some "arguments" } [
      .node { kind := "(", isNamed := false, start := 22, stop := 23 } [],
      .node { kind := "string_literal", start := 23, stop := 28 } [],
      .node { kind := ")", isNamed := false, start := 28, stop := 29 } []]]

/-- The unit of that source. -/
def wide : SourceUnit where
  path := "A.java"
  source := Utf8.ofText "// ü\x0d\n  s(\"𝄞é\", f(\"€\"));\x0d\n"
  tree := .node { kind := "program", start := 0, stop := 33 } [wideCall]

/-- The call is found by the columns 11 to 16 of the second line. -/
theorem SourceUnit.textOf_eq_columns_wide :
    let call : Cursor := ⟨wideCall, [(wide.tree, 0)]⟩
    let span := wide.spanOf call
    call ∈ wide.root.preorder ∧ Utf8.IsBoundary wide.source call.start ∧
    Utf8.IsBoundary wide.source call.stop ∧ span.startLine = 2 ∧ span.stopLine = 2 ∧
    span.startColumn = 11 ∧ span.stopColumn = 17 ∧
    columnBytes wide.source call.stop ≤ (lineBytes wide.source 2).length ∧
    wide.textOf call = "f(\"€\")" ∧
    ((lineText wide.source 2).toList.take 16).drop 10 = "f(\"€\")".toList := by
  intro call span
  have hstart : Utf8.IsBoundary wide.source call.start := by decide +kernel
  have hstop : Utf8.IsBoundary wide.source call.stop := by decide +kernel
  have hspan : span.startLine = 2 ∧ span.stopLine = 2 ∧ span.startColumn = 11 ∧
      span.stopColumn = 17 := by
    decide +kernel
  have hend : columnBytes wide.source call.stop ≤ (lineBytes wide.source 2).length := by
    decide +kernel
  have htext : wide.textOf call = "f(\"€\")" := by decide +kernel
  obtain ⟨hstartLine, hstopLine, hstartColumn, hstopColumn⟩ := hspan
  have hcolumns : ((lineText wide.source span.startLine).toList.take (span.stopColumn - 1)).drop
      (span.startColumn - 1) = (wide.textOf call).toList :=
    textOf_eq_columns (by decide) hstart hstop (hstartLine.trans hstopLine.symm)
      (hstopLine ▸ hend)
  rw [hstartLine, hstartColumn, hstopColumn, htext] at hcolumns
  have hbelow : call ∈ wide.root.preorder :=
    Cursor.mem_preorder_iff.2 ((Cursor.Below.refl _).child List.mem_cons_self)
  exact ⟨hbelow, hstart, hstop, hstartLine, hstopLine, hstartColumn, hstopColumn, hend, htext,
    hcolumns⟩

end CauseLint
