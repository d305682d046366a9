import CauseLint.Proofs.Edit.Splice
import CauseLint.Proofs.Effects
import CauseLint.Proofs.Text.Rows
import CauseLint.Report.Sources
import Mathlib.Data.String.Basic

/-!
# The line of a fix

The help for a finding quotes the line of its fix as it reads with the fix applied. The line is cut
out of the patched source, though all that is known are offsets of the original one. That is enough:
in front of the fix both sources are the same, and behind the bytes that the fix puts in the patched
source goes on like the original one behind the stretch that is taken out.

Results:

* `LineBegins.lineStart`, `LineEnds.of_rowRest`: where the line of an offset begins and ends.
* `Sources.fixedLine_shows_line`: what is shown for a fix of one replacement.
-/

namespace CauseLint

variable {source : Bytes} {n : Nat}

/-! ## Where a line begins and ends -/

/-- The line of an offset begins at `start`: there is no line feed from there up to the offset, and
one in front of it, unless it is the start of the source. -/
structure LineBegins (source : Bytes) (offset start : Nat) : Prop where
  le : start ≤ offset
  feed : start = 0 ∨ source[start - 1]? = some lineFeed
  line : lineFeed ∉ (source.take offset).drop start

/-- The line of an offset ends at `stop`: there is no line feed from the offset up to there, and one
at that place, unless it is the end of the source. -/
structure LineEnds (source : Bytes) (offset stop : Nat) : Prop where
  le : offset ≤ stop
  feed : stop = source.length ∨ source[stop]? = some lineFeed
  line : lineFeed ∉ (source.take stop).drop offset

theorem decide_ne_lineFeed : (fun b : UInt8 => decide (b ≠ lineFeed)) = (· != lineFeed) := by
  funext b
  by_cases hb : b = lineFeed <;> simp [hb]

theorem lineStart_add_length_rowFront (hn : n ≤ source.length) :
    lineStart source n + (rowFront source n).length = n := by
  have hsplit := congrArg List.length
    (List.rdropWhile_append_rtakeWhile (p := (· != lineFeed)) (l := source.take n))
  rw [List.length_append, List.length_take, Nat.min_eq_left hn, List.rdropWhile,
    List.length_reverse] at hsplit
  rw [lineStart, decide_ne_lineFeed]
  exact hsplit

theorem drop_lineStart (hn : n ≤ source.length) :
    (source.take n).drop (lineStart source n) = rowFront source n := by
  have hlength := lineStart_add_length_rowFront hn
  have hsuffix : rowFront source n <:+ source.take n := List.rtakeWhile_suffix _ _
  rw [List.suffix_iff_eq_drop.1 hsuffix, List.length_take, Nat.min_eq_left hn]
  congr 1
  omega

/-- The line of an offset begins behind the last line feed before it. -/
theorem LineBegins.lineStart (hn : n ≤ source.length) :
    LineBegins source n (lineStart source n) := by
  have hlength := lineStart_add_length_rowFront hn
  refine ⟨by omega, ?_, ?_⟩
  · rcases rowFront_cases source n with htake | ⟨before, htake⟩
    · left
      have := congrArg List.length htake
      rw [List.length_take, Nat.min_eq_left hn] at this
      omega
    · right
      have hbefore := congrArg List.length htake
      rw [List.length_take, Nat.min_eq_left hn, List.length_append, List.length_cons] at hbefore
      have hplace : CauseLint.lineStart source n - 1 = before.length := by omega
      have hget : (source.take n)[before.length]? = some lineFeed := by
        rw [htake, List.getElem?_append_right (Nat.le_refl _), Nat.sub_self]
        rfl
      rwa [List.getElem?_take_of_lt (by omega), ← hplace] at hget
  · rw [drop_lineStart hn]
    exact notMem_rowFront source n

theorem take_drop_rowRest : (source.drop n).take (rowRest source n).length = rowRest source n :=
  (List.prefix_iff_eq_take.1 (List.takeWhile_prefix _)).symm

theorem drop_take_rowRest :
    (source.take (n + (rowRest source n).length)).drop n = rowRest source n := by
  rw [List.drop_take, Nat.add_sub_cancel_left, take_drop_rowRest]

/-- The line of an offset ends before the first line feed at or behind it. -/
theorem LineEnds.of_rowRest (hn : n ≤ source.length) :
    LineEnds source n (n + (rowRest source n).length) := by
  have hsplit : rowRest source n ++ (source.drop n).dropWhile (· != lineFeed) = source.drop n :=
    List.takeWhile_append_dropWhile
  refine ⟨Nat.le_add_right _ _, ?_, ?_⟩
  · cases hbehind : (source.drop n).dropWhile (· != lineFeed) with
    | nil =>
      left
      have := congrArg List.length hsplit
      rw [hbehind, List.append_nil, List.length_drop] at this
      omega
    | cons b behind =>
      right
      have hfeed : ¬ (b != lineFeed) = true := by
        have := List.head_dropWhile_not (· != lineFeed) (l := source.drop n)
          (by rw [hbehind]; exact List.cons_ne_nil _ _)
        simpa [hbehind] using this
      obtain rfl : b = lineFeed := by simpa using hfeed
      rw [← List.getElem?_drop, ← hsplit, hbehind, List.getElem?_append_right (Nat.le_refl _),
        Nat.sub_self]
      rfl
  · rw [drop_take_rowRest]
    intro hmem
    simpa using List.mem_takeWhile_imp hmem

/-! ## The line of a replacement -/

/-- The bytes of a text are as many as its size. -/
theorem Utf8.length_ofText (s : String) : (Utf8.ofText s).length = s.utf8ByteSize := by
  have hchar : ∀ c : Char, (encodeChar c).length = c.utf8Size := by
    intro c
    unfold encodeChar Char.utf8Size
    simp only [UInt32.le_iff_toNat_le, Char.toNat]
    split_ifs <;> simp_all <;> omega
  have hall : ∀ cs : List Char, (encode cs).length = String.utf8Len cs := by
    intro cs
    induction cs with
    | nil => rfl
    | cons c cs ih =>
      rw [String.utf8Len_cons, ← ih, ← hchar]
      exact (List.length_append ..).trans (Nat.add_comm _ _)
  rw [ofText, hall, ← String.utf8ByteSize_ofList, String.ofList_toList]

section

variable {r : Replacement}

/-- The source with one replacement made. -/
def patchWith (source : Bytes) (r : Replacement) : Bytes :=
  source.take r.start ++ Utf8.ofText r.text ++ source.drop r.stop

theorem applyFixes_one (hr : r.stop ≤ source.length) (description : String) :
    applyFixes source [⟨[r], description⟩] = .ok (patchWith source r) := by
  have hmem : ∀ r', r' ∈ [Fix.mk [r] description].flatMap (·.replacements) ↔ r' ∈ [r] := by simp
  rw [applyFixes_eq_splice hmem (List.pairwise_singleton ..) (List.pairwise_singleton ..)
    (List.pairwise_singleton ..) (by simpa using hr)]
  rfl

/-- The line in the patched source is what the line of the original source has before the stretch
that is taken out, the text put in its place, and what the line has behind the stretch. -/
theorem trimmedText_patchWith (hr : r.stop ≤ source.length) :
    trimmedText (patchWith source r) (lineStart (patchWith source r) r.start)
        (lineStop (patchWith source r) (r.start + r.text.utf8ByteSize)) =
      trimBlank (Utf8.toText (dropCarriageReturns
        ((source.take r.start).drop (lineStart source r.start) ++ Utf8.ofText r.text ++
          rowRest source r.stop))) := by
  have hstart : r.start ≤ source.length := r.ordered.trans hr
  have hfront : (source.take r.start).length = r.start := by
    rw [List.length_take, Nat.min_eq_left hstart]
  have hput : (source.take r.start ++ Utf8.ofText r.text).length =
      r.start + r.text.utf8ByteSize := by
    rw [List.length_append, hfront, Utf8.length_ofText]
  have hbegin : lineStart (patchWith source r) r.start = lineStart source r.start := by
    have htake : (patchWith source r).take r.start = source.take r.start := by
      rw [patchWith, List.append_assoc, List.take_left' hfront]
    rw [lineStart, htake, lineStart]
  have hend : lineStop (patchWith source r) (r.start + r.text.utf8ByteSize) =
      r.start + r.text.utf8ByteSize + (rowRest source r.stop).length := by
    have hdrop : (patchWith source r).drop (r.start + r.text.utf8ByteSize) =
        source.drop r.stop := List.drop_left' hput
    have hlength : r.start + r.text.utf8ByteSize ≤ (patchWith source r).length := by
      rw [patchWith, List.length_append, hput]
      exact Nat.le_add_right _ _
    rw [lineStop, hdrop, Nat.min_eq_left hlength, decide_ne_lineFeed, rowRest]
  have hcut : (patchWith source r).take
      (r.start + r.text.utf8ByteSize + (rowRest source r.stop).length) =
        source.take r.start ++ Utf8.ofText r.text ++ rowRest source r.stop := by
    rw [patchWith, ← hput, List.take_length_add_append, take_drop_rowRest]
  have hle : lineStart source r.start ≤ (source.take r.start).length := by
    rw [hfront]
    exact (LineBegins.lineStart hstart).le
  rw [trimmedText, hbegin, hend, hcut, List.append_assoc, List.drop_append_of_le_length hle,
    ← List.append_assoc]

end

/-- What is shown for a fix of one replacement that lies inside the source: the line of the stretch
that is taken out, from the last line feed before it up to the first one at or behind its end, with
all of the new text in place of the stretch. -/
theorem Sources.fixedLine_shows_line {sources : Sources} {file : String}
    (hsource : sources.get file = .ok (some source)) {r : Replacement}
    (hr : r.stop ≤ source.length) (description : String) (log : Log) :
    ∃ start stop, LineBegins source r.start start ∧ LineEnds source r.stop stop ∧
      ((sources.fixedLine file ⟨[r], description⟩).run log).1 =
        .ok (trimBlank (Utf8.toText (dropCarriageReturns ((source.take r.start).drop start ++
          Utf8.ofText r.text ++ (source.take stop).drop r.stop)))) := by
  refine ⟨lineStart source r.start, r.stop + (rowRest source r.stop).length,
    LineBegins.lineStart (r.ordered.trans hr), LineEnds.of_rowRest hr, ?_⟩
  have happly : ((applyFixesLogged source [⟨[r], description⟩]).run log).1 =
      .ok (patchWith source r) := (fst_applyFixesLogged ..).trans (applyFixes_one hr description)
  have hline : patchedLine ⟨[r], description⟩ (patchWith source r) = trimBlank (Utf8.toText
      (dropCarriageReturns ((source.take r.start).drop (lineStart source r.start) ++
        Utf8.ofText r.text ++ rowRest source r.stop))) := by
    have htext : (Fix.mk [r] description).text = r.text := by simp [Fix.text]
    rw [← trimmedText_patchWith hr, ← htext]
    rfl
  rw [drop_take_rowRest, ← hline]
  unfold fixedLine
  rw [hsource]
  dsimp only
  rw [if_neg (by exact Bool.false_ne_true), LogM.fst_run_bind, happly]
  rfl

/-- A source of three lines that end in different ways. -/
def threeLines : Bytes := Utf8.ofText "a();\n  log(é);\r\nb();"

/-- A text of two lines, the first with a wide character, put in place of the name of a call. -/
def twoLineText : Replacement := ⟨7, 10, "to(ß)\n.log", by decide⟩

/-- The line is shown with both lines of the text, and without what stands in front of it and behind
it. -/
theorem Sources.fixedLine_shows_line_wide :
    let sources : Sources := { given := ⟨[("A.java", some threeLines)]⟩ }
    let shown := ((sources.fixedLine "A.java" ⟨[twoLineText], ""⟩).run []).1
    sources.get "A.java" = .ok (some threeLines) ∧ twoLineText.stop ≤ threeLines.length ∧
    shown = .ok "to(ß)\n.log(é);" ∧
    ∃ start stop, LineBegins threeLines twoLineText.start start ∧
      LineEnds threeLines twoLineText.stop stop ∧
      shown = .ok (trimBlank (Utf8.toText (dropCarriageReturns
        ((threeLines.take twoLineText.start).drop start ++ Utf8.ofText twoLineText.text ++
          (threeLines.take stop).drop twoLineText.stop)))) := by
  intro sources shown
  have hsource : sources.get "A.java" = .ok (some threeLines) := by rfl
  have hstop : twoLineText.stop ≤ threeLines.length := by decide +kernel
  exact ⟨hsource, hstop, by decide +kernel, fixedLine_shows_line hsource hstop "" []⟩

end CauseLint
