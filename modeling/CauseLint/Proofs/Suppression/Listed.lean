import CauseLint.Proofs.Suppression.Meaning

/-!
# Identifiers on the line of a marker

A comment names identifiers on the line of its first marker: behind spaces or a colon they stand one
after another with gaps between them, up to the end of the line or of the comment. All of them are
recorded, and so is whatever is listed on the lines behind, because line ends are blank and the list
goes on over them. In a block comment whose lines begin with an asterisk, this asterisk is read as
the identifier that stands for all others.

Results:

* `isWord_of_isBlank`: no blank character is a word character.
* `Marker.ListsInLine.lists`: what a comment lists that names identifiers on one line.
* `Marker.star_mem_pieces_iff`: when an asterisk behind the line is read as an identifier.
* `Suppressions.suppresses_unlisted_iff`: what such a comment suppresses that it does not name.
-/

namespace CauseLint

theorem Ranges.exists_of_mem {n : Nat} {rs : Ranges} (h : rs.mem n = true) :
    ∃ r ∈ rs, r.1 ≤ n ∧ n ≤ r.2 := by
  induction rs with
  | nil => cases h
  | cons r rs ih =>
    obtain ⟨lo, hi⟩ := r
    rw [mem] at h
    split at h
    · cases h
    · rename_i hlo
      rcases Bool.or_eq_true_iff.1 h with hhi | h
      · exact ⟨(lo, hi), List.mem_cons_self, Nat.le_of_not_lt hlo, of_decide_eq_true hhi⟩
      · obtain ⟨r, hr, hin⟩ := ih h
        exact ⟨r, List.mem_cons_of_mem _ hr, hin⟩

/-- No blank character is a word character. -/
theorem isWord_of_isBlank {c : Char} (h : isBlank c = true) : isWord c = false := by
  have hapart : ∀ b ∈ blankRanges, ∀ w ∈ wordRanges, b.2 < w.1 ∨ w.2 < b.1 := by decide +kernel
  refine Bool.eq_false_iff.2 fun hword => ?_
  obtain ⟨b, hb, hblo, hbhi⟩ := Ranges.exists_of_mem h
  obtain ⟨w, hw, hwlo, hwhi⟩ := Ranges.exists_of_mem hword
  have := hapart b hb w hw
  omega

namespace Marker

/-! ## Characters -/

/-- Whether a character ends a line. -/
def endsLine (c : Char) : Bool := c = '\n' || c = '\r'

/-- Whether a character may stand in an identifier. -/
def isIdChar (c : Char) : Bool := isWord c || c = '-'

/-- Whether a character divides two identifiers on one line. -/
def isGap (c : Char) : Bool := isDivider c && !endsLine c

theorem isDivider_of_isIdChar {c : Char} (h : isIdChar c = true) : isDivider c = false := by
  refine Bool.eq_false_iff.2 fun hdivider => ?_
  rcases Bool.or_eq_true_iff.1 h with hword | hhyphen
  · rcases Bool.or_eq_true_iff.1 hdivider with hblank | hcomma
    · rw [isWord_of_isBlank hblank] at hword
      cases hword
    · rw [of_decide_eq_true hcomma] at hword
      exact absurd hword (by decide +kernel)
  · rw [of_decide_eq_true hhyphen] at hdivider
    exact absurd hdivider (by decide)

theorem isLead_of_isIdChar {c : Char} (h : isIdChar c = true) : isLead c = false := by
  refine Bool.eq_false_iff.2 fun hlead => ?_
  rcases Bool.or_eq_true_iff.1 hlead with hblank | hcolon
  · have hdivider : isDivider c = true := Bool.or_eq_true_iff.2 (.inl hblank)
    rw [isDivider_of_isIdChar h] at hdivider
    cases hdivider
  · rw [of_decide_eq_true hcolon] at h
    exact absurd h (by decide +kernel)

theorem isListed_of_isIdChar {c : Char} (h : isIdChar c = true) : isListed c = true := by
  simp only [isIdChar, Bool.or_eq_true] at h
  simp only [isListed, Bool.or_eq_true]
  rcases h with h | h <;> simp [h]

theorem isListed_of_isDivider {c : Char} (h : isDivider c = true) : isListed c = true := by
  simp only [isDivider, Bool.or_eq_true] at h
  simp only [isListed, Bool.or_eq_true]
  rcases h with h | h <;> simp [h]

theorem isDivider_of_isGap {c : Char} (h : isGap c = true) : isDivider c = true :=
  (Bool.and_eq_true_iff.1 h).1

/-! ## Identifiers on one line -/

/-- One identifier. -/
def IsId (id : List Char) : Prop := id ≠ [] ∧ ∀ c ∈ id, isIdChar c = true

/-- Identifiers one after another, with gaps between them and perhaps one behind the last. -/
inductive Spells : List (List Char) → List Char → Prop
  | last {id gap : List Char} : IsId id → (∀ c ∈ gap, isGap c = true) → Spells [id] (id ++ gap)
  | more {id gap : List Char} {ids : List (List Char)} {line : List Char} : IsId id → gap ≠ [] →
      (∀ c ∈ gap, isGap c = true) → Spells ids line → Spells (id :: ids) (id ++ (gap ++ line))

/-- A comment names identifiers on the line of its first marker, behind spaces or a colon, and the
rest of the comment is empty or begins on the next line. -/
structure ListsInLine (comment : String) (ids : List (List Char)) (rest : List Char) : Prop where
  line : ∃ lead line, First (body comment.toList) (lead ++ (line ++ rest)) ∧ lead ≠ [] ∧
    (∀ c ∈ lead, isLead c = true ∧ endsLine c = false) ∧ Spells ids line
  rest : ∀ c, rest.head? = some c → endsLine c = true

/-- An asterisk stands by itself in a text, and only characters of a list stand before it. -/
def LoneStar (rest : List Char) : Prop :=
  ∃ front back, rest = front ++ '*' :: back ∧ (∀ c ∈ front, isListed c = true) ∧
    (∀ c, front.getLast? = some c → isDivider c = true) ∧
    ∀ c, back.head? = some c → isListed c = true → isDivider c = true

variable {ids : List (List Char)} {line rest : List Char}

theorem pieces_append_of_id {id tail : List Char} (hid : IsId id)
    (htail : ∀ c, tail.head? = some c → isDivider c = true) :
    pieces (id ++ tail) = id :: pieces tail := by
  rw [pieces_append_right htail,
    pieces_of_undivided hid.1 fun c hc => isDivider_of_isIdChar (hid.2 c hc)]
  rfl

/-- The identifiers that a line spells are pieces of their own. -/
theorem Spells.pieces (h : Spells ids line) {tail : List Char}
    (htail : ∀ c, tail.head? = some c → isDivider c = true) :
    pieces (line ++ tail) = ids ++ pieces tail := by
  -- A gap in front of a text keeps what begins with a divider so.
  have hhead : ∀ {gap tail : List Char}, (∀ c ∈ gap, isGap c = true) →
      (gap = [] → ∀ c, tail.head? = some c → isDivider c = true) →
      ∀ c, (gap ++ tail).head? = some c → isDivider c = true := by
    intro gap tail hgap htail
    cases gap with
    | nil => exact htail rfl
    | cons d gap =>
      intro c hc
      exact Option.some.inj hc ▸ isDivider_of_isGap (hgap d List.mem_cons_self)
  induction h with
  | last hid hgap =>
    rw [List.append_assoc, pieces_append_of_id hid (hhead hgap fun _ => htail),
      pieces_append_of_dividers fun c hc => isDivider_of_isGap (hgap c hc)]
    rfl
  | more hid hne hgap _ ih =>
    rw [List.append_assoc, List.append_assoc,
      pieces_append_of_id hid (hhead hgap fun hnil => absurd hnil hne),
      pieces_append_of_dividers fun c hc => isDivider_of_isGap (hgap c hc), ih]
    rfl

theorem Spells.isListed (h : Spells ids line) : ∀ c ∈ line, isListed c = true := by
  have hid : ∀ {id : List Char}, IsId id → ∀ c ∈ id, Marker.isListed c = true :=
    fun hid c hc => isListed_of_isIdChar (hid.2 c hc)
  have hgap : ∀ {gap : List Char}, (∀ c ∈ gap, isGap c = true) →
      ∀ c ∈ gap, Marker.isListed c = true :=
    fun hgap c hc => isListed_of_isDivider (isDivider_of_isGap (hgap c hc))
  induction h with
  | last h h' => exact List.forall_mem_append.2 ⟨hid h, hgap h'⟩
  | more h _ h' _ ih =>
    exact List.forall_mem_append.2 ⟨hid h, List.forall_mem_append.2 ⟨hgap h', ih⟩⟩

/-- A line of identifiers begins with one. -/
theorem Spells.exists_head (h : Spells ids line) : ∃ c tail, line = c :: tail ∧
    isIdChar c = true := by
  have hid : ∀ {id : List Char} (tail : List Char), IsId id →
      ∃ c rest, id ++ tail = c :: rest ∧ isIdChar c = true := by
    rintro (_ | ⟨c, id⟩) tail ⟨hne, hid⟩
    · exact absurd rfl hne
    · exact ⟨c, id ++ tail, rfl, hid c List.mem_cons_self⟩
  cases h with
  | last h _ => exact hid _ h
  | more h _ _ _ => exact hid _ h

theorem Spells.isId (h : Spells ids line) : ∀ id ∈ ids, IsId id := by
  induction h with
  | last h _ => simpa using h
  | more h _ _ _ ih => exact List.forall_mem_cons.2 ⟨h, ih⟩

theorem Spells.ne_nil (h : Spells ids line) : ids ≠ [] := by
  cases h <;> exact List.cons_ne_nil _ _

theorem mem_map_ofList_iff {id : String} {words : List (List Char)} :
    id ∈ words.map String.ofList ↔ id.toList ∈ words := by
  rw [List.mem_map]
  constructor
  · rintro ⟨word, hword, rfl⟩
    rwa [String.toList_ofList]
  · exact fun h => ⟨id.toList, h, String.ofList_toList⟩

/-! ## What is listed -/

/-- The list begins with the line and goes on as far as characters of a list follow. -/
theorem listing_append {lead : List Char} (hlead : ∀ c ∈ lead, isLead c = true)
    (hline : Spells ids line) :
    listing (lead ++ (line ++ rest)) = line ++ rest.takeWhile isListed := by
  obtain ⟨c, tail, htail, hc⟩ := hline.exists_head
  rw [listing, List.dropWhile_append_of_pos hlead]
  have hdrop : (line ++ rest).dropWhile isLead = line ++ rest := by
    rw [htail, List.cons_append, List.dropWhile_cons_of_neg]
    rw [isLead_of_isIdChar hc]
    exact Bool.false_ne_true
  rw [hdrop, List.takeWhile_append_of_pos hline.isListed]

/-- The first marker is one, so a comment lists one thing. -/
theorem Lists.unique {comment : String} {ids ids' : List String} (h : Lists comment ids)
    (h' : Lists comment ids') : ids = ids' := by
  obtain ⟨behind, hbehind, rfl⟩ := h
  obtain ⟨behind', hbehind', rfl⟩ := h'
  obtain rfl : behind = behind' :=
    Option.some.inj ((find?_eq_some_iff.2 hbehind).symm.trans (find?_eq_some_iff.2 hbehind'))
  rfl

/-- A comment that names identifiers on the line of its marker lists these, and what stands on the
lines behind. -/
theorem ListsInLine.lists {comment : String} (h : ListsInLine comment ids rest) :
    Lists comment ((ids ++ pieces (rest.takeWhile isListed)).map String.ofList) := by
  obtain ⟨⟨lead, line, hfirst, -, hlead, hline⟩, hrest⟩ := h
  refine ⟨_, hfirst, ?_⟩
  rw [listing_append (fun c hc => (hlead c hc).1) hline, hline.pieces]
  intro c hc
  cases rest with
  | nil => cases hc
  | cons d rest =>
    have hends := hrest d rfl
    have hdivider : isDivider d = true := by
      simp only [endsLine, Bool.or_eq_true, decide_eq_true_eq] at hends
      rcases hends with rfl | rfl <;> decide
    rw [List.takeWhile_cons_of_pos (isListed_of_isDivider hdivider)] at hc
    exact Option.some.inj hc ▸ hdivider

/-- An asterisk is read as an identifier when it stands by itself. -/
theorem star_mem_pieces_iff : ['*'] ∈ pieces (rest.takeWhile isListed) ↔ LoneStar rest := by
  have hstar : isListed '*' = true := by decide +kernel
  rw [mem_pieces_iff]
  constructor
  · rintro ⟨-, -, front, back, htake, hfront, hback⟩
    refine ⟨front, back ++ rest.dropWhile isListed, ?_, fun c hc => ?_, hfront, fun c hc hl => ?_⟩
    · have hsplit := (List.takeWhile_append_dropWhile (p := isListed) (l := rest)).symm
      rwa [htake, List.append_assoc] at hsplit
    · have hmem : c ∈ rest.takeWhile isListed := htake ▸ List.mem_append_left _ hc
      exact List.all_eq_true.1 List.all_takeWhile c hmem
    · cases back with
      | nil =>
        have hnot := List.head?_dropWhile_not isListed rest
        rw [List.nil_append] at hc
        rw [hc] at hnot
        exact absurd hl (by simpa using hnot)
      | cons d back => exact hback c hc
  · rintro ⟨front, back, rfl, hlisted, hfront, hback⟩
    have hundivided : ∀ c ∈ ['*'], isDivider c = false :=
      List.forall_mem_singleton.2 (by decide +kernel)
    refine ⟨List.cons_ne_nil _ _, hundivided, front, back.takeWhile isListed, ?_, hfront,
      fun c hc => ?_⟩
    · rw [List.takeWhile_append_of_pos hlisted, List.takeWhile_cons_of_pos hstar]
      rfl
    · cases back with
      | nil => cases hc
      | cons d back =>
        cases hd : isListed d with
        | true =>
          rw [List.takeWhile_cons_of_pos hd] at hc
          exact hback c hc (Option.some.inj hc ▸ hd)
        | false =>
          rw [List.takeWhile_cons_of_neg (by simp [hd])] at hc
          cases hc

/-! ## Occurrences -/

theorem body_begins (cs : List Char) : body cs <+: cs := by
  unfold body
  split
  · rename_i rest hreverse
    refine ⟨['*', '/'], ?_⟩
    rw [← List.reverse_reverse cs, hreverse]
    simp
  · exact List.prefix_refl cs

/-- What a comment lists occurs in it. -/
theorem Lists.occurs {comment id : String} {ids : List String} (h : Lists comment ids)
    (hid : id ∈ ids) : id.toList <:+: comment.toList := by
  obtain ⟨behind, ⟨before, ⟨hbody, -⟩, -⟩, rfl⟩ := h
  obtain ⟨piece, hpiece, rfl⟩ := List.mem_map.1 hid
  obtain ⟨-, -, front, back, hlisting, -⟩ := mem_pieces_iff.1 hpiece
  have hpiece : piece <:+: listing behind := ⟨front, back, by rw [hlisting, List.append_assoc]⟩
  have hlist : listing behind <:+: behind :=
    (List.takeWhile_prefix _).isInfix.trans (List.dropWhile_suffix _).isInfix
  have hbehind : behind <:+: body comment.toList := ⟨before ++ word, [], by rw [hbody]; simp⟩
  rw [String.toList_ofList]
  exact ((hpiece.trans hlist).trans hbehind).trans (body_begins _).isInfix

end Marker

namespace Suppressions

/-- A comment that names identifiers on the line of its first marker is recorded with all of them.
It is recorded as suppressing everything exactly when an asterisk stands by itself on the lines
behind, as far as only characters of a list stand before it. A finding whose identifier does not
occur in the comment is suppressed by it only then, on the line on which the comment begins or the
next one. -/
theorem suppresses_unlisted_iff {u : SourceUnit} {c : Cursor} {ids : List (List Char)}
    {rest : List Char} (hcomment : c.isComment = true)
    (hlists : Marker.ListsInLine (u.textOf c) ids rest) :
    ∃ recorded, Marker.ids? (u.textOf c) = some recorded ∧
      (∀ id ∈ ids, String.ofList id ∈ recorded) ∧
      (anyId ∈ recorded ↔ Marker.LoneStar rest) ∧
      ∀ (s : Suppressions) (d : Diagnostic), ¬ d.errorId.toList <:+: (u.textOf c).toList →
        ((readNode u s c).suppresses d = true ↔ s.suppresses d = true ∨
          Marker.LoneStar rest ∧ u.path = d.location.file ∧
            ((u.firstLine c : Int) = d.location.line ∨
              (u.firstLine c : Int) = d.location.line - 1)) := by
  obtain ⟨-, line, -, -, -, hline⟩ := hlists.line
  have hrecorded := hlists.lists
  have hstar : anyId ∈ (ids ++ Marker.pieces (rest.takeWhile Marker.isListed)).map
      String.ofList ↔ Marker.LoneStar rest := by
    rw [Marker.mem_map_ofList_iff, List.mem_append, ← Marker.star_mem_pieces_iff]
    refine or_iff_right fun hmem => ?_
    exact absurd ((hline.isId _ hmem).2 '*' List.mem_cons_self) (by decide +kernel)
  generalize hall : (ids ++ Marker.pieces (rest.takeWhile Marker.isListed)).map
    String.ofList = recorded at hrecorded hstar
  have hids : ∀ id ∈ ids, String.ofList id ∈ recorded := by
    intro id hid
    rw [← hall]
    exact List.mem_map_of_mem (List.mem_append_left _ hid)
  obtain ⟨first, hfirst⟩ := List.exists_mem_of_ne_nil ids hline.ne_nil
  have hne : recorded ≠ [] := List.ne_nil_of_mem (hids first hfirst)
  refine ⟨recorded, Marker.ids?_eq_some hrecorded hne, hids, hstar, fun s d hunlisted => ?_⟩
  rw [suppresses_readNode_of_isComment hcomment, ← hstar]
  refine or_congr_right ⟨?_, ?_⟩
  · rintro ⟨hpath, -, ⟨others, hothers, hcovers⟩, hline⟩
    obtain rfl := hothers.unique hrecorded
    refine ⟨(hcovers.resolve_left fun hid => ?_).resolve_right hne, hpath, hline⟩
    exact hunlisted (hrecorded.occurs hid)
  · exact fun ⟨hany, hpath, hline⟩ => ⟨hpath, hcomment, ⟨_, hrecorded, .inr (.inl hany)⟩, hline⟩

/-- A comment on three lines, of which the second one holds an asterisk only. -/
def starred : SourceUnit where
  path := "A.java"
  source := Utf8.ofText "/* flogger-lint-suppress foo\n *\n */"
  tree := .node { kind := "program", start := 0, stop := 35 } [
    .node { kind := "block_comment", start := 0, stop := 35 } []]

/-- The comment on three lines. -/
def starredComment : Cursor := (starred.root.preorder.find? (·.isComment)).getD starred.root

/-- A finding on the second line that the comment does not name. -/
def unnamed : Diagnostic where
  errorId := "other"
  message := ""
  severity := .warning
  location := { file := "A.java", line := 2 }

/-- The comment names `foo` on the line of its marker, and other findings are suppressed by it. -/
theorem suppresses_unlisted_iff_starred :
    let comment := starred.textOf starredComment
    Marker.ListsInLine comment ["foo".toList] "\n *\n ".toList ∧
      ¬ unnamed.errorId.toList <:+: comment.toList ∧
      ∃ recorded, Marker.ids? comment = some recorded ∧ "foo" ∈ recorded ∧ anyId ∈ recorded ∧
        (readNode starred {} starredComment).suppresses unnamed = true := by
  intro comment
  have hlists : Marker.ListsInLine comment ["foo".toList] "\n *\n ".toList := by
    have hid : Marker.IsId "foo".toList :=
      ⟨by decide, List.all_eq_true.1 (by decide +kernel)⟩
    have hline : Marker.Spells ["foo".toList] "foo".toList := by
      simpa using Marker.Spells.last hid (List.forall_mem_nil _)
    have hlead : Marker.isLead ' ' = true ∧ Marker.endsLine ' ' = false := by decide +kernel
    have hfirst : Marker.First (Marker.body comment.toList) " foo\n *\n ".toList :=
      Marker.find?_eq_some_iff.1 (by decide +kernel)
    refine ⟨⟨[' '], _, hfirst, List.cons_ne_nil _ _, List.forall_mem_singleton.2 hlead, hline⟩, ?_⟩
    rintro _ ⟨⟩
    decide
  have hunlisted : ¬ unnamed.errorId.toList <:+: comment.toList := by decide +kernel
  have hlone : Marker.LoneStar "\n *\n ".toList := by
    refine ⟨"\n ".toList, "\n ".toList, rfl, List.all_eq_true.1 (by decide +kernel), ?_, ?_⟩
    · rintro _ ⟨⟩
      decide
    · rintro _ ⟨⟩ _
      decide
  have hline : (starred.firstLine starredComment : Int) = 2 - 1 := by decide +kernel
  obtain ⟨recorded, hrecorded, hids, hstar, hfindings⟩ :=
    suppresses_unlisted_iff (u := starred) (c := starredComment) (by decide +kernel) hlists
  refine ⟨hlists, hunlisted, recorded, hrecorded, ?_, hstar.2 hlone, ?_⟩
  · simpa using hids "foo".toList (by simp)
  · exact (hfindings {} unnamed hunlisted).2 (.inr ⟨hlone, rfl, .inr hline⟩)

end Suppressions

end CauseLint
