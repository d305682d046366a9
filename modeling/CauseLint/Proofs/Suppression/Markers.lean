import CauseLint.Suppression

/-!
# Markers in comments

A marker is the word that begins a suppression, where no letter or digit follows it. The first
marker of a comment counts, and what it lists are the stretches between dividers behind it, as far
as only characters of a list stand there. The mark that closes a block comment does not belong to
its text.

Results:

* `Marker.find?_eq_some_iff`: the search finds the first marker.
* `Marker.mem_pieces_iff`: the pieces of a list are its longest stretches without dividers.
* `Marker.covers_ids?_iff`: what a comment covers by what it lists.
-/

namespace CauseLint

theorem covers_iff {ids : List String} {id : String} :
    covers ids id = true ↔ id ∈ ids ∨ anyId ∈ ids := by
  rw [covers, Bool.or_eq_true, List.contains_iff_mem, List.contains_iff_mem]

namespace Marker

variable {cs before behind : List Char}

/-! ## The first marker -/

/-- A marker stands in a text between two others, and no word goes on behind it. -/
def Stands (cs before behind : List Char) : Prop :=
  cs = before ++ (word ++ behind) ∧ ∀ c, behind.head? = some c → isWord c = false

/-- A text stands behind the first marker of another one. -/
def First (cs behind : List Char) : Prop :=
  ∃ before, Stands cs before behind ∧
    ∀ before' behind', Stands cs before' behind' → before.length ≤ before'.length

theorem behind?_eq_some_iff : behind? cs = some behind ↔ Stands cs [] behind := by
  unfold behind? Stands
  rw [List.nil_append]
  split
  · rename_i hword
    obtain ⟨rest, rfl⟩ := List.isPrefixOf_iff_prefix.1 hword
    rw [List.drop_left]
    cases rest with
    | nil =>
      dsimp only
      rw [Option.some.injEq, List.append_right_inj]
      refine ⟨?_, And.left⟩
      rintro rfl
      exact ⟨rfl, fun c hc => nomatch hc⟩
    | cons c rest =>
      dsimp only
      split
      · rename_i hc
        refine iff_of_false (fun h => nomatch h) ?_
        rintro ⟨heq, hends⟩
        obtain rfl := List.append_cancel_left heq
        rw [hends c rfl] at hc
        cases hc
      · rename_i hc
        rw [Option.some.injEq, List.append_right_inj]
        refine ⟨?_, And.left⟩
        rintro rfl
        exact ⟨rfl, fun d hd => Option.some.inj hd ▸ Bool.eq_false_iff.2 hc⟩
  · rename_i hword
    refine iff_of_false (fun h => nomatch h) ?_
    rintro ⟨rfl, -⟩
    exact hword (List.isPrefixOf_iff_prefix.2 (List.prefix_append _ _))

/-- Behind the front character stand the markers that do not stand at the front. -/
theorem stands_cons {c d : Char} : Stands (c :: cs) (d :: before) behind ↔
    c = d ∧ Stands cs before behind := by
  rw [Stands, Stands, List.cons_append, List.cons.injEq, and_assoc]

/-- The search finds the first marker. -/
theorem find?_eq_some_iff : find? cs = some behind ↔ First cs behind := by
  induction cs with
  | nil =>
    refine iff_of_false (fun h => nomatch h) ?_
    rintro ⟨before, ⟨heq, -⟩, -⟩
    have hword : word = [] := (List.append_eq_nil_iff.1 (List.append_eq_nil_iff.1 heq.symm).2).1
    exact absurd hword (by decide)
  | cons c cs ih =>
    rw [find?]
    cases hfront : behind? (c :: cs) with
    | some rest =>
      have hstands := behind?_eq_some_iff.1 hfront
      refine ⟨?_, ?_⟩
      · rintro ⟨⟩
        exact ⟨[], hstands, fun _ _ _ => Nat.zero_le _⟩
      · rintro ⟨before, hbefore, hfirst⟩
        obtain rfl := List.eq_nil_of_length_eq_zero (Nat.le_zero.1 (hfirst _ _ hstands))
        exact hfront.symm.trans (behind?_eq_some_iff.2 hbefore)
    | none =>
      have hnot : ∀ rest, ¬ Stands (c :: cs) [] rest := by
        intro rest hstands
        rw [behind?_eq_some_iff.2 hstands] at hfront
        cases hfront
      dsimp only
      rw [ih]
      constructor
      · rintro ⟨before, hbefore, hfirst⟩
        refine ⟨c :: before, stands_cons.2 ⟨rfl, hbefore⟩, fun before' behind' hother => ?_⟩
        cases before' with
        | nil => exact absurd hother (hnot _)
        | cons d before' =>
          exact Nat.succ_le_succ (hfirst _ _ (stands_cons.1 hother).2)
      · rintro ⟨before, hbefore, hfirst⟩
        cases before with
        | nil => exact absurd hbefore (hnot _)
        | cons d before =>
          obtain ⟨rfl, htail⟩ := stands_cons.1 hbefore
          refine ⟨before, htail, fun before' behind' hother => ?_⟩
          exact Nat.le_of_succ_le_succ (hfirst _ _ (stands_cons.2 ⟨rfl, hother⟩))

/-! ## Pieces -/

/-- At a divider a list falls apart. -/
theorem pieces_append_cons {d : Char} (hd : isDivider d = true) (xs ys : List Char) :
    pieces (xs ++ d :: ys) = pieces xs ++ pieces ys := by
  rw [pieces, List.splitOnP_append_cons xs ys hd, List.filter_append]
  rfl

theorem pieces_nil : pieces [] = [] := rfl

theorem pieces_cons {d : Char} (hd : isDivider d = true) (xs : List Char) :
    pieces (d :: xs) = pieces xs := by
  rw [← List.nil_append (d :: xs), pieces_append_cons hd, pieces_nil, List.nil_append]

/-- Dividers at the front of a list do not count. -/
theorem pieces_append_of_dividers {gap : List Char} (hgap : ∀ c ∈ gap, isDivider c = true)
    (xs : List Char) : pieces (gap ++ xs) = pieces xs := by
  induction gap with
  | nil => rfl
  | cons d gap ih =>
    obtain ⟨hd, hgap⟩ := List.forall_mem_cons.1 hgap
    rw [List.cons_append, pieces_cons hd, ih hgap]

/-- A stretch without dividers is one piece. -/
theorem pieces_of_undivided {xs : List Char} (hne : xs ≠ []) (hxs : ∀ c ∈ xs, isDivider c = false) :
    pieces xs = [xs] := by
  rw [pieces, List.splitOnP_eq_singleton hxs, List.filter_cons_of_pos]
  · rfl
  · simpa using hne

/-- A text is empty or ends with a divider, and another one is empty or begins with one. -/
def Divides (front back : List Char) : Prop :=
  (∀ c, front.getLast? = some c → isDivider c = true) ∧
    ∀ c, back.head? = some c → isDivider c = true

theorem pieces_append_left {xs ys : List Char}
    (h : ∀ c, xs.getLast? = some c → isDivider c = true) :
    pieces (xs ++ ys) = pieces xs ++ pieces ys := by
  rcases List.eq_nil_or_concat xs with rfl | ⟨xs, d, rfl⟩
  · rfl
  · rw [List.concat_eq_append] at h ⊢
    have hd := h d List.getLast?_concat
    rw [List.append_assoc, List.singleton_append, pieces_append_cons hd,
      pieces_append_cons hd, pieces_nil, List.append_nil]

theorem pieces_append_right {xs ys : List Char}
    (h : ∀ c, ys.head? = some c → isDivider c = true) :
    pieces (xs ++ ys) = pieces xs ++ pieces ys := by
  cases ys with
  | nil => rw [List.append_nil, pieces_nil, List.append_nil]
  | cons d ys => rw [pieces_append_cons (h d rfl), pieces_cons (h d rfl)]

/-- The pieces of a list are its longest stretches without dividers. -/
theorem mem_pieces_iff {w : List Char} : w ∈ pieces cs ↔
    w ≠ [] ∧ (∀ c ∈ w, isDivider c = false) ∧
      ∃ front back, cs = front ++ (w ++ back) ∧ Divides front back := by
  constructor
  · intro hw
    induction hlength : cs.length using Nat.strongRecOn generalizing cs with
    | _ n ih =>
      by_cases hdivided : ∃ d ∈ cs, isDivider d = true
      · obtain ⟨d, hmem, hd⟩ := hdivided
        obtain ⟨xs, ys, rfl⟩ := List.append_of_mem hmem
        rw [pieces_append_cons hd, List.mem_append] at hw
        rw [List.length_append, List.length_cons] at hlength
        rcases hw with hw | hw
        · obtain ⟨hne, hword, front, back, rfl, hfront, hback⟩ := ih _ (by omega) hw rfl
          refine ⟨hne, hword, front, back ++ d :: ys, by simp, hfront, fun c hc => ?_⟩
          cases back with
          | nil => exact Option.some.inj hc ▸ hd
          | cons e back => exact hback c hc
        · obtain ⟨hne, hword, front, back, rfl, hfront, hback⟩ := ih _ (by omega) hw rfl
          refine ⟨hne, hword, xs ++ d :: front, back, by simp, fun c hc => ?_, hback⟩
          rw [List.getLast?_append, List.getLast?_cons] at hc
          cases hlast : front.getLast? with
          | none =>
            rw [hlast] at hc
            exact Option.some.inj hc ▸ hd
          | some e =>
            rw [hlast] at hc
            exact hfront c (hlast.trans hc)
      · have hword : ∀ c ∈ cs, isDivider c = false := fun c hc =>
          Bool.eq_false_iff.2 fun hd => hdivided ⟨c, hc, hd⟩
        have hne : cs ≠ [] := by
          rintro rfl
          cases hw
        rw [pieces_of_undivided hne hword, List.mem_singleton] at hw
        subst hw
        exact ⟨hne, hword, [], [], by simp, fun c hc => (nomatch hc), fun c hc => (nomatch hc)⟩
  · rintro ⟨hne, hword, front, back, rfl, hfront, hback⟩
    rw [pieces_append_left hfront, pieces_append_right hback, pieces_of_undivided hne hword]
    simp

/-! ## What a comment lists -/

/-- A comment has a marker, and what stands behind the first one lists some identifiers. -/
def Lists (comment : String) (ids : List String) : Prop :=
  ∃ behind, First (body comment.toList) behind ∧
    ids = (pieces (listing behind)).map String.ofList

/-- What a comment lists is recorded, unless it lists nothing. -/
theorem ids?_eq_some {comment : String} {ids : List String} (h : Lists comment ids)
    (hne : ids ≠ []) : ids? comment = some ids := by
  obtain ⟨behind, hfirst, rfl⟩ := h
  rw [ids?, find?_eq_some_iff.2 hfirst, Option.map_some]
  cases hids : (pieces (listing behind)).map String.ofList with
  | nil => exact absurd hids hne
  | cons first others => rfl

/-- A comment covers the identifiers that it lists, and all of them when it lists none. -/
theorem covers_ids?_iff {comment id : String} :
    (∃ recorded, ids? comment = some recorded ∧ covers recorded id = true) ↔
      ∃ ids, Lists comment ids ∧ (id ∈ ids ∨ anyId ∈ ids ∨ ids = []) := by
  unfold ids? Lists
  constructor
  · rintro ⟨recorded, hrecorded, hcovers⟩
    obtain ⟨behind, hbehind, rfl⟩ := Option.map_eq_some_iff.1 hrecorded
    refine ⟨_, ⟨behind, find?_eq_some_iff.1 hbehind, rfl⟩, ?_⟩
    cases hids : (pieces (listing behind)).map String.ofList with
    | nil => exact .inr (.inr rfl)
    | cons first others =>
      rw [hids] at hcovers
      exact (covers_iff.1 hcovers).imp_right .inl
  · rintro ⟨ids, ⟨behind, hfirst, rfl⟩, hid⟩
    refine ⟨_, Option.map_eq_some_iff.2 ⟨behind, find?_eq_some_iff.2 hfirst, rfl⟩, ?_⟩
    cases hids : (pieces (listing behind)).map String.ofList with
    | nil => exact covers_iff.2 (.inr List.mem_cons_self)
    | cons first others =>
      rw [hids] at hid
      exact covers_iff.2 (hid.imp_right fun h => h.resolve_right (List.cons_ne_nil _ _))

end Marker

end CauseLint
