import CauseLint.Proofs.Rule.Fixes
import CauseLint.Proofs.Rule.Mirror
import CauseLint.Proofs.Syntax.Patch

/-!
# The fixed unit

The unit that remains after all fixes have been made: its source is the old one with each cause
attached, its tree the old one patched. What the nodes of the new tree spell follows from what is
inserted before them and inside them.

Results:

* `Rule.applyFixes_fixed`: the fixes of a unit lead to the source of the fixed unit.
* `Rule.bytesOf_kept`, `Rule.bytesOf_copied`: what the nodes of the new tree spell.
* `Rule.textOf_kept_iff`: a node is named `log` or `withCause` in the new unit when it was before.
-/

namespace CauseLint

namespace Rule

/-! ## The fixed unit -/

/-- The argument that the fix of a call attaches. -/
def planned (u : SourceUnit) (o : Oracle Id) (c : Cursor) : Option Cursor :=
  if c.kind = "method_invocation" then
    (verdict { unit := u, oracle := o } c).map (·.argument)
  else none

/-- What is inserted for some arguments. -/
def spell (u : SourceUnit) (points : List (Nat × Cursor)) : List (Nat × String) :=
  points.map fun p => (p.1, s!".withCause({u.textOf p.2})")

theorem spell_append (u : SourceUnit) (ps qs : List (Nat × Cursor)) :
    spell u (ps ++ qs) = spell u ps ++ spell u qs := List.map_append

/-- The unit with all its fixes made. -/
def fixed (u : SourceUnit) (o : Oracle Id) : SourceUnit :=
  { u with
    source := splice u.source 0 (insertions (spell u (Cursor.inserts (planned u o) u.root)))
    tree := Cursor.patch (planned u o) 0 u.root }

theorem planned_eq_some_iff {u : SourceUnit} {o : Oracle Id} {c a : Cursor} :
    planned u o c = some a ↔ c.kind = "method_invocation" ∧
      ∃ found, verdict { unit := u, oracle := o } c = some found ∧ found.argument = a := by
  unfold planned
  split
  · rename_i hk
    rw [Option.map_eq_some_iff]
    simp [hk]
  · rename_i hk
    simp [hk]

variable {u : SourceUnit} {o : Oracle Id}

/-- What a planned argument belongs to. -/
theorem of_planned {c a : Cursor} (h : planned u o c = some a) :
    IsApiCall u o "log" c ∧ a ∈ c.arguments ∧ (∃ d, c.object? = some d) ∧
      ∀ link ∈ c.links.take Cursor.maxChainDepth, ¬ IsApiCall u o "withCause" link := by
  obtain ⟨hk, found, hfound, rfl⟩ := planned_eq_some_iff.1 h
  obtain rfl := anchor_of_verdict hk hfound
  obtain ⟨-, hlog, ⟨before, after, hargs, -⟩, hcause, hfix⟩ := (evaluate_eq_some_iff []).1 hfound
  obtain ⟨receiver, hr, -⟩ := Option.map_eq_some_iff.1 hfix
  exact ⟨hlog, by rw [hargs]; simp, ⟨receiver, hr⟩, hcause⟩

theorem names_planned (u : SourceUnit) (o : Oracle Id) (c : Cursor) :
    Cursor.Names (planned u o) c := by
  intro h
  obtain ⟨a, ha⟩ := Option.isSome_iff_exists.1 h
  obtain ⟨⟨hk, hn, -⟩, -⟩ := of_planned ha
  refine ⟨hk, exists_name_of_methodName (u := u) ?_⟩
  rw [hn]
  decide

/-- A planned argument is a node of the unit. -/
theorem below_of_planned {c a : Cursor} (hc : Cursor.Below u.root c) (h : planned u o c = some a) :
    Cursor.Below u.root a := hc.trans (Cursor.below_of_mem_arguments (of_planned h).2.1)

/-- What is attached anywhere is a node of the unit. -/
theorem below_of_mem_inserts {c : Cursor} (hc : Cursor.Below u.root c) {p : Nat × Cursor}
    (h : p ∈ Cursor.inserts (planned u o) c) : Cursor.Below u.root p.2 := by
  obtain ⟨d, hd, ha, -⟩ := Cursor.mem_inserts_iff.1 h
  exact below_of_planned (hc.trans hd) ha

/-- The fix of what is found at a call. -/
theorem replacements_of_verdict {c : Cursor} (hk : c.kind = "method_invocation") {found : Match}
    (h : verdict { unit := u, oracle := o } c = some found) :
    ∃ d, c.object? = some d ∧ found.fix.replacements =
      [.insertion d.stop s!".withCause({u.textOf found.argument})"] := by
  obtain rfl := anchor_of_verdict hk h
  obtain ⟨-, -, -, -, hfix⟩ := (evaluate_eq_some_iff []).1 h
  obtain ⟨d, hd, hfix⟩ := Option.map_eq_some_iff.1 hfix
  exact ⟨d, hd, by rw [← hfix]; rfl⟩

theorem mem_invocations_iff {c : Cursor} :
    c ∈ u.invocations ↔ Cursor.Below u.root c ∧ c.kind = "method_invocation" := by
  rw [SourceUnit.invocations, List.mem_filter, Cursor.mem_preorder_iff, decide_eq_true_iff]

/-- What a run of the rule finds. -/
theorem mem_found_iff {found : Match} {log : Log} :
    found ∈ ((findAll { unit := u, oracle := o }).run log).1 ↔
      found.anchor ∈ u.invocations ∧
        verdict { unit := u, oracle := o } found.anchor = some found := by
  rw [findAll_run, List.mem_filterMap]
  constructor
  · rintro ⟨c, hc, hfound⟩
    obtain rfl := anchor_of_verdict (mem_invocations_iff.1 hc).2 hfound
    exact ⟨hc, hfound⟩
  · rintro ⟨hc, hfound⟩
    exact ⟨_, hc, hfound⟩

/-- What all fixes insert. -/
theorem mem_replacements_iff {r : Replacement} :
    r ∈ ((u.invocations.filterMap (verdict { unit := u, oracle := o })).map (·.fix)).flatMap
        (·.replacements) ↔
      r ∈ insertions (spell u (Cursor.inserts (planned u o) u.root)) := by
  constructor
  · intro h
    obtain ⟨fix, hfix, hr⟩ := List.mem_flatMap.1 h
    obtain ⟨found, hfound, rfl⟩ := List.mem_map.1 hfix
    obtain ⟨c, hc, hfound⟩ := List.mem_filterMap.1 hfound
    obtain ⟨hbelow, hk⟩ := mem_invocations_iff.1 hc
    obtain ⟨d, hd, hreplace⟩ := replacements_of_verdict hk hfound
    rw [hreplace, List.mem_singleton] at hr
    refine List.mem_map.2 ⟨_, List.mem_map.2 ⟨(d.stop, found.argument), ?_, rfl⟩, hr.symm⟩
    exact Cursor.mem_inserts_iff.2
      ⟨c, hbelow, planned_eq_some_iff.2 ⟨hk, found, hfound, rfl⟩, d, hd, rfl⟩
  · intro h
    obtain ⟨q, hq, rfl⟩ := List.mem_map.1 h
    obtain ⟨p, hp, rfl⟩ := List.mem_map.1 hq
    obtain ⟨c, hbelow, hplan, r, hr, hstop⟩ := Cursor.mem_inserts_iff.1 hp
    obtain ⟨hk, found, hfound, harg⟩ := planned_eq_some_iff.1 hplan
    obtain ⟨d, hd, hreplace⟩ := replacements_of_verdict hk hfound
    obtain rfl : r = d := Option.some.inj (hr.symm.trans hd)
    refine List.mem_flatMap.2 ⟨found.fix, List.mem_map_of_mem (List.mem_filterMap.2
      ⟨c, mem_invocations_iff.2 ⟨hbelow, hk⟩, hfound⟩), ?_⟩
    rw [hreplace, harg, ← hstop]
    exact List.mem_singleton.2 rfl

section

variable (hu : u.WellFormed)

include hu

/-- An inserted text has as many bytes as the argument and twelve more. -/
theorem ofText_attachment {a : Cursor} (ha : Cursor.Below u.root a) :
    Utf8.ofText s!".withCause({u.textOf a})" =
      Utf8.ofText ".withCause(" ++ (u.bytesOf a ++ Utf8.ofText ")") := by
  have hreg := hu.below _ ha
  rw [ofText_withCause hreg.boundary_start hreg.boundary_stop, List.append_assoc]

theorem length_bytesOf {a : Cursor} (ha : Cursor.Below u.root a) :
    (u.bytesOf a).length = a.stop - a.start := by
  have hreg := hu.below _ ha
  have hstop := hreg.boundary_stop.1
  rw [SourceUnit.bytesOf, List.length_take, List.length_drop]
  omega

theorem weight_spell {points : List (Nat × Cursor)} (h : ∀ p ∈ points, Cursor.Below u.root p.2) :
    weight (spell u points) = Cursor.width points := by
  induction points with
  | nil => rfl
  | cons p points ih =>
    have ih := ih fun q hq => h q (List.mem_cons_of_mem _ hq)
    have hp := h p List.mem_cons_self
    unfold weight spell Cursor.width at ih ⊢
    rw [List.map_cons, total_cons, total_cons, ih]
    simp only
    rw [ofText_attachment hu hp, List.length_append, List.length_append, length_bytesOf hu hp]
    have h1 : (Utf8.ofText ".withCause(").length = 11 := by decide
    have h2 : (Utf8.ofText ")").length = 1 := by decide
    omega

/-! ## Its source -/

theorem boundary_of_mem_inserts {c : Cursor} (hc : Cursor.Below u.root c) {p : Nat × Cursor}
    (h : p ∈ Cursor.inserts (planned u o) c) : Utf8.IsBoundary u.source p.1 := by
  obtain ⟨d, hd, -, r, hr, hstop⟩ := Cursor.mem_inserts_iff.1 h
  rw [hstop]
  exact (hu.below _ ((hc.trans hd).trans
    (Cursor.below_of_childByField? hr))).boundary_stop

theorem ascends_planned {c : Cursor} (hc : Cursor.Below u.root c) :
    Cursor.Ascends c.start c.stop (Cursor.inserts (planned u o) c) :=
  Cursor.inserts_ascend (names_planned u o) fun d hd => hu.below d (hc.trans hd)

/-- The fixes of a unit lead to the source of the fixed unit. -/
theorem applyFixes_fixed (log : Log) :
    applyFixes u.source (((findAll { unit := u, oracle := o }).run log).1.map (·.fix)) =
      .ok (fixed u o).source := by
  have hroot := Cursor.Below.refl u.root
  rw [findAll_run]
  refine applyFixes_insertions ?_ ?_ ?_
  · exact fun r => mem_replacements_iff
  · exact List.pairwise_map.2 (ascends_planned hu hroot).1
  · intro p hp
    obtain ⟨q, hq, rfl⟩ := List.mem_map.1 hp
    exact (boundary_of_mem_inserts hu hroot hq).1

/-! ## What nodes spell -/

/-- The new source behind some of what is inserted. -/
theorem drop_source_fixed {before after : List (Nat × Cursor)} {n : Nat}
    (hsplit : Cursor.inserts (planned u o) u.root = before ++ after) (hn : n ≤ u.source.length)
    (hbefore : ∀ p ∈ before, p.1 ≤ n) (hafter : ∀ p ∈ after, n ≤ p.1) :
    (fixed u o).source.drop (n + Cursor.width before) =
      splice u.source n (insertions (spell u after)) := by
  have hroot := Cursor.Below.refl u.root
  have hasc := (ascends_planned (o := o) hu hroot).1
  have hmem : ∀ p ∈ before ++ after, Cursor.Below u.root p.2 ∧ p.1 ≤ u.source.length := by
    intro p hp
    rw [← hsplit] at hp
    exact ⟨below_of_mem_inserts hroot hp, (boundary_of_mem_inserts hu hroot hp).1⟩
  rw [hsplit] at hasc
  show (splice u.source 0 (insertions (spell u (Cursor.inserts _ _)))).drop _ = _
  rw [hsplit, spell_append,
    ← weight_spell hu fun p hp => (hmem p (List.mem_append_left _ hp)).1]
  refine drop_splice_append (List.pairwise_map.2 (List.pairwise_append.1 hasc).1) (Nat.zero_le n)
    hn ?_ ?_
  · intro p hp
    obtain ⟨q, hq, rfl⟩ := List.mem_map.1 hp
    exact ⟨Nat.zero_le _, hbefore q hq⟩
  · intro p hp
    obtain ⟨q, hq, rfl⟩ := List.mem_map.1 hp
    exact ⟨hafter q hq, (hmem q (List.mem_append_right _ hq)).2⟩

/-- What a kept node spells: what it spelled, with the attached causes inside it. -/
theorem bytesOf_kept {c c' : Cursor} (h : Cursor.Kept (planned u o) u.root c c') :
    (fixed u o).bytesOf c' = splice (u.source.take c.stop) c.start
      (insertions (spell u (Cursor.inserts (planned u o) c))) := by
  obtain ⟨hc, x, before, after, hat, hfocus⟩ :=
    h.located hu.below (names_planned u o)
  have hreg := hu.below _ hc
  have hroot := Cursor.Below.refl u.root
  obtain ⟨hasc, hin⟩ := ascends_planned (o := o) hu hc
  have hall : ∀ p ∈ before ++ (Cursor.inserts (planned u o) c ++
      ((x.map (c.stop, ·)).toList ++ after)),
      Cursor.Below u.root p.2 ∧ p.1 ≤ u.source.length := by
    intro p hp
    rw [← hat.split] at hp
    exact ⟨below_of_mem_inserts hroot hp, (boundary_of_mem_inserts hu hroot hp).1⟩
  have hsize : c'.stop - c'.start =
      c.stop - c.start + weight (spell u (Cursor.inserts (planned u o) c)) := by
    have hordered := hreg.ordered
    rw [Cursor.stop, Cursor.start, hfocus, Cursor.stop_patch, Cursor.start_patch,
      weight_spell hu fun p hp => (hall p (by simp [hp])).1]
    omega
  have hdrop : (fixed u o).source.drop c'.start = splice u.source c.start
      (insertions (spell u (Cursor.inserts (planned u o) c) ++
        spell u ((x.map (c.stop, ·)).toList ++ after))) := by
    rw [Cursor.start, hfocus, Cursor.start_patch, ← spell_append]
    refine drop_source_fixed hu hat.split hreg.boundary_start.1 hat.before_le ?_
    intro p hp
    rcases List.mem_append.1 hp with hp | hp
    · exact Nat.le_of_lt (hin p hp).1
    · exact Nat.le_trans hreg.ordered (hat.le_rest hp)
  rw [SourceUnit.bytesOf, hdrop, hsize]
  refine take_splice_append (List.pairwise_map.2 hasc) hreg.ordered hreg.boundary_stop.1 ?_ ?_
  · intro p hp
    obtain ⟨q, hq, rfl⟩ := List.mem_map.1 hp
    exact ⟨Nat.le_of_lt (hin q hq).1, Nat.le_of_lt (hin q hq).2⟩
  · intro p hp
    obtain ⟨q, hq, rfl⟩ := List.mem_map.1 hp
    exact ⟨hat.le_rest hq, (hall q (List.mem_append_right _ (List.mem_append_right _ hq))).2⟩

/-- The new source from the end of a receiver on: the attached cause comes next. -/
theorem drop_source_added {d a : Cursor} {before after : List (Nat × Cursor)}
    (hd : Cursor.Below u.root d) (ha : Cursor.Below u.root a)
    (hat : Cursor.Around (planned u o) u.root d (some a) before after) :
    ∃ rest, (fixed u o).source.drop
        (Cursor.patch (planned u o) (Cursor.width before) d).stop =
      Utf8.ofText ".withCause(" ++ (u.bytesOf a ++ rest) := by
  have hreg := hu.below _ hd
  have hin := (ascends_planned (o := o) hu hd).2
  have hsplit : Cursor.inserts (planned u o) u.root =
      (before ++ Cursor.inserts (planned u o) d) ++ ((d.stop, a) :: after) := by
    rw [hat.split, List.append_assoc]
    rfl
  refine ⟨Utf8.ofText ")" ++ splice u.source d.stop (insertions (spell u after)), ?_⟩
  rw [Cursor.stop_patch, Nat.add_assoc, ← Cursor.width_append,
    drop_source_fixed hu hsplit hreg.boundary_stop.1 ?_ ?_]
  · show splice u.source d.stop (insertions ((d.stop, _) :: spell u after)) = _
    rw [splice_insertions_cons, Nat.sub_self, List.take_zero, List.nil_append,
      ofText_attachment hu ha]
    simp only [List.append_assoc]
  · intro p hp
    rcases List.mem_append.1 hp with hp | hp
    · exact Nat.le_trans (hat.before_le p hp) hreg.ordered
    · exact Nat.le_of_lt (hin p hp).2
  · exact fun p hp => hat.le_rest hp

/-- A part of a node is a part of what it spells. -/
theorem bytesOf_below {a c : Cursor} (ha : Cursor.Below u.root a) (hc : Cursor.Below a c) :
    u.bytesOf c = ((u.bytesOf a).drop (c.start - a.start)).take (c.stop - c.start) := by
  obtain ⟨hstart, hstop⟩ := Cursor.span_of_below (fun d hd => hu.below d (ha.trans hd)) hc
  unfold SourceUnit.bytesOf
  rw [List.drop_take, List.drop_drop, Nat.add_sub_cancel' hstart, List.take_take,
    Nat.min_eq_left (by omega)]

/-- A copied node spells what its original spelled. -/
theorem bytesOf_copied {c c' : Cursor} (h : Cursor.Copied (planned u o) u.root c c') :
    (fixed u o).bytesOf c' = u.bytesOf c := by
  obtain ⟨k, a, d, before, after, hplan, hobject, hk, hat, hac, hfocus⟩ :=
    h.located hu.below (names_planned u o)
  have ha := below_of_planned hk hplan
  obtain ⟨rest, hrest⟩ := drop_source_added hu (hk.trans (Cursor.below_of_childByField? hobject)) ha
    hat
  obtain ⟨hstart, hstop⟩ := Cursor.span_of_below (fun d hd => hu.below d (ha.trans hd)) hac
  have hordered := (hu.below _ (ha.trans hac)).ordered
  have hlen := length_bytesOf hu ha
  have hlabel : c'.focus.label = _ := (congrArg Tree.label hfocus).trans (Tree.label_moved _ _ _)
  have hstart' : c'.start = (Cursor.patch (planned u o) (Cursor.width before) d).stop +
      ((Utf8.ofText ".withCause(").length + (c.start - a.start)) := by
    rw [← Nat.add_assoc]
    exact congrArg Label.start hlabel
  have hsize : c'.stop - c'.start = c.stop - c.start := by
    have hstop' : c'.stop = (Cursor.patch (planned u o) (Cursor.width before) d).stop + 11 +
      (c.stop - a.start) := congrArg Label.stop hlabel
    have hstart' : c'.start = (Cursor.patch (planned u o) (Cursor.width before) d).stop + 11 +
      (c.start - a.start) := congrArg Label.start hlabel
    omega
  rw [SourceUnit.bytesOf, hsize, hstart', ← List.drop_drop, hrest, List.drop_length_add_append,
    List.drop_append_of_le_length (by omega),
    List.take_append_of_le_length (by rw [List.length_drop]; omega)]
  exact (bytesOf_below hu ha hac).symm

/-- The name of an added call. -/
theorem methodName_added {c a added : Cursor} (h : Cursor.Added (planned u o) u.root c a added) :
    (fixed u o).methodName added = "withCause" := by
  obtain ⟨d, before, after, hplan, hobject, hc, hat, hfocus⟩ :=
    h.located hu.below (names_planned u o)
  obtain ⟨name, hname, hstart, hstop⟩ := Cursor.name_addedCall hobject hfocus
  obtain ⟨rest, hrest⟩ := drop_source_added hu (hc.trans (Cursor.below_of_childByField? hobject))
    (below_of_planned hc hplan) hat
  have hbytes : (fixed u o).bytesOf name = Utf8.ofText "withCause" := by
    rw [SourceUnit.bytesOf, hstop, hstart, ← List.drop_drop, hrest,
      List.drop_append_of_le_length (by decide),
      List.take_append_of_le_length (by rw [Nat.add_sub_add_left]; decide), Nat.add_sub_add_left]
    decide
  rw [SourceUnit.methodName, hname, SourceUnit.textOf?, Option.map_some, Option.getD_some,
    SourceUnit.textOf, hbytes, Utf8.toText_ofText]

/-! ## Names -/

theorem isValid_bytesOf_kept {c c' : Cursor} (h : Cursor.Kept (planned u o) u.root c c') :
    Utf8.isValid ((fixed u o).bytesOf c') = true := by
  obtain ⟨hc, -⟩ := h.located hu.below (names_planned u o)
  have hreg := hu.below _ hc
  have hin := (ascends_planned (o := o) hu hc).2
  rw [bytesOf_kept hu h]
  refine isValid_splice hreg.boundary_stop.2 (hreg.boundary_start.take hreg.ordered) ?_
  intro r hr
  obtain ⟨q, hq, rfl⟩ := List.mem_map.1 hr
  obtain ⟨p, hp, rfl⟩ := List.mem_map.1 hq
  have hb := (boundary_of_mem_inserts hu hc hp).take (Nat.le_of_lt (hin p hp).2)
  exact ⟨hb, hb⟩

/-- A node with a planned call inside is no name of a method that the rule knows: it holds a
receiver, a dot or the like, and the name `log`. -/
theorem textOf_ne_of_mem_inserts {n : Cursor} (hn : Cursor.Below u.root n) {p : Nat × Cursor}
    (hp : p ∈ Cursor.inserts (planned u o) n) {name : String}
    (hname : name = "log" ∨ name = "withCause") : u.textOf n ≠ name := by
  intro htext
  obtain ⟨k, hk, hplan, r, hr, -⟩ := Cursor.mem_inserts_iff.1 hp
  obtain ⟨⟨hkind, hlog, -⟩, -⟩ := of_planned hplan
  obtain ⟨m, hm, hlt⟩ := exists_name_of_methodName (u := u) (c := k) (by rw [hlog]; decide)
  have hbelow : ∀ d, Cursor.Below n d → d.Regular u.source :=
    fun d hd => hu.below d (hn.trans hd)
  have hnm : Cursor.Below n m := hk.trans (Cursor.below_of_childByField? hm)
  obtain ⟨hne, hbefore⟩ := (hbelow k hk).receiver r hkind hr
  have hspan := Cursor.span_of_below hbelow (hk.trans (Cursor.below_of_childByField? hr))
  have hspan' := Cursor.span_of_below hbelow hnm
  have hstop := hbefore m hm
  -- both names are known by their bytes
  have hreg := hu.below _ hn
  have hregm := hbelow m hnm
  have hbytes : u.bytesOf n = Utf8.ofText name := Utf8.eq_ofText_of_toText
    (Utf8.isValid_slice hreg.boundary_start hreg.boundary_stop) htext
  have hmtext : u.textOf m = "log" := by
    rw [SourceUnit.methodName, hm] at hlog
    exact hlog
  have hmbytes : u.bytesOf m = Utf8.ofText "log" := Utf8.eq_ofText_of_toText
    (Utf8.isValid_slice hregm.boundary_start hregm.boundary_stop) hmtext
  rcases hname with rfl | rfl
  · have hlen := length_bytesOf hu hn
    have hmlen := length_bytesOf hu (hn.trans hnm)
    rw [hbytes] at hlen
    rw [hmbytes] at hmlen
    omega
  · have hg : (103 : UInt8) ∈ u.bytesOf m := by
      rw [hmbytes]
      decide
    rw [bytesOf_below hu hn hnm, hbytes] at hg
    exact absurd (List.mem_of_mem_drop (List.mem_of_mem_take hg)) (by decide)

/-- A node is named `log` or `withCause` in the new unit when it was before. -/
theorem textOf_kept_iff {n n' : Cursor} (h : Cursor.Kept (planned u o) u.root n n')
    {name : String} (hname : name = "log" ∨ name = "withCause") :
    (fixed u o).textOf n' = name ↔ u.textOf n = name := by
  obtain ⟨hn, -⟩ := h.located hu.below (names_planned u o)
  cases hins : Cursor.inserts (planned u o) n with
  | nil =>
    have hbytes := bytesOf_kept hu h
    rw [hins] at hbytes
    have hsame : (fixed u o).bytesOf n' = u.bytesOf n := by
      rw [hbytes]
      exact List.drop_take
    rw [SourceUnit.textOf, SourceUnit.textOf, hsame]
  | cons p rest =>
    have hp : p ∈ Cursor.inserts (planned u o) n := by
      rw [hins]
      exact List.mem_cons_self
    refine ⟨?_, fun htext => absurd htext (textOf_ne_of_mem_inserts hu hn hp hname)⟩
    intro htext
    -- an attached cause brings a parenthesis
    have hparen : (40 : UInt8) ∈ (fixed u o).bytesOf n' := by
      rw [bytesOf_kept hu h]
      refine mem_splice (List.mem_map_of_mem hp) ?_
      simp only
      rw [ofText_attachment hu (below_of_mem_inserts hn hp)]
      exact List.mem_append_left _ (by decide)
    rw [Utf8.eq_ofText_of_toText (isValid_bytesOf_kept hu h) htext] at hparen
    rcases hname with rfl | rfl <;> exact absurd hparen (by decide)

end

end Rule

end CauseLint
