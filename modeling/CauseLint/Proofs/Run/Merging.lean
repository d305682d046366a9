import CauseLint.Run.Results
import Mathlib.Data.List.Nodup

/-!
# Merging results

Tables are merged key by key: a key that both have holds the two values combined, and the keys of
the second that are new come behind those of the first. So merging is associative wherever combining
values is. The results of a run are merged in this way, as long as the statistics are counts and
times, and all times are zero.

Results:

* `Table.mergeWith_assoc`: merging tables is associative.
* `Results.merge_eq_join`: tidy results are merged without an error.
* `Results.join_assoc`: merging tidy results is associative.
-/

namespace CauseLint

/-! ## Keys in order of arrival -/

section

variable {κ : Type} [BEq κ]

/-- Add keys that are not in a list yet, in order. -/
def addKeys (old new : List κ) : List κ :=
  new.foldl (fun acc k => if acc.contains k then acc else acc ++ [k]) old

theorem addKeys_singleton (old : List κ) (k : κ) :
    addKeys old [k] = if old.contains k then old else old ++ [k] := rfl

theorem addKeys_cons (old : List κ) (k : κ) (new : List κ) :
    addKeys old (k :: new) = addKeys (addKeys old [k]) new := rfl

theorem addKeys_concat (old new : List κ) (k : κ) :
    addKeys old (new ++ [k]) = addKeys (addKeys old new) [k] := List.foldl_append

theorem addKeys_append (old new more : List κ) :
    addKeys old (new ++ more) = addKeys (addKeys old new) more := List.foldl_append

variable [LawfulBEq κ] {a b c : List κ} {k : κ}

theorem mem_addKeys_singleton {j : κ} : j ∈ addKeys a [k] ↔ j ∈ a ∨ j = k := by
  rw [addKeys_singleton]
  split
  · rename_i hk
    refine ⟨.inl, ?_⟩
    rintro (h | rfl)
    · exact h
    · exact List.contains_iff_mem.1 hk
  · rw [List.mem_append, List.mem_singleton]

theorem mem_addKeys : k ∈ addKeys a b ↔ k ∈ a ∨ k ∈ b := by
  induction b generalizing a with
  | nil => simp [addKeys]
  | cons j b ih => rw [addKeys_cons, ih, mem_addKeys_singleton, List.mem_cons, or_assoc]

theorem nodup_addKeys (h : a.Nodup) : (addKeys a b).Nodup := by
  induction b generalizing a with
  | nil => exact h
  | cons k b ih =>
    rw [addKeys_cons]
    refine ih ?_
    rw [addKeys_singleton]
    split
    · exact h
    · rename_i hk
      refine List.nodup_append.2 ⟨h, List.nodup_singleton k, ?_⟩
      rintro i hi j hj rfl
      exact hk (List.contains_iff_mem.2 (List.mem_singleton.1 hj ▸ hi))

/-- A key that comes in last can come in with the keys before it. -/
theorem addKeys_addKeys_singleton : addKeys (addKeys a b) [k] = addKeys a (addKeys b [k]) := by
  rw [addKeys_singleton b]
  split
  · rename_i hk
    rw [addKeys_singleton, if_pos]
    exact List.contains_iff_mem.2 (mem_addKeys.2 (.inr (List.contains_iff_mem.1 hk)))
  · rw [addKeys_concat]

theorem addKeys_assoc : addKeys (addKeys a b) c = addKeys a (addKeys b c) := by
  induction c generalizing b with
  | nil => rfl
  | cons k c ih => rw [addKeys_cons, addKeys_addKeys_singleton, ih, ← addKeys_cons]

end

/-! ## Tables -/

namespace Table

variable {κ α : Type} [BEq κ]

/-- Take in a value: under a key that is there it is combined with the old one. -/
def absorb (f : α → α → α) (t : Table κ α) (k : κ) (v : α) : Table κ α :=
  t.insert k (match t.get? k with
    | some old => f old v
    | none => v)

/-- Take in values one after another. -/
def absorbAll (f : α → α → α) (t : Table κ α) (pairs : List (κ × α)) : Table κ α :=
  pairs.foldl (fun t p => t.absorb f p.1 p.2) t

/-- Merge two tables key by key. -/
def mergeWith (f : α → α → α) (a b : Table κ α) : Table κ α := a.absorbAll f b.entries

/-- All entries of a table are of some kind. -/
def Each (p : κ → α → Prop) (t : Table κ α) : Prop := ∀ e ∈ t.entries, p e.1 e.2

variable {f : α → α → α} {t a b c : Table κ α} {p : κ → α → Prop}

omit [BEq κ] in
theorem Each.empty : Each p ({} : Table κ α) := fun _ h => by cases h

variable [LawfulBEq κ]

theorem Each.insert (h : t.Each p) {k : κ} {v : α} (hv : p k v) : (t.insert k v).Each p := by
  intro e he
  rcases mem_put he with rfl | he
  · exact hv
  · exact h e he

theorem Each.insertAll (h : t.Each p) {more : List (κ × α)} (hmore : ∀ e ∈ more, p e.1 e.2) :
    (t.insertAll more).Each p := by
  induction more generalizing t with
  | nil => exact h
  | cons e more ih =>
    obtain ⟨he, hmore⟩ := List.forall_mem_cons.1 hmore
    exact ih (h.insert he) hmore

theorem nodup_keys_insertAll (h : t.keys.Nodup) (more : List (κ × α)) :
    (t.insertAll more).keys.Nodup := by
  induction more generalizing t with
  | nil => exact h
  | cons e more ih => exact ih (nodup_keys_insert h e.1 e.2)

theorem keys_insertAll (t : Table κ α) (more : List (κ × α)) :
    (t.insertAll more).keys = addKeys t.keys (more.map (·.1)) := by
  induction more generalizing t with
  | nil => rfl
  | cons e more ih =>
    show ((t.insert e.1 e.2).insertAll more).keys = _
    rw [ih, keys_insert, List.map_cons, addKeys_cons, addKeys_singleton, List.elem_eq_contains]

/-- Tables with the same keys in the same order and the same values are equal. -/
theorem eq_of_get? (hkeys : a.keys = b.keys) (hnodup : a.keys.Nodup)
    (h : ∀ k, a.get? k = b.get? k) : a = b := by
  have hentries : ∀ {t : Table κ α}, t.keys.Nodup →
      t.entries = t.keys.filterMap fun k => (t.get? k).map (k, ·) := by
    intro t ht
    have hself : t.entries.filterMap (fun e => (t.get? e.1).map (e.1, ·)) =
        t.entries.filterMap some := by
      refine List.filterMap_congr fun e he => ?_
      rw [get?_of_mem_entries ht he]
      rfl
    rw [keys, List.filterMap_map]
    exact (hself.trans List.filterMap_some).symm
  have heq : a.entries = b.entries := by
    rw [hentries hnodup, hentries (hkeys ▸ hnodup), hkeys]
    exact List.filterMap_congr fun k _ => by rw [h]
  cases a
  cases b
  exact congrArg Table.mk heq

theorem keys_absorb (k : κ) (v : α) : (t.absorb f k v).keys = addKeys t.keys [k] := by
  rw [absorb, keys_insert, addKeys_singleton, List.elem_eq_contains]

theorem get?_absorb (k : κ) (v : α) (j : κ) :
    (t.absorb f k v).get? j = if j == k then Option.merge f (t.get? k) (some v) else t.get? j := by
  rw [absorb, get?_insert]
  cases t.get? k <;> rfl

theorem keys_absorbAll (pairs : List (κ × α)) :
    (t.absorbAll f pairs).keys = addKeys t.keys (pairs.map (·.1)) := by
  induction pairs generalizing t with
  | nil => rfl
  | cons p pairs ih =>
    show ((t.absorb f p.1 p.2).absorbAll f pairs).keys = _
    rw [ih, keys_absorb, List.map_cons, ← addKeys_cons]

theorem get?_absorbAll {pairs : List (κ × α)} (h : (pairs.map (·.1)).Nodup) (k : κ) :
    (t.absorbAll f pairs).get? k = Option.merge f (t.get? k) (pairs.lookup k) := by
  induction pairs generalizing t with
  | nil => cases h' : t.get? k <;> simp [absorbAll, h']
  | cons p pairs ih =>
    obtain ⟨j, v⟩ := p
    obtain ⟨hj, h⟩ := List.nodup_cons.1 h
    show ((t.absorb f j v).absorbAll f pairs).get? k = _
    rw [ih h, get?_absorb, List.lookup_cons]
    by_cases heq : k == j
    · have hnone : pairs.lookup k = none := by
        rw [List.lookup_eq_none_iff]
        intro q hq
        rw [eq_of_beq heq, bne_iff_ne]
        rintro rfl
        exact hj (List.mem_map.2 ⟨q, hq, rfl⟩)
      rw [hnone, if_pos heq, heq, eq_of_beq heq]
      cases t.get? j <;> rfl
    · rw [if_neg heq, Bool.eq_false_iff.2 heq]

theorem keys_mergeWith : (a.mergeWith f b).keys = addKeys a.keys b.keys := keys_absorbAll b.entries

/-- Under each key stand the values that the two tables have there, combined. -/
theorem get?_mergeWith (hb : b.keys.Nodup) (k : κ) :
    (a.mergeWith f b).get? k = Option.merge f (a.get? k) (b.get? k) := get?_absorbAll hb k

theorem nodup_keys_mergeWith (ha : a.keys.Nodup) : (a.mergeWith f b).keys.Nodup := by
  rw [keys_mergeWith]
  exact nodup_addKeys ha

/-- Merging tables is associative where combining their values is. -/
theorem mergeWith_assoc (ha : a.keys.Nodup) (hb : b.keys.Nodup) (hc : c.keys.Nodup)
    (hf : ∀ k x y z, a.get? k = some x → b.get? k = some y → c.get? k = some z →
      f (f x y) z = f x (f y z)) :
    (a.mergeWith f b).mergeWith f c = a.mergeWith f (b.mergeWith f c) := by
  refine eq_of_get? ?_ (nodup_keys_mergeWith (nodup_keys_mergeWith ha)) fun k => ?_
  · rw [keys_mergeWith, keys_mergeWith, keys_mergeWith, keys_mergeWith, addKeys_assoc]
  · rw [get?_mergeWith hc, get?_mergeWith hb, get?_mergeWith (nodup_keys_mergeWith hb),
      get?_mergeWith hc]
    cases hx : a.get? k with
    | none => cases b.get? k <;> cases c.get? k <;> rfl
    | some x =>
      cases hy : b.get? k with
      | none => cases c.get? k <;> rfl
      | some y =>
        cases hz : c.get? k with
        | none => rfl
        | some z => exact congrArg some (hf k x y z hx hy hz)

theorem Each.absorb (h : t.Each p) {k : κ} {v : α} (hv : p k v)
    (hf : ∀ x, p k x → p k (f x v)) : (t.absorb f k v).Each p := by
  refine h.insert ?_
  cases hget : t.get? k with
  | none => exact hv
  | some old => exact hf old (h _ (mem_entries_of_get? hget))

theorem Each.mergeWith (ha : a.Each p) (hb : b.Each p)
    (hf : ∀ k x y, p k x → p k y → p k (f x y)) : (a.mergeWith f b).Each p := by
  have hall : ∀ (pairs : List (κ × α)) {t : Table κ α}, t.Each p → (∀ e ∈ pairs, p e.1 e.2) →
      (t.absorbAll f pairs).Each p := by
    intro pairs
    induction pairs with
    | nil => exact fun h _ => h
    | cons e pairs ih =>
      intro t h hpairs
      obtain ⟨he, hpairs⟩ := List.forall_mem_cons.1 hpairs
      exact ih (h.absorb he fun x hx => hf _ _ _ hx he) hpairs
  exact hall b.entries ha hb

end Table

/-! ## Statistics -/

/-- A count, or the time zero under the name of a time. -/
def Stat.AtRest (timed : Prop) : Stat → Prop
  | .amount (.real x) => timed ∧ x = 0
  | .amount (.whole _) => ¬ timed
  | _ => False

/-- The sum of two counts; a time that is zero stays so. -/
def Stat.sum : Stat → Stat → Stat
  | .amount (.whole a), .amount (.whole b) => .amount (.whole (a + b))
  | old, _ => old

namespace Stat.AtRest

variable {timed : Prop} {x y z : Stat}

theorem sum (hx : x.AtRest timed) (hy : y.AtRest timed) : (x.sum y).AtRest timed := by
  match x, y with
  | .amount (.whole a), .amount (.whole b) => exact hx
  | .amount (.real a), .amount (.real b) => exact hx
  | .amount (.whole a), .amount (.real b) => exact absurd hy.1 hx
  | .amount (.real a), .amount (.whole b) => exact absurd hx.1 hy

theorem sum_assoc (hx : x.AtRest timed) (hy : y.AtRest timed) (hz : z.AtRest timed) :
    (x.sum y).sum z = x.sum (y.sum z) := by
  match x, y, z with
  | .amount (.whole a), .amount (.whole b), .amount (.whole c) =>
    exact congrArg (fun n => Stat.amount (.whole n)) (Int.add_assoc a b c)
  | .amount (.real a), .amount (.real b), _ => rfl
  | .amount (.whole a), .amount (.real b), _ => exact absurd hy.1 hx
  | .amount (.real a), .amount (.whole b), _ => exact absurd hx.1 hy
  | .amount (.whole a), .amount (.whole b), .amount (.real c) => exact absurd hz.1 hy

/-- A value that comes in is added to what is there. -/
theorem plus (hx : x.AtRest timed) (hy : y.AtRest timed) :
    ∃ new, y.amount? = some new ∧ x.plus new y.kindName = .ok (x.sum y) := by
  match x, y with
  | .amount (.whole a), .amount (.whole b) => exact ⟨.whole b, rfl, rfl⟩
  | .amount (.real a), .amount (.real b) =>
    obtain ⟨-, rfl⟩ := hx
    obtain ⟨-, rfl⟩ := hy
    have hzero : (0 : Float) + 0 = 0 := by decide
    exact ⟨.real 0, rfl, congrArg (fun x => Except.ok (Stat.amount (.real x))) hzero⟩
  | .amount (.whole a), .amount (.real b) => exact absurd hy.1 hx
  | .amount (.real a), .amount (.whole b) => exact absurd hx.1 hy

end Stat.AtRest

namespace Stats

/-- Statistics that hold counts, and the time zero under the names `timed`. -/
def AtRest (timed : String → Prop) (stats : Stats) : Prop :=
  Table.Each (fun key value => value.AtRest (timed key)) stats

variable {timed : String → Prop} {stats more : Stats}

theorem AtRest.take (h : AtRest timed stats) {key : String} {value : Stat}
    (hv : value.AtRest (timed key)) :
    stats.take key value = .ok (Table.absorb Stat.sum stats key value) := by
  unfold Stats.take Table.absorb
  cases hget : stats.get? key with
  | none => rfl
  | some old =>
    obtain ⟨new, hnew, hsum⟩ := Stat.AtRest.plus (h _ (Table.mem_entries_of_get? hget)) hv
    rw [hnew]
    dsimp only
    rw [hsum]
    rfl

/-- Statistics at rest are combined without an error. -/
theorem AtRest.takeAll (h : AtRest timed stats) (hmore : AtRest timed more) :
    stats.takeAll more.entries = (Table.mergeWith Stat.sum stats more, none) := by
  have hall : ∀ (pairs : List (String × Stat)) {stats : Stats}, AtRest timed stats →
      (∀ e ∈ pairs, e.2.AtRest (timed e.1)) →
      stats.takeAll pairs = (Table.absorbAll Stat.sum stats pairs, none) := by
    intro pairs
    induction pairs with
    | nil => exact fun _ _ => rfl
    | cons e pairs ih =>
      intro stats h hpairs
      obtain ⟨he, hpairs⟩ := List.forall_mem_cons.1 hpairs
      rw [Stats.takeAll, h.take he]
      exact ih (Table.Each.absorb h he fun x hx => Stat.AtRest.sum hx he) hpairs
  exact hall more.entries h hmore

end Stats

/-! ## Results -/

namespace Results

/-- Results with one entry for each checker and for each name of the statistics, which are at
rest. -/
structure Tidy (timed : String → Prop) (r : Results) : Prop where
  byChecker : r.byChecker.keys.Nodup
  stats : r.stats.keys.Nodup
  rest : r.stats.AtRest timed

/-- Two results in one. -/
def join (a b : Results) : Results where
  diagnostics := a.diagnostics ++ b.diagnostics
  byChecker := a.byChecker.mergeWith (· ++ ·) b.byChecker
  stats := Table.mergeWith Stat.sum a.stats b.stats
  checkers := addNames a.checkers b.checkers
  files := a.files ++ b.files
  failures := a.failures ++ b.failures

variable {timed : String → Prop} {a b c : Results}

theorem Tidy.empty : Tidy timed {} := ⟨List.nodup_nil, List.nodup_nil, Table.Each.empty⟩

theorem Tidy.join (ha : a.Tidy timed) (hb : b.Tidy timed) : (a.join b).Tidy timed where
  byChecker := Table.nodup_keys_mergeWith ha.byChecker
  stats := Table.nodup_keys_mergeWith ha.stats
  rest := Table.Each.mergeWith ha.rest hb.rest fun _ _ _ hx hy => Stat.AtRest.sum hx hy

theorem join_empty (a : Results) : a.join {} = a := by
  show { a with
    diagnostics := a.diagnostics ++ []
    files := a.files ++ []
    failures := a.failures ++ [] } = a
  rw [List.append_nil, List.append_nil, List.append_nil]

/-- Merging tidy results is associative. -/
theorem join_assoc (ha : a.Tidy timed) (hb : b.Tidy timed) (hc : c.Tidy timed) :
    (a.join b).join c = a.join (b.join c) := by
  have hcheckers : (a.byChecker.mergeWith (· ++ ·) b.byChecker).mergeWith (· ++ ·) c.byChecker =
      a.byChecker.mergeWith (· ++ ·) (b.byChecker.mergeWith (· ++ ·) c.byChecker) :=
    Table.mergeWith_assoc ha.byChecker hb.byChecker hc.byChecker
      fun _ x y z _ _ _ => List.append_assoc x y z
  have hstats : Table.mergeWith Stat.sum (Table.mergeWith Stat.sum a.stats b.stats) c.stats =
      Table.mergeWith Stat.sum a.stats (Table.mergeWith Stat.sum b.stats c.stats) :=
    Table.mergeWith_assoc ha.stats hb.stats hc.stats fun _ x y z hx hy hz =>
      Stat.AtRest.sum_assoc (ha.rest _ (Table.mem_entries_of_get? hx))
        (hb.rest _ (Table.mem_entries_of_get? hy)) (hc.rest _ (Table.mem_entries_of_get? hz))
  have hnames : addNames (addNames a.checkers b.checkers) c.checkers =
      addNames a.checkers (addNames b.checkers c.checkers) := addKeys_assoc
  simp only [join, hcheckers, hstats, hnames, List.append_assoc]

/-- The findings of checkers are merged checker by checker. -/
theorem byChecker_merge (a b : Results) :
    (a.merge b).1.byChecker = a.byChecker.mergeWith (· ++ ·) b.byChecker := by
  have hstep : b.byChecker.entries.foldl (fun t (n, ds) => t.update n [] (· ++ ds))
      a.byChecker = a.byChecker.mergeWith (· ++ ·) b.byChecker := by
    refine congrArg (fun step => b.byChecker.entries.foldl step a.byChecker) ?_
    funext t ⟨n, ds⟩
    show t.insert n ((t.get? n).getD [] ++ ds) = t.absorb (· ++ ·) n ds
    unfold Table.absorb
    cases t.get? n <;> rfl
  unfold merge
  dsimp only
  split <;> exact hstep

/-- Tidy results are merged without an error. -/
theorem merge_eq_join (ha : a.Tidy timed) (hb : b.Tidy timed) : a.merge b = (a.join b, none) := by
  have hcheckers := byChecker_merge a b
  unfold merge at hcheckers ⊢
  rw [ha.rest.takeAll hb.rest] at hcheckers ⊢
  dsimp only at hcheckers ⊢
  rw [hcheckers]
  rfl

end Results

end CauseLint
