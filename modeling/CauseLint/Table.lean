/-!
# Tables

A finite map that remembers the order in which its keys first came in. Writing a key that is
already there keeps its place and replaces its value, so a listing of a table shows each key once,
in order of first arrival.

Results:

* `Table.get?_insert`: what a lookup finds after a write.
* `Table.keys_insert`: the keys after a write.
-/

namespace CauseLint

/-- Keys with their values, in order of first arrival. -/
structure Table (κ α : Type) where
  entries : List (κ × α) := []
deriving Repr

namespace Table

variable {κ α : Type} [BEq κ]

/-- The table without entries. -/
def empty : Table κ α := ⟨[]⟩

/-- The value stored under a key. -/
def get? (t : Table κ α) (k : κ) : Option α := t.entries.lookup k

/-- Whether a key is present. -/
def contains (t : Table κ α) (k : κ) : Bool := (t.get? k).isSome

/-- Store a value in an association list: in place when the key is present, else at the end. -/
def put (k : κ) (v : α) : List (κ × α) → List (κ × α)
  | [] => [(k, v)]
  | (k', v') :: rest => if k == k' then (k', v) :: rest else (k', v') :: put k v rest

/-- Store a value under a key. -/
def insert (t : Table κ α) (k : κ) (v : α) : Table κ α := ⟨put k v t.entries⟩

/-- Change the value under a key, starting from `init` when the key is new. -/
def update (t : Table κ α) (k : κ) (init : α) (f : α → α) : Table κ α :=
  t.insert k (f ((t.get? k).getD init))

/-- The keys in order of first arrival. -/
def keys (t : Table κ α) : List κ := t.entries.map (·.1)

/-- The values in order of the keys' first arrival. -/
def values (t : Table κ α) : List α := t.entries.map (·.2)

/-- How many keys there are. -/
def size (t : Table κ α) : Nat := t.entries.length

/-- Store several pairs one after another. -/
def insertAll (t : Table κ α) (pairs : List (κ × α)) : Table κ α :=
  pairs.foldl (fun acc p => acc.insert p.1 p.2) t

/-- The table that results from storing the pairs in order. -/
def ofList (pairs : List (κ × α)) : Table κ α := insertAll empty pairs

@[simp] theorem get?_empty (k : κ) : (empty : Table κ α).get? k = none := rfl

theorem lookup_put [LawfulBEq κ] (k k' : κ) (v : α) (l : List (κ × α)) :
    (put k v l).lookup k' = if k' == k then some v else l.lookup k' := by
  induction l with
  | nil => by_cases h : k' == k <;> simp [put, List.lookup_cons, h]
  | cons p rest ih =>
    obtain ⟨a, b⟩ := p
    by_cases h : k == a
    · have hka : k = a := eq_of_beq h
      subst hka
      by_cases h' : k' == k <;> simp [put, List.lookup_cons, h']
    · by_cases h' : k' == a
      · have : k' = a := eq_of_beq h'
        subst this
        have hne : (k' == k) = false := by
          by_cases hk : k' == k
          · exact absurd (eq_of_beq hk ▸ BEq.rfl) h
          · simpa using hk
        simp [put, h, hne]
      · simp [put, h, List.lookup_cons, h', ih]

/-- A lookup after a write finds the new value under the written key and the old one elsewhere. -/
@[simp] theorem get?_insert [LawfulBEq κ] (t : Table κ α) (k k' : κ) (v : α) :
    (t.insert k v).get? k' = if k' == k then some v else t.get? k' :=
  lookup_put k k' v t.entries

/-- The keys present after a write are the written one and those before. -/
theorem contains_insert [LawfulBEq κ] (t : Table κ α) (k k' : κ) (v : α) :
    (t.insert k v).contains k' = (k' == k || t.contains k') := by
  unfold contains
  rw [get?_insert]
  split
  · rename_i heq
    rw [heq]
    rfl
  · rename_i hne
    rw [Bool.not_eq_true] at hne
    rw [hne, Bool.false_or]

theorem keys_put [LawfulBEq κ] (k : κ) (v : α) (l : List (κ × α)) :
    (put k v l).map (·.1) = if (l.map (·.1)).elem k then l.map (·.1) else l.map (·.1) ++ [k] := by
  induction l with
  | nil => simp [put]
  | cons p rest ih =>
    obtain ⟨a, b⟩ := p
    by_cases h : k == a
    · have : k = a := eq_of_beq h
      subst this
      simp [put]
    · have hne : ¬ k = a := fun e => h (by simp [e])
      simp only [put, h, Bool.false_eq_true, if_false, List.map_cons, ih, List.elem_cons]
      by_cases h' : (rest.map (·.1)).elem k = true
      · rw [if_pos h', if_pos h']
      · rw [if_neg h', if_neg h', List.cons_append]

/-- A write adds its key at the end when it is new and keeps the order otherwise. -/
theorem keys_insert [LawfulBEq κ] (t : Table κ α) (k : κ) (v : α) :
    (t.insert k v).keys = if t.keys.elem k then t.keys else t.keys ++ [k] :=
  keys_put k v t.entries

theorem mem_entries_of_get? [LawfulBEq κ] {t : Table κ α} {k : κ} {v : α}
    (h : t.get? k = some v) : (k, v) ∈ t.entries := by
  obtain ⟨before, after, hsplit, -⟩ := List.lookup_eq_some_iff.1 h
  rw [hsplit]
  exact List.mem_append_right _ List.mem_cons_self

theorem mem_values_of_get? [LawfulBEq κ] {t : Table κ α} {k : κ} {v : α} (h : t.get? k = some v) :
    v ∈ t.values := List.mem_map.2 ⟨(k, v), mem_entries_of_get? h, rfl⟩

/-- Each entry after a write is the written one or was there before. -/
theorem mem_put [LawfulBEq κ] {k : κ} {v : α} {l : List (κ × α)} {e : κ × α} (h : e ∈ put k v l) :
    e = (k, v) ∨ e ∈ l := by
  induction l with
  | nil => exact .inl (List.mem_singleton.1 h)
  | cons p rest ih =>
    rw [put] at h
    split at h
    · rename_i hk
      rw [eq_of_beq hk]
      rcases List.mem_cons.1 h with rfl | h
      · exact .inl rfl
      · exact .inr (List.mem_cons_of_mem _ h)
    · rcases List.mem_cons.1 h with rfl | h
      · exact .inr List.mem_cons_self
      · exact (ih h).imp_right (List.mem_cons_of_mem _)

/-- A write keeps keys different. -/
theorem nodup_keys_insert [LawfulBEq κ] {t : Table κ α} (h : t.keys.Nodup) (k : κ) (v : α) :
    (t.insert k v).keys.Nodup := by
  rw [keys_insert]
  split
  · exact h
  · rename_i hk
    refine List.nodup_append.2 ⟨h, List.nodup_cons.2 ⟨List.not_mem_nil, List.nodup_nil⟩, ?_⟩
    rintro a ha b hb rfl
    obtain rfl := List.mem_singleton.1 hb
    exact hk (List.elem_iff.2 ha)

/-- With different keys each entry is found. -/
theorem get?_of_mem_entries [LawfulBEq κ] {t : Table κ α} (h : t.keys.Nodup) {k : κ} {v : α}
    (he : (k, v) ∈ t.entries) : t.get? k = some v := by
  have hlookup : ∀ l : List (κ × α), (l.map (·.1)).Nodup → (k, v) ∈ l → l.lookup k = some v := by
    intro l
    induction l with
    | nil => exact fun _ he => by cases he
    | cons p rest ih =>
      obtain ⟨a, b⟩ := p
      intro hnodup he
      obtain ⟨ha, hrest⟩ := List.nodup_cons.1 hnodup
      rcases List.mem_cons.1 he with heq | he
      · obtain ⟨rfl, rfl⟩ := Prod.mk.inj heq
        simp
      · have hne : (k == a) = false := by
          rw [beq_eq_false_iff_ne]
          intro heq
          exact ha (List.mem_map.2 ⟨(k, v), he, heq⟩)
        rw [List.lookup_cons, hne]
        exact ih hrest he
  exact hlookup t.entries h he

theorem get?_insertAll [LawfulBEq κ] (t : Table κ α) (pairs : List (κ × α)) (k : κ) :
    (t.insertAll pairs).get? k = (pairs.reverse.lookup k).or (t.get? k) := by
  induction pairs generalizing t with
  | nil => rfl
  | cons p pairs ih =>
    rw [show t.insertAll (p :: pairs) = (t.insert p.1 p.2).insertAll pairs from rfl, ih,
      get?_insert, List.reverse_cons, List.lookup_append, Option.or_assoc]
    congr 1
    rw [List.lookup_cons]
    cases k == p.1 <;> rfl

theorem insertAll_append (t : Table κ α) (ps qs : List (κ × α)) :
    t.insertAll (ps ++ qs) = (t.insertAll ps).insertAll qs := List.foldl_append

theorem contains_iff_mem_keys [LawfulBEq κ] {t : Table κ α} {k : κ} :
    t.contains k = true ↔ k ∈ t.keys := by
  show (t.entries.lookup k).isSome = true ↔ _
  rw [List.lookup_isSome_iff, keys, List.mem_map]
  exact exists_congr fun e => and_congr_right fun _ => beq_iff_eq.trans eq_comm

end Table

end CauseLint
