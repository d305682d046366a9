/-!
# Totals

The total of a measure over a list. Searches are bounded and positions are counted by such totals.
-/

namespace CauseLint

variable {α : Type}

/-- The total of `f` over a list. -/
def total (f : α → Nat) : List α → Nat
  | [] => 0
  | a :: l => f a + total f l

@[simp] theorem total_nil (f : α → Nat) : total f [] = 0 := rfl

@[simp] theorem total_cons (f : α → Nat) (a : α) (l : List α) : total f (a :: l) = f a + total f l :=
  rfl

@[simp] theorem total_append (f : α → Nat) (l m : List α) :
    total f (l ++ m) = total f l + total f m := by
  induction l with
  | nil => simp
  | cons a l ih => simp only [List.cons_append, total_cons, ih, Nat.add_assoc]

theorem le_total_of_mem (f : α → Nat) {a : α} {l : List α} (h : a ∈ l) :
    f a ≤ total f l := by
  induction l with
  | nil => cases h
  | cons b l ih =>
    rw [total_cons]
    rcases List.mem_cons.1 h with rfl | h
    · omega
    · have := ih h
      omega

/-- Two different members of a list count both. -/
theorem add_le_total (f : α → Nat) {a b : α} {l : List α} (ha : a ∈ l) (hb : b ∈ l)
    (hne : a ≠ b) : f a + f b ≤ total f l := by
  induction l with
  | nil => cases ha
  | cons c l ih =>
    rw [total_cons]
    rcases List.mem_cons.1 ha with rfl | ha'
    · rcases List.mem_cons.1 hb with rfl | hb'
      · exact absurd rfl hne
      · have := le_total_of_mem f hb'
        omega
    · rcases List.mem_cons.1 hb with rfl | hb'
      · have := le_total_of_mem f ha'
        omega
      · have := ih ha' hb'
        omega

theorem total_reverse (f : α → Nat) (l : List α) :
    total f l.reverse = total f l := by
  induction l with
  | nil => rfl
  | cons a l ih =>
    rw [List.reverse_cons, total_append, ih, total_cons, total_cons, total_nil, Nat.add_zero,
      Nat.add_comm]

/-- A stronger condition keeps no more. -/
theorem total_filter_le (f : α → Nat) (p q : α → Bool) (l : List α)
    (hpq : ∀ x ∈ l, p x = true → q x = true) : total f (l.filter p) ≤ total f (l.filter q) := by
  induction l with
  | nil => simp
  | cons a l ih =>
    have ih := ih fun x hx => hpq x (List.mem_cons_of_mem _ hx)
    by_cases hp : p a = true
    · simp only [List.filter_cons, hp, hpq a List.mem_cons_self hp, if_true, total_cons]
      omega
    · by_cases hq : q a = true
      · simp only [List.filter_cons, hp, hq, if_true, total_cons]
        exact Nat.le_trans ih (Nat.le_add_left _ _)
      · simpa only [List.filter_cons, hp, hq, Bool.false_eq_true, if_false] using ih

/-- A condition that refuses one more member keeps less by at least its measure. -/
theorem total_filter_add_le (f : α → Nat) (p q : α → Bool) (l : List α) (n : α)
    (hpq : ∀ x ∈ l, p x = true → q x = true) (hp : p n = false) (hq : q n = true) (hn : n ∈ l) :
    total f (l.filter p) + f n ≤ total f (l.filter q) := by
  induction l with
  | nil => cases hn
  | cons a l ih =>
    have hrest := fun x hx => hpq x (List.mem_cons_of_mem a hx)
    rcases List.mem_cons.1 hn with rfl | hn
    · have := total_filter_le f p q l hrest
      simp only [List.filter_cons, hp, hq, if_true, total_cons, Bool.false_eq_true, if_false]
      omega
    · have := ih hrest hn
      by_cases hpa : p a = true
      · simp only [List.filter_cons, hpa, hpq a List.mem_cons_self hpa, if_true, total_cons]
        omega
      · by_cases hqa : q a = true
        · simp only [List.filter_cons, hpa, hqa, if_true, total_cons]
          exact Nat.le_trans this (Nat.le_add_left _ _)
        · simpa only [List.filter_cons, hpa, hqa, Bool.false_eq_true, if_false] using this

end CauseLint
