import CauseLint.Proofs.Effects
import CauseLint.Run.Runner

/-!
# Times and counts

The statistics of checkers are times and counts. As long as every name stands for one or for the
other, the statistics of different files can be added up, whatever the files hold.

Results:

* `Stats.Fit.takeAll`: statistics that agree on the names of times are combined without an error.
* `Registry.tallies_standard`: the checkers that come with the program keep such statistics.
-/

namespace CauseLint

/-! ## Statistics -/

/-- A time under the name of a time, or a count under another name. -/
def Stat.Fits (timed : Prop) : Stat → Prop
  | .amount (.real _) => timed
  | .amount (.whole _) => ¬ timed
  | _ => False

/-- A number that comes in is of the kind of the number it is added to. -/
theorem Stat.Fits.plus {timed : Prop} {old value : Stat} (hold : old.Fits timed)
    (hvalue : value.Fits timed) :
    ∃ new sum, value.amount? = some new ∧ old.plus new value.kindName = .ok sum ∧
      sum.Fits timed := by
  match old, value with
  | .amount (.whole a), .amount (.whole b) =>
    exact ⟨.whole b, .amount (.whole (a + b)), rfl, rfl, hold⟩
  | .amount (.real a), .amount (.real b) =>
    exact ⟨.real b, .amount (.real (a + b)), rfl, rfl, hold⟩
  | .amount (.whole a), .amount (.real b) => exact absurd hvalue hold
  | .amount (.real a), .amount (.whole b) => exact absurd hold hvalue

namespace Stats

/-- Statistics that hold times under the names `timed` and counts under all others. -/
def Fit (timed : String → Prop) (stats : Stats) : Prop :=
  ∀ e ∈ stats.entries, e.2.Fits (timed e.1)

variable {timed : String → Prop} {stats : Stats}

theorem Fit.empty : Fit timed {} := fun _ h => by cases h

theorem Fit.insert (h : Fit timed stats) {key : String} {value : Stat}
    (hv : value.Fits (timed key)) : Fit timed (stats.insert key value) := by
  intro e he
  rcases Table.mem_put he with rfl | he
  · exact hv
  · exact h e he

theorem Fit.insertAll (h : Fit timed stats) {more : List (String × Stat)}
    (hmore : ∀ e ∈ more, e.2.Fits (timed e.1)) : Fit timed (stats.insertAll more) := by
  induction more generalizing stats with
  | nil => exact h
  | cons e more ih =>
    obtain ⟨he, hmore⟩ := List.forall_mem_cons.1 hmore
    exact ih (h.insert he) hmore

theorem Fit.fillFrom (h : Fit timed stats) {more : Stats} (hmore : Fit timed more) :
    Fit timed (stats.fillFrom more) :=
  h.insertAll fun e he => hmore e (List.mem_filter.1 he).1

/-- A value of the right kind is taken in. -/
theorem Fit.take (h : Fit timed stats) {key : String} {value : Stat}
    (hv : value.Fits (timed key)) :
    ∃ after, stats.take key value = .ok after ∧ Fit timed after := by
  unfold Stats.take
  cases hget : stats.get? key with
  | none => exact ⟨_, rfl, h.insert hv⟩
  | some old =>
    obtain ⟨new, sum, hnew, hsum, hfits⟩ := (h _ (Table.mem_entries_of_get? hget)).plus hv
    rw [hnew]
    simp only [hsum]
    exact ⟨_, rfl, h.insert hfits⟩

/-- Statistics that agree on the names of times are combined without an error. -/
theorem Fit.takeAll (h : Fit timed stats) {more : List (String × Stat)}
    (hmore : ∀ e ∈ more, e.2.Fits (timed e.1)) :
    ∃ after, stats.takeAll more = (after, none) ∧ Fit timed after := by
  induction more generalizing stats with
  | nil => exact ⟨stats, rfl, h⟩
  | cons e more ih =>
    obtain ⟨he, hmore⟩ := List.forall_mem_cons.1 hmore
    obtain ⟨next, hnext, hfit⟩ := h.take he
    rw [Stats.takeAll, hnext]
    exact ih hfit hmore

end Stats

/-! ## Checkers -/

/-- A checker that keeps times under the names `timed`, its own time among them, and counts under
all other names. It may still fail. -/
structure Checker.Tallies (c : Checker) (timed : String → Prop) : Prop where
  elapsed : timed (c.name ++ "_elapsed_ms")
  inspect : ∀ i stats, Stats.Fit timed stats →
    Yields ((c.inspect i).run.run stats) fun out => Stats.Fit timed out.2

/-- A registry whose checkers keep times and counts, and agree on which names are which. -/
def Registry.Tallies (r : Registry) : Prop := ∃ timed, ∀ c ∈ r.values, c.Tallies timed

theorem Registry.mem_values_of_mem_select {r : Registry} {chosen : Option (List String)}
    {c : Checker} (h : c ∈ (r.select chosen).1) : c ∈ r.values := by
  cases chosen with
  | none => exact h
  | some names =>
    obtain ⟨name, -, hc⟩ := List.mem_filterMap.1 h
    exact Table.mem_values_of_get? hc

theorem tallies_causeChecker :
    causeChecker.Tallies (· = causeCheckerName ++ "_elapsed_ms") where
  elapsed := rfl
  inspect := by
    intro i stats h log memo
    have hne : causeCheckerName ++ "_candidates" ≠ causeCheckerName ++ "_elapsed_ms" := by decide
    exact h.insert hne

/-- The checkers that come with the program keep times and counts. -/
theorem Registry.tallies_standard : Registry.standard.Tallies := by
  refine ⟨(· = causeCheckerName ++ "_elapsed_ms"), ?_⟩
  intro c hc
  obtain rfl : c = causeChecker := List.mem_singleton.1 hc
  exact tallies_causeChecker

end CauseLint
