import CauseLint.Command.Run
import CauseLint.Proofs.Effects
import CauseLint.Proofs.Files.Places

/-!
# The steps of a run

A run that comes to an end has done its steps one after another, each with what the one before it
left. Of all these steps only the writing of a file changes the file system, and it changes the one
place that is written. The current folder stays, so a path means the same place throughout.

Results:

* `Command.ran_bind_iff`: a run in steps.
* `Command.Ran.readFile`, `Command.Ran.writeFile`: what reading and writing come to.
* `Command.Ran.showResults`: showing results changes the places of reports only.
-/

namespace CauseLint.Command

variable {α β : Type} {p q : Progress}

/-- A computation comes to a value, with what was done before and after. -/
def Ran (a : Running α) (p : Progress) (v : α) (q : Progress) : Prop := a.run.run p = (.ok v, q)

/-- A run in steps. -/
theorem ran_bind_iff {a : Running α} {f : α → Running β} {w : β} :
    Ran (a >>= f) p w q ↔ ∃ v p', Ran a p v p' ∧ Ran (f v) p' w q := by
  have hbind : (a >>= f).run.run p =
      (ExceptT.bindCont f (a.run.run p).1).run (a.run.run p).2 := rfl
  unfold Ran
  rw [hbind]
  obtain ⟨result, p'⟩ := a.run.run p
  cases result with
  | ok v =>
    constructor
    · intro h
      exact ⟨v, p', rfl, h⟩
    · rintro ⟨v, p', ⟨⟩, h⟩
      exact h
  | error e =>
    constructor
    · intro h
      cases congrArg Prod.fst h
    · rintro ⟨v, p', ⟨⟩, h⟩

theorem ran_pure_iff {v w : α} : Ran (pure v) p w q ↔ w = v ∧ q = p := by
  constructor
  · rintro ⟨⟩
    exact ⟨rfl, rfl⟩
  · rintro ⟨rfl, rfl⟩
    rfl

theorem ran_of_toOption {a : Running α} {v : α} (h : (a.run.run p).1.toOption = some v) :
    Ran a p v (a.run.run p).2 := Prod.ext (eq_ok_of_toOption h) rfl

theorem not_ran_throw {e : Abort} {v : α} : ¬ Ran (throw e) p v q := by
  rintro ⟨⟩

theorem ran_get_iff {v : Progress} : Ran get p v q ↔ v = p ∧ q = p := by
  constructor
  · rintro ⟨⟩
    exact ⟨rfl, rfl⟩
  · rintro ⟨rfl, rfl⟩
    rfl

theorem ran_modify_iff {φ : Progress → Progress} {v : Unit} :
    Ran (modify φ) p v q ↔ q = φ p := by
  constructor
  · rintro ⟨⟩
    rfl
  · rintro rfl
    rfl

/-! ## Steps that leave the files -/

theorem Ran.print {s : String} {v : Unit} (h : Ran (print s) p v q) : q.files = p.files := by
  rw [ran_modify_iff.1 h]

theorem Ran.logged {x : LogM α} {v : α} (h : Ran (logged x) p v q) :
    v = (x.run []).1 ∧ q.files = p.files := by
  obtain ⟨_, p', h, hv⟩ := ran_bind_iff.1 h
  obtain ⟨rfl, rfl⟩ := ran_pure_iff.1 hv
  rw [ran_modify_iff.1 h]
  exact ⟨rfl, rfl⟩

theorem Ran.guarded {x : LogM (Except Abort α)} {v : α} (h : Ran (guarded x) p v q) :
    (x.run []).1 = .ok v ∧ q.files = p.files := by
  obtain ⟨result, p', hlogged, h⟩ := ran_bind_iff.1 h
  obtain ⟨rfl, hfiles⟩ := hlogged.logged
  split at h
  · rename_i a ha
    obtain ⟨rfl, rfl⟩ := ran_pure_iff.1 h
    exact ⟨ha, hfiles⟩
  · exact absurd h not_ran_throw

theorem Ran.sourceLines {source : Bytes} {v : List (List Char)}
    (h : Ran (sourceLines source) p v q) : q.files = p.files := by
  unfold Command.sourceLines at h
  split at h
  · rw [(ran_pure_iff.1 h).2]
  · exact absurd h not_ran_throw

theorem Ran.showDiff {file : String} {before after : Bytes} {v : Unit}
    (h : Ran (showDiff file before after) p v q) : q.files = p.files := by
  obtain ⟨left, p₁, hleft, h⟩ := ran_bind_iff.1 h
  obtain ⟨right, p₂, hright, h⟩ := ran_bind_iff.1 h
  rw [h.print, hright.sourceLines, hleft.sourceLines]

/-! ## Reading and writing -/

theorem Ran.readFile {path : Path} {data : Bytes} (h : Ran (readFile path) p data q) :
    p.files.files.get? (path.placeFrom p.files.here) = some data ∧ q = p := by
  obtain ⟨p', _, hget, hread⟩ := ran_bind_iff.1 h
  obtain ⟨rfl, rfl⟩ := ran_get_iff.1 hget
  split at hread
  · rename_i found hfound
    obtain ⟨rfl, rfl⟩ := ran_pure_iff.1 hread
    exact ⟨FileSystem.get?_of_read hfound, rfl⟩
  · exact absurd hread not_ran_throw

theorem Ran.writeFile {path : Path} {data : Bytes} {v : Unit}
    (h : Ran (writeFile path data) p v q) :
    q.files =
      { p.files with files := p.files.files.insert (path.placeFrom p.files.here) data } := by
  obtain ⟨p', _, hget, hwrite⟩ := ran_bind_iff.1 h
  obtain ⟨rfl, rfl⟩ := ran_get_iff.1 hget
  split at hwrite
  · rename_i after hafter
    rw [ran_modify_iff.1 hwrite]
    exact FileSystem.eq_of_write hafter
  · exact absurd hwrite not_ran_throw

/-! ## Reports -/

/-- The places of the reports that are asked for, as seen from a folder. -/
def askedPlaces (ro : ReportOptions) (here : List String) : List (List String) :=
  ([ro.sarif, ro.html].filter (· ≠ "")).map (placeFrom here)

theorem mem_askedPlaces {ro : ReportOptions} {here : List String} {file : String}
    (h : file ∈ [ro.sarif, ro.html]) (hne : file ≠ "") :
    placeFrom here file ∈ askedPlaces ro here :=
  List.mem_map_of_mem (List.mem_filter.2 ⟨h, by simpa using hne⟩)

/-- The places of the reports that a run may write, as seen from a folder. -/
def reportPlaces (env : Environment) (o : Options) (here : List String) : List (List String) :=
  askedPlaces (reportOptions env o) here

/-- A file system has the current folder that another one has, and the same files outside of some
places. -/
structure SameOutside (places : List (List String)) (before after : FileSystem) : Prop where
  here : after.here = before.here
  get?_eq : ∀ place ∉ places, after.files.get? place = before.files.get? place

theorem SameOutside.refl (places : List (List String)) (fs : FileSystem) :
    SameOutside places fs fs := ⟨rfl, fun _ _ => rfl⟩

theorem SameOutside.trans {places : List (List String)} {fs gs hs : FileSystem}
    (h : SameOutside places fs gs) (h' : SameOutside places gs hs) : SameOutside places fs hs :=
  ⟨h'.here.trans h.here, fun place hplace =>
    (h'.get?_eq place hplace).trans (h.get?_eq place hplace)⟩

theorem sameOutside_of_files_eq (places : List (List String)) (h : q.files = p.files) :
    SameOutside places p.files q.files := h ▸ SameOutside.refl places _

/-- Writing a file changes no other place. -/
theorem sameOutside_of_write {fs after : FileSystem} {path : Path} {data : Bytes}
    {places : List (List String)} (h : fs.write path data = .ok after)
    (hplace : path.placeFrom fs.here ∈ places) : SameOutside places fs after := by
  rw [FileSystem.eq_of_write h]
  refine ⟨rfl, fun place hother => ?_⟩
  have hne : place ≠ path.placeFrom fs.here := fun heq => hother (heq ▸ hplace)
  dsimp only
  rw [Table.get?_insert, if_neg (by simpa using hne)]

/-- An attempt to write a file leaves the places that the writing leaves. -/
theorem sameOutside_attempt {d : Report.Delivery} {path kind : String}
    {write : FileSystem → Except Abort FileSystem} {places : List (List String)}
    (hwrite : path ≠ "" → ∀ after, write d.files = .ok after → SameOutside places d.files after) :
    SameOutside places d.files (d.attempt path kind write).files := by
  unfold Report.Delivery.attempt
  split
  · exact SameOutside.refl places _
  rename_i hpath
  split
  · rename_i after hafter
    rw [Bool.or_eq_true, decide_eq_true_iff, not_or] at hpath
    exact hwrite hpath.1 _ hafter
  · exact SameOutside.refl places _
  · exact SameOutside.refl places _

/-- Delivering a report leaves all places that are not asked for. -/
theorem sameOutside_deliver (ro : ReportOptions) (r : Report) (fs : FileSystem) :
    SameOutside (askedPlaces ro fs.here) fs (r.deliver ro fs).files := by
  have hsarif : SameOutside (askedPlaces ro fs.here) fs
      (Report.Delivery.attempt { files := fs } ro.sarif "SARIF" (r.writeSarif ro)).files := by
    refine sameOutside_attempt (d := { files := fs }) fun hpath after hwrite => ?_
    obtain ⟨text, -, hwrite⟩ := exists_of_bind_eq_ok hwrite
    exact sameOutside_of_write hwrite (mem_askedPlaces (by simp) hpath)
  refine hsarif.trans (sameOutside_attempt fun hpath after hwrite => ?_)
  obtain ⟨template, -, hwrite⟩ := exists_of_bind_eq_ok hwrite
  refine sameOutside_of_write hwrite ?_
  rw [hsarif.here]
  exact mem_askedPlaces (by simp) hpath

/-- What was delivered is there, unless the delivery stopped. -/
theorem Ran.delivered {delivery : Report.Delivery} {v : Unit}
    (h : Ran (do
      modify fun p => { p with
        files := delivery.files
        notices := p.notices ++ delivery.complaints.map fun c => .line (c ++ "\n") }
      match delivery.stopped with
      | some e => throw e
      | none => return) p v q) : q.files = delivery.files := by
  obtain ⟨_, p', hmodify, h⟩ := ran_bind_iff.1 h
  split at h
  · exact absurd h not_ran_throw
  · rw [(ran_pure_iff.1 h).2, ran_modify_iff.1 hmodify]

theorem Ran.makeReport {env : Environment} {o : Options} {ds : List Diagnostic} {v : Unit}
    (h : Ran (makeReport env o ds) p v q) :
    SameOutside (reportPlaces env o p.files.here) p.files q.files := by
  unfold Command.makeReport at h
  dsimp only at h
  obtain ⟨_, before, hget, hmake⟩ := ran_bind_iff.1 h
  obtain ⟨rfl, rfl⟩ := ran_get_iff.1 hget
  obtain ⟨report, p₁, -, hshow⟩ := ran_bind_iff.1 hmake
  have hfiles : q.files = (report.deliver (reportOptions env o) before.files).files := by
    split at hshow
    · obtain ⟨_, p₂, -, hdeliver⟩ := ran_bind_iff.1 hshow
      exact hdeliver.delivered
    · exact hshow.delivered
  rw [hfiles]
  exact sameOutside_deliver _ _ _

/-- Showing results leaves all places but those of reports. -/
theorem Ran.showResults {env : Environment} {o : Options} {r : Results} {v : Unit}
    (h : Ran (showResults env o r) p v q) :
    SameOutside (reportPlaces env o p.files.here) p.files q.files := by
  unfold Command.showResults at h
  dsimp only at h
  split at h
  case' isTrue =>
    obtain ⟨_, p₁, hreport, h⟩ := ran_bind_iff.1 h
    refine hreport.makeReport.trans ?_
  -- what comes after the report is printed, whether there is a report or not
  all_goals
    refine sameOutside_of_files_eq _ ?_
    split at h
    · rw [(ran_pure_iff.1 h).2]
    · rw [(ran_pure_iff.1 h).2]
    · split at h
      · exact h.print
      · rw [(ran_pure_iff.1 h).2]
    · split at h
      · exact h.print
      · rw [(ran_pure_iff.1 h).2]
    · split at h
      · exact h.print
      · exact absurd h not_ran_throw

end CauseLint.Command
