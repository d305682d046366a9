import CauseLint.Proofs.Command.Steps
import CauseLint.Proofs.Edit.Splice
import Mathlib.Data.List.Nodup

/-!
# Mending files

Fixes are grouped by the name under which a file was checked, and each group is applied to what the
file holds when its turn comes. A group whose fixes clash leaves the file as it is, and mending goes
on with the next. What a place holds in the end is therefore what the groups of its names make of it
one after another, and no other place changes.

Results:

* `Results.mem_entries_fixesByFile_iff`: the groups.
* `Command.Ran.mendFile`: mending one file.
* `Command.Ran.get?_mendAll`: what a place holds after mending.
* `Command.Ran.mem_conflicted_mendAll`: which files are left alone.
* `Command.groupsAt_eq_singleton`: the groups of a place with one name.
-/

namespace CauseLint

/-! ## Groups of fixes -/

namespace Results

/-- The fixes that are reported in a file and change anything. -/
def fixesIn (r : Results) (file : String) : List Fix := (r.inFile file).filterMap (·.realFix?)

/-- Add the fix of a finding to the group of its file. -/
def addFix (t : Table String (List Fix)) (d : Diagnostic) : Table String (List Fix) :=
  match d.realFix? with
  | some f => t.update d.location.file [] (· ++ [f])
  | none => t

theorem nodup_keys_foldl_addFix (ds : List Diagnostic) {t : Table String (List Fix)}
    (h : t.keys.Nodup) : (ds.foldl addFix t).keys.Nodup := by
  induction ds generalizing t with
  | nil => exact h
  | cons d ds ih =>
    refine ih ?_
    unfold addFix
    split
    · exact Table.nodup_keys_insert h _ _
    · exact h

theorem nodup_keys_fixesByFile (r : Results) : r.fixesByFile.keys.Nodup :=
  nodup_keys_foldl_addFix r.diagnostics List.nodup_nil

theorem get?_addFix (t : Table String (List Fix)) (d : Diagnostic) (file : String) :
    (addFix t d).get? file =
      match d.realFix? with
      | some f => if d.location.file = file then some ((t.get? file).getD [] ++ [f]) else t.get? file
      | none => t.get? file := by
  unfold addFix
  cases d.realFix? with
  | none => rfl
  | some f =>
    by_cases hfile : d.location.file = file
    · rw [hfile]
      simp [Table.update]
    · have hne : (file == d.location.file) = false := beq_eq_false_iff_ne.2 (Ne.symm hfile)
      simp [Table.update, hfile, hne]

theorem get?_foldl_addFix (ds : List Diagnostic) (t : Table String (List Fix)) (file : String) :
    (ds.foldl addFix t).get? file =
      let fixes := (ds.filter (·.location.file = file)).filterMap (·.realFix?)
      if fixes = [] then t.get? file else some ((t.get? file).getD [] ++ fixes) := by
  induction ds generalizing t with
  | nil => rfl
  | cons d ds ih =>
    rw [List.foldl_cons, ih, get?_addFix]
    by_cases hfile : d.location.file = file
    · rw [List.filter_cons_of_pos (by simpa using hfile)]
      cases hfix : d.realFix? with
      | none => rw [List.filterMap_cons_none hfix]
      | some f =>
        rw [List.filterMap_cons_some hfix]
        dsimp only
        rw [if_pos hfile, if_neg (List.cons_ne_nil _ _)]
        split
        · rename_i hnil
          rw [hnil]
        · rw [Option.getD_some, List.append_assoc, List.singleton_append]
    · rw [List.filter_cons_of_neg (by simpa using hfile)]
      cases d.realFix? with
      | none => rfl
      | some f => simp only [if_neg hfile]

/-- The groups are those of the files with fixes. -/
theorem mem_entries_fixesByFile_iff {r : Results} {file : String} {fixes : List Fix} :
    (file, fixes) ∈ r.fixesByFile.entries ↔ r.fixesIn file = fixes ∧ fixes ≠ [] := by
  have hget : r.fixesByFile.get? file =
      if r.fixesIn file = [] then none else some (r.fixesIn file) :=
    get?_foldl_addFix r.diagnostics {} file
  constructor
  · intro h
    rw [Table.get?_of_mem_entries r.nodup_keys_fixesByFile h] at hget
    split at hget
    · cases hget
    · rename_i hne
      obtain rfl := Option.some.inj hget
      exact ⟨rfl, hne⟩
  · rintro ⟨rfl, hne⟩
    rw [if_neg hne] at hget
    exact Table.mem_entries_of_get? hget

end Results

namespace Command

/-! ## One file -/

/-- A source after mending: fixes that clash leave it as it is. -/
def mendedSource (source : Bytes) (fixes : List Fix) : Bytes :=
  match applyFixes source fixes with
  | .ok after => after
  | .error _ => source

theorem mendedSource_of_ok {source after : Bytes} {fixes : List Fix}
    (h : applyFixes source fixes = .ok after) : mendedSource source fixes = after := by
  rw [mendedSource, h]

theorem mendedSource_of_not_isOk {source : Bytes} {fixes : List Fix}
    (h : ¬ (applyFixes source fixes).isOk) : mendedSource source fixes = source := by
  unfold mendedSource
  cases hpatched : applyFixes source fixes with
  | ok after =>
    rw [hpatched] at h
    exact absurd rfl h
  | error c => rfl

variable {o : Options} {p q : Progress} {m m' : Mended}

theorem Ran.say {level : Level} {message : String} {v : Unit} (h : Ran (say level message) p v q) :
    q.files = p.files := h.logged.2

/-- Writing what became of a file, when files are to be written. -/
theorem Ran.rewritten {file message : String} {after : Bytes} {v w : Mended}
    (h : Ran (if o.fix = true then do
        Command.writeFile (Path.ofText file) after
        Command.say .info message
        return w
      else return w) p v q) (place : List String) :
    v = w ∧ q.files.here = p.files.here ∧ q.files.files.get? place =
      if o.fix = true ∧ place = placeFrom p.files.here file then some after
      else p.files.files.get? place := by
  split at h
  · rename_i hfix
    obtain ⟨_, p₁, hwrite, hrest⟩ := ran_bind_iff.1 h
    obtain ⟨_, p₂, hsay, hreturn⟩ := ran_bind_iff.1 hrest
    obtain ⟨rfl, rfl⟩ := ran_pure_iff.1 hreturn
    rw [hsay.say, hwrite.writeFile]
    refine ⟨rfl, rfl, ?_⟩
    show (p.files.files.insert (placeFrom p.files.here file) after).get? place = _
    rw [Table.get?_insert]
    by_cases hplace : place = placeFrom p.files.here file
    · rw [if_pos (beq_iff_eq.2 hplace), if_pos ⟨hfix, hplace⟩]
    · rw [if_neg fun h => hplace (beq_iff_eq.1 h), if_neg fun h => hplace h.2]
  · rename_i hfix
    obtain ⟨rfl, rfl⟩ := ran_pure_iff.1 h
    rw [if_neg fun h => hfix h.1]
    exact ⟨rfl, rfl, rfl⟩

/-- Mending a file changes what its place holds, and only when files are to be written; the file is
noted when its fixes clash. -/
theorem Ran.mendFile {file : String} {fixes : List Fix}
    (h : Ran (mendFile o m file fixes) p m' q) :
    ∃ source, p.files.files.get? (placeFrom p.files.here file) = some source ∧
      q.files.here = p.files.here ∧
      (∀ place, q.files.files.get? place =
        if o.fix = true ∧ place = placeFrom p.files.here file then some (mendedSource source fixes)
        else p.files.files.get? place) ∧
      m'.conflicted = m.conflicted ++
        if (applyFixes source fixes).isOk then [] else [file] := by
  obtain ⟨source, p₁, hread, hpatched⟩ := ran_bind_iff.1 h
  obtain ⟨hsource, rfl⟩ := hread.readFile
  obtain ⟨result, p₂, hpatch, hmatch⟩ := ran_bind_iff.1 hpatched
  obtain ⟨rfl, hfiles⟩ := hpatch.logged
  rw [fst_applyFixesLogged] at hmatch
  -- Where nothing is written, the place holds the source and so what the fixes leave of it.
  have hsame : mendedSource source fixes = source → ∀ place, p₁.files.files.get? place =
      if o.fix = true ∧ place = placeFrom p₁.files.here file then some (mendedSource source fixes)
      else p₁.files.files.get? place := by
    intro hmended place
    split
    · rename_i hplace
      rw [hplace.2, hmended]
      exact hsource
    · rfl
  refine ⟨source, hsource, ?_⟩
  cases hafter : applyFixes source fixes with
  | error c =>
    have hmended : mendedSource source fixes = source :=
      mendedSource_of_not_isOk (by rw [hafter]; exact Bool.false_ne_true)
    rw [hafter] at hmatch
    obtain ⟨_, p₃, hsay, hreturn⟩ := ran_bind_iff.1 hmatch
    obtain ⟨rfl, rfl⟩ := ran_pure_iff.1 hreturn
    rw [hsay.say, hfiles]
    exact ⟨rfl, hsame hmended, rfl⟩
  | ok after =>
    have hmended := mendedSource_of_ok hafter
    rw [hafter] at hmatch
    dsimp only at hmatch
    split at hmatch
    · rename_i heq
      obtain ⟨rfl, rfl⟩ := ran_pure_iff.1 hmatch
      rw [hfiles]
      exact ⟨rfl, hsame (hmended.trans heq), (List.append_nil _).symm⟩
    · rw [hmended, ← hfiles]
      split at hmatch
      · obtain ⟨_, p₃, hdiff, hwrite⟩ := ran_bind_iff.1 hmatch
        rw [← hdiff.showDiff]
        refine ⟨(hwrite.rewritten []).2.1, fun place => (hwrite.rewritten place).2.2, ?_⟩
        rw [(hwrite.rewritten []).1]
        exact (List.append_nil _).symm
      · refine ⟨(hmatch.rewritten []).2.1, fun place => (hmatch.rewritten place).2.2, ?_⟩
        rw [(hmatch.rewritten []).1]
        exact (List.append_nil _).symm

/-! ## All files -/

/-- What groups of fixes make of a source one after another. -/
def mendedBy (groups : List (String × List Fix)) (source : Bytes) : Bytes :=
  groups.foldl (fun source group => mendedSource source group.2) source

/-- The groups whose names lead to a place, as seen from a folder. -/
def groupsAt (here place : List String) (groups : List (String × List Fix)) :
    List (String × List Fix) := groups.filter fun group => placeFrom here group.1 = place

/-- Without writing nothing changes. -/
theorem Ran.files_mendAll (hfix : o.fix = false) {groups : List (String × List Fix)}
    (h : Ran (mendAll o groups m) p m' q) (place : List String) :
    q.files.files.get? place = p.files.files.get? place := by
  induction groups generalizing m p with
  | nil => rw [(ran_pure_iff.1 h).2]
  | cons group groups ih =>
    obtain ⟨m₁, p₁, hfile, hrest⟩ := ran_bind_iff.1 h
    obtain ⟨source, -, -, hplace, -⟩ := hfile.mendFile
    rw [ih hrest, hplace, if_neg fun h => by simp [hfix] at h]

/-- In the end a place holds what the groups of its names make of its file one after another. -/
theorem Ran.get?_mendAll (hfix : o.fix = true) {groups : List (String × List Fix)}
    (h : Ran (mendAll o groups m) p m' q) (place : List String) :
    q.files.files.get? place =
      (p.files.files.get? place).map (mendedBy (groupsAt p.files.here place groups)) := by
  induction groups generalizing m p with
  | nil =>
    rw [(ran_pure_iff.1 h).2]
    cases p.files.files.get? place <;> rfl
  | cons group groups ih =>
    obtain ⟨m₁, p₁, hfile, hrest⟩ := ran_bind_iff.1 h
    obtain ⟨source, hsource, hhere, hplace, -⟩ := hfile.mendFile
    rw [ih hrest, hplace, hhere]
    by_cases heq : placeFrom p.files.here group.1 = place
    · rw [if_pos ⟨hfix, heq.symm⟩, ← heq, hsource, groupsAt, groupsAt,
        List.filter_cons_of_pos (by simp)]
      rfl
    · rw [if_neg fun h => heq h.2.symm, groupsAt, groupsAt,
        List.filter_cons_of_neg (by simpa using heq)]

/-- Each group is for a file that is there. -/
theorem Ran.exists_of_mem_mendAll {groups : List (String × List Fix)}
    (h : Ran (mendAll o groups m) p m' q) {group : String × List Fix} (hg : group ∈ groups) :
    ∃ source, p.files.files.get? (placeFrom p.files.here group.1) = some source := by
  induction groups generalizing m p with
  | nil => cases hg
  | cons first groups ih =>
    obtain ⟨m₁, p₁, hfile, hrest⟩ := ran_bind_iff.1 h
    obtain ⟨source, hsource, hhere, hplace, -⟩ := hfile.mendFile
    rcases List.mem_cons.1 hg with rfl | hg
    · exact ⟨source, hsource⟩
    · obtain ⟨found, hfound⟩ := ih hrest hg
      rw [hhere, hplace] at hfound
      split at hfound
      · rename_i heq
        exact ⟨source, heq.2 ▸ hsource⟩
      · exact ⟨found, hfound⟩

/-- Where no two groups are for one place, the files left alone are those whose fixes clash on what
was there from the start. -/
theorem Ran.mem_conflicted_mendAll {groups : List (String × List Fix)}
    (hplaces : (groups.map fun group => placeFrom p.files.here group.1).Nodup)
    (h : Ran (mendAll o groups m) p m' q) {file : String} :
    file ∈ m'.conflicted ↔ file ∈ m.conflicted ∨ ∃ fixes source, (file, fixes) ∈ groups ∧
      p.files.files.get? (placeFrom p.files.here file) = some source ∧
        ¬ (applyFixes source fixes).isOk := by
  induction groups generalizing m p with
  | nil =>
    rw [(ran_pure_iff.1 h).1]
    simp
  | cons group groups ih =>
    obtain ⟨name, fixes⟩ := group
    obtain ⟨hne, hplaces⟩ := List.nodup_cons.1 hplaces
    obtain ⟨m₁, p₁, hfile, hrest⟩ := ran_bind_iff.1 h
    obtain ⟨source, hsource, hhere, hplace, hconflicted⟩ := hfile.mendFile
    rw [← hhere] at hplaces
    have hother : ∀ {fixes : List Fix}, (file, fixes) ∈ groups →
        p₁.files.files.get? (placeFrom p₁.files.here file) =
          p.files.files.get? (placeFrom p.files.here file) := by
      intro fixes hg
      rw [hhere, hplace, if_neg]
      rintro ⟨-, heq⟩
      exact hne (List.mem_map.2 ⟨(file, fixes), hg, heq⟩)
    rw [ih hplaces hrest, hconflicted, List.mem_append]
    constructor
    · rintro ((hm | hfile) | ⟨fixes', source', hg, hget, hclash⟩)
      · exact .inl hm
      · split at hfile
        · cases hfile
        · rename_i hclash
          obtain rfl := List.mem_singleton.1 hfile
          exact .inr ⟨fixes, source, List.mem_cons_self, hsource, hclash⟩
      · exact .inr ⟨fixes', source', List.mem_cons_of_mem _ hg, (hother hg) ▸ hget, hclash⟩
    · rintro (hm | ⟨fixes', source', hg, hget, hclash⟩)
      · exact .inl (.inl hm)
      · rcases List.mem_cons.1 hg with heq | hg
        · obtain ⟨rfl, rfl⟩ := Prod.mk.inj heq
          obtain rfl : source = source' := Option.some.inj (hsource.symm.trans hget)
          exact .inl (.inr (by rw [if_neg hclash]; exact List.mem_singleton_self _))
        · exact .inr ⟨fixes', source', hg, (hother hg).trans hget, hclash⟩

/-- The groups of fixes of some results in the order in which they are applied. -/
def groupsOf (r : Results) : List (String × List Fix) :=
  r.fixesByFile.entries.mergeSort fun a b => a.1 ≤ b.1

theorem mem_groupsOf_iff {r : Results} {file : String} {fixes : List Fix} :
    (file, fixes) ∈ groupsOf r ↔ r.fixesIn file = fixes ∧ fixes ≠ [] := by
  rw [groupsOf, (List.mergeSort_perm _ _).mem_iff, Results.mem_entries_fixesByFile_iff]

theorem nodup_names_groupsOf (r : Results) : ((groupsOf r).map (·.1)).Nodup :=
  ((List.mergeSort_perm _ _).map _).nodup_iff.2 r.nodup_keys_fixesByFile

/-- Fixes are reported in a file of that name, which leads to a place from a folder. -/
def Patches (r : Results) (here place : List String) (file : String) : Prop :=
  placeFrom here file = place ∧ r.fixesIn file ≠ []

theorem mem_groupsAt_iff {r : Results} {here place : List String} {file : String}
    {fixes : List Fix} : (file, fixes) ∈ groupsAt here place (groupsOf r) ↔
      Patches r here place file ∧ r.fixesIn file = fixes := by
  rw [groupsAt, List.mem_filter, mem_groupsOf_iff, decide_eq_true_iff]
  constructor
  · rintro ⟨⟨rfl, hne⟩, hplace⟩
    exact ⟨⟨hplace, hne⟩, rfl⟩
  · rintro ⟨⟨hplace, hne⟩, rfl⟩
    exact ⟨⟨rfl, hne⟩, hplace⟩

/-- Where fixes are reported under one name of a place only, they are its one group. -/
theorem groupsAt_eq_singleton {r : Results} {here place : List String} {file : String}
    (h : Patches r here place file) (honly : ∀ other, Patches r here place other → other = file) :
    groupsAt here place (groupsOf r) = [(file, r.fixesIn file)] := by
  have hnodup : (groupsAt here place (groupsOf r)).Nodup :=
    ((nodup_names_groupsOf r).of_map _).filter _
  refine List.perm_singleton.1 ((List.perm_ext_iff_of_nodup hnodup (List.nodup_singleton _)).2 ?_)
  rintro ⟨other, fixes⟩
  rw [mem_groupsAt_iff, List.mem_singleton]
  constructor
  · rintro ⟨hother, rfl⟩
    rw [honly other hother]
  · intro heq
    obtain ⟨rfl, rfl⟩ := Prod.mk.inj heq
    exact ⟨h, rfl⟩

/-- Groups that make nothing of a source leave it when they are applied one after another. -/
theorem mendedBy_eq_self {groups : List (String × List Fix)} {source : Bytes}
    (h : ∀ group ∈ groups, mendedSource source group.2 = source) :
    mendedBy groups source = source := by
  induction groups with
  | nil => rfl
  | cons group groups ih =>
    obtain ⟨hgroup, hrest⟩ := List.forall_mem_cons.1 h
    show mendedBy groups (mendedSource source group.2) = source
    rw [hgroup, ih hrest]

theorem Ran.mend {r : Results} (h : Ran (mend o r) p m q) :
    ∃ q', Ran (mendAll o (groupsOf r) {}) p m q' ∧ q.files = q'.files := by
  obtain ⟨m₁, p₁, hall, hsay⟩ := ran_bind_iff.1 h
  obtain ⟨_, p₂, hsay, hreturn⟩ := ran_bind_iff.1 hsay
  obtain ⟨rfl, rfl⟩ := ran_pure_iff.1 hreturn
  exact ⟨p₁, hall, hsay.say⟩

theorem Ran.of_mendAll {r : Results} (h : Ran (mendAll o (groupsOf r) {}) p m q) :
    ∃ q', Ran (Command.mend o r) p m q' ∧ q'.files = q.files := by
  unfold Command.mend
  exact ⟨_, ran_bind_iff.2 ⟨m, q, h, ran_bind_iff.2 ⟨(), _, rfl, rfl⟩⟩, rfl⟩

end Command

end CauseLint
