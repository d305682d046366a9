import CauseLint.Proofs.Command.Outcome
import CauseLint.Proofs.Files.Rewriting
import CauseLint.Proofs.Text.Records
import Mathlib.Logic.Function.Basic

/-!
# The stream of differences

Where differences are asked for, mending writes the listing of every file that changes, one behind
the other. A record of a listing is a mark and a line as the file has it, with whatever ends the
line there. So the records stand on lines of their own as long as every shown line ends with a line
feed; a last line without an end, or a line with another end, runs into the record behind it.

Results:

* `Command.exists_ran_mendAll`: mending readable texts completes and writes their listings.
* `Command.isText_of_mem_turns`: mended texts are texts where fixes insert between characters.
* `Command.mend_listings_iff`: when the records are found again by dividing at line feeds.
-/

namespace CauseLint.Command

/-- A file whose turn it is to be mended, with what it holds before and after. -/
structure Turn where
  file : String
  before : Bytes
  after : Bytes
deriving DecidableEq

/-- What places hold after one of them was mended. -/
def contentAfter (o : Options) (here : List String) (content : List String → Bytes) (t : Turn) :
    List String → Bytes :=
  if o.fix then Function.update content (placeFrom here t.file) t.after else content

/-- The turns of some groups of fixes, given the current folder and what places hold. -/
def turns (o : Options) (here : List String) :
    List (String × List Fix) → (List String → Bytes) → List Turn
  | [], _ => []
  | (file, fixes) :: rest, content =>
    let before := content (placeFrom here file)
    let t : Turn := ⟨file, before, mendedSource before fixes⟩
    t :: turns o here rest (contentAfter o here content t)

/-- The lines of a source that is text. -/
def linesOf (source : Bytes) : List (List Char) := breakLines (Utf8.toText source).toList

/-- The listing of a file that changes. -/
def Turn.records (t : Turn) : List (List Char) :=
  if t.after = t.before then []
  else Diff.unified (linesOf t.before) (linesOf t.after) s!"a/{t.file}" s!"b/{t.file}"

/-- What a file holds is text, before and after. -/
def Turn.IsText (t : Turn) : Prop := Utf8.isValid t.before = true ∧ Utf8.isValid t.after = true

/-- Every line of a file ends with a line feed, before and after. -/
def Turn.EndsLines (t : Turn) : Prop :=
  (∀ l ∈ linesOf t.before, EndsLine l) ∧ ∀ l ∈ linesOf t.after, EndsLine l

/-- What places hold. -/
def contentOf (fs : FileSystem) (place : List String) : Bytes := (fs.files.get? place).getD []

/-- Where every name leads to a place of its own, insertions between characters of the texts that
the places hold make texts again. -/
theorem isText_of_mem_turns {o : Options} {here : List String}
    {groups : List (String × List Fix)} {content : List String → Bytes}
    (hplaces : (groups.map fun g => placeFrom here g.1).Nodup)
    (hgroups : ∀ g ∈ groups, Utf8.isValid (content (placeFrom here g.1)) = true ∧
      InsertsBetween (content (placeFrom here g.1)) g.2) :
    ∀ t ∈ turns o here groups content, t.IsText := by
  induction groups generalizing content with
  | nil => rintro t ⟨⟩
  | cons g groups ih =>
    obtain ⟨hother, hplaces⟩ := List.nodup_cons.1 hplaces
    obtain ⟨⟨hbefore, hfixes⟩, hgroups⟩ := List.forall_mem_cons.1 hgroups
    rw [turns]
    refine List.forall_mem_cons.2 ⟨⟨hbefore, ?_⟩, ih hplaces fun g' hg' => ?_⟩
    · show Utf8.isValid (mendedSource (content (placeFrom here g.1)) g.2) = true
      unfold mendedSource
      split
      · rename_i after hafter
        exact isValid_of_applyFixes hbefore hfixes hafter
      · exact hbefore
    · have hne : placeFrom here g'.1 ≠ placeFrom here g.1 := fun heq =>
        hother (List.mem_map.2 ⟨g', hg', heq⟩)
      have hsame : contentAfter o here content ⟨g.1, content (placeFrom here g.1),
          mendedSource (content (placeFrom here g.1)) g.2⟩ (placeFrom here g'.1) =
            content (placeFrom here g'.1) := by
        unfold contentAfter
        split
        · exact Function.update_of_ne hne _ _
        · rfl
      rw [hsame]
      exact hgroups g' hg'

/-- Files that can be read from the current folder, and what they hold. -/
structure Serves (fs : FileSystem) (here : List String) (content : List String → Bytes)
    (files : List String) : Prop where
  here_eq : fs.here = here
  consistent : fs.Consistent
  read : ∀ file ∈ files, fs.read (Path.ofText file) = .ok (content (placeFrom here file))

namespace Turn

variable {t : Turn} (hname : '\n' ∉ t.file.toList)

include hname

theorem notMem_name {mark : String} (hmark : '\n' ∉ mark.toList) :
    '\n' ∉ (mark ++ t.file).toList := by
  rw [String.toList_append, List.mem_append, not_or]
  exact ⟨hmark, hname⟩

theorem isRecord_of_mem : ∀ l ∈ t.records, IsRecord l := by
  unfold records
  split
  · rintro l ⟨⟩
  · exact Diff.isRecord_of_mem_unified isRecord_of_mem_breakLines isRecord_of_mem_breakLines
      (notMem_name hname (by decide)) (notMem_name hname (by decide))

theorem endsLine_of_mem (hends : t.EndsLines) : ∀ l ∈ t.records, EndsLine l := by
  unfold records
  split
  · rintro l ⟨⟩
  · exact Diff.endsLine_of_mem_unified hends.1 hends.2 (notMem_name hname (by decide))
      (notMem_name hname (by decide))

end Turn

/-! ## Steps -/

section

variable {p : Progress}

theorem ran_readFile {path : Path} {data : Bytes} (h : p.files.read path = .ok data) :
    Ran (readFile path) p data p := by
  refine ran_bind_iff.2 ⟨p, p, ran_get_iff.2 ⟨rfl, rfl⟩, ?_⟩
  rw [h]
  exact ran_pure_iff.2 ⟨rfl, rfl⟩

theorem ran_writeFile {path : Path} {data : Bytes} {fs : FileSystem}
    (h : p.files.write path data = .ok fs) :
    Ran (writeFile path data) p () { p with files := fs } := by
  refine ran_bind_iff.2 ⟨p, p, ran_get_iff.2 ⟨rfl, rfl⟩, ?_⟩
  rw [h]
  exact ran_modify_iff.2 rfl

theorem ran_logged {α : Type} (x : LogM α) (p : Progress) :
    Ran (logged x) p (x.run []).1 { p with notices := p.notices ++ (x.run []).2.map .log } := rfl

theorem ran_sourceLines {source : Bytes} (h : Utf8.isValid source = true) (p : Progress) :
    Ran (sourceLines source) p (linesOf source) p := by
  unfold sourceLines
  rw [decodeText_of_isValid h]
  exact ran_pure_iff.2 ⟨rfl, rfl⟩

theorem ran_showDiff {t : Turn} (ht : t.IsText) (hne : t.after ≠ t.before) (p : Progress) :
    Ran (showDiff t.file t.before t.after) p ()
      { p with output := p.output ++ String.ofList t.records.flatten } := by
  unfold showDiff
  refine ran_bind_iff.2 ⟨_, _, ran_sourceLines ht.1 p, ?_⟩
  refine ran_bind_iff.2 ⟨_, _, ran_sourceLines ht.2 p, ?_⟩
  rw [Turn.records, if_neg hne]
  exact ran_modify_iff.2 rfl

end

/-! ## Mending with listings -/

variable {o : Options} {m : Mended} {p : Progress} {here : List String}
  {content : List String → Bytes}

theorem Serves.tail {fs : FileSystem} {file : String} {files : List String}
    (h : Serves fs here content (file :: files)) : Serves fs here content files :=
  ⟨h.here_eq, h.consistent, fun f hf => h.read f (List.mem_cons_of_mem _ hf)⟩

/-- What became of a file is written, when files are to be written, and the others stay readable. -/
theorem exists_ran_rewritten {t : Turn} {files : List String}
    (hs : Serves p.files here content (t.file :: files)) (message : String) (w : Mended) :
    ∃ q, Ran (if o.fix = true then do
          writeFile (Path.ofText t.file) t.after
          say .info message
          return w
        else return w) p w q ∧
      q.output = p.output ∧ Serves q.files here (contentAfter o here content t) files := by
  by_cases hfix : o.fix = true
  · obtain rfl := hs.here_eq
    have hread := hs.read t.file List.mem_cons_self
    obtain ⟨hfile, hwrite⟩ := FileSystem.write_of_read hs.consistent hread t.after
    let p₁ : Progress := { p with files := p.files.replace (placeFrom p.files.here t.file) t.after }
    have hwritten : Ran (writeFile (Path.ofText t.file) t.after) p () p₁ := ran_writeFile hwrite
    have hserves : Serves p₁.files p.files.here (contentAfter o p.files.here content t) files := by
      refine ⟨rfl, hs.consistent.replace hfile t.after, fun other hother => ?_⟩
      have hfound := hs.read other (List.mem_cons_of_mem _ hother)
      rw [contentAfter, if_pos hfix, Function.update_apply]
      exact FileSystem.read_replace hfile t.after hfound
    rw [if_pos hfix]
    exact ⟨_, ran_bind_iff.2 ⟨(), p₁, hwritten, ran_bind_iff.2 ⟨(), _, ran_logged _ p₁,
      ran_pure_iff.2 ⟨rfl, rfl⟩⟩⟩, rfl, hserves⟩
  · rw [if_neg hfix, contentAfter, if_neg hfix]
    exact ⟨p, ran_pure_iff.2 ⟨rfl, rfl⟩, rfl, hs.tail⟩

/-- Mending a readable text completes, writes its listing, and leaves the others readable. -/
theorem exists_ran_mendFile (hdiff : o.diff = true) {file : String} {fixes : List Fix}
    {files : List String} (hs : Serves p.files here content (file :: files))
    (ht : Turn.IsText ⟨file, content (placeFrom here file),
      mendedSource (content (placeFrom here file)) fixes⟩) :
    let t : Turn := ⟨file, content (placeFrom here file),
      mendedSource (content (placeFrom here file)) fixes⟩
    ∃ m' q, Ran (mendFile o m file fixes) p m' q ∧
      q.output = p.output ++ String.ofList t.records.flatten ∧
      Serves q.files here (contentAfter o here content t) files := by
  intro t
  have hread := hs.read file List.mem_cons_self
  let p₁ : Progress := { p with notices := p.notices ++
    ((applyFixesLogged (content (placeFrom here file)) fixes).run []).2.map .log }
  have hpatch : Ran (logged (applyFixesLogged (content (placeFrom here file)) fixes)) p
      (applyFixes (content (placeFrom here file)) fixes) p₁ := by
    rw [← fst_applyFixesLogged (content (placeFrom here file)) fixes []]
    exact ran_logged _ p
  -- A file that stays as it is has no listing and is not written.
  have hsame : t.after = t.before → t.records = [] ∧ contentAfter o here content t = content := by
    intro heq
    refine ⟨if_pos heq, ?_⟩
    unfold contentAfter
    rw [heq]
    split
    · exact Function.update_eq_self _ _
    · rfl
  cases hafter : applyFixes (content (placeFrom here file)) fixes with
  | error c =>
    obtain ⟨hrecords, hcontent⟩ :=
      hsame (mendedSource_of_not_isOk (by rw [hafter]; exact Bool.false_ne_true))
    rw [hafter] at hpatch
    rw [hrecords, hcontent]
    refine ⟨_, _, ran_bind_iff.2 ⟨_, p, ran_readFile hread, ran_bind_iff.2 ⟨_, p₁, hpatch,
      ran_bind_iff.2 ⟨(), _, ran_logged _ p₁, ran_pure_iff.2 ⟨rfl, rfl⟩⟩⟩⟩, ?_, hs.tail⟩
    exact String.append_empty.symm
  | ok after =>
    have hmended : t.after = after := mendedSource_of_ok hafter
    rw [hafter, ← hmended] at hpatch
    by_cases heq : t.after = t.before
    · obtain ⟨hrecords, hcontent⟩ := hsame heq
      rw [hrecords, hcontent]
      refine ⟨m, p₁, ran_bind_iff.2 ⟨_, p, ran_readFile hread, ran_bind_iff.2 ⟨_, p₁, hpatch, ?_⟩⟩,
        String.append_empty.symm, hs.tail⟩
      dsimp only
      rw [if_pos heq]
      exact ran_pure_iff.2 ⟨rfl, rfl⟩
    · let p₂ : Progress := { p₁ with output := p₁.output ++ String.ofList t.records.flatten }
      have hshow : Ran (showDiff file t.before t.after) p₁ () p₂ := ran_showDiff ht heq p₁
      obtain ⟨q, hq, houtput, hserves⟩ : ∃ q, Ran (if o.fix = true then do
            writeFile (Path.ofText file) t.after
            say .info s!"{file}: applied {fixes.length} fix(es)"
            return { m with changed := m.changed + 1 }
          else return { m with changed := m.changed + 1 })
          p₂ { m with changed := m.changed + 1 } q ∧
          q.output = p₂.output ∧ Serves q.files here (contentAfter o here content t) files :=
        exists_ran_rewritten (p := p₂) (t := t) hs _ _
      refine ⟨{ m with changed := m.changed + 1 }, q, ran_bind_iff.2 ⟨_, p, ran_readFile hread,
        ran_bind_iff.2 ⟨_, p₁, hpatch, ?_⟩⟩, houtput, hserves⟩
      dsimp only
      rw [if_neg heq, if_pos hdiff]
      exact ran_bind_iff.2 ⟨(), p₂, hshow, hq⟩

theorem exists_ran_mendAll (hdiff : o.diff = true) {groups : List (String × List Fix)}
    (hs : Serves p.files here content (groups.map (·.1)))
    (htext : ∀ t ∈ turns o here groups content, t.IsText) :
    ∃ m' q, Ran (mendAll o groups m) p m' q ∧
      q.output = p.output ++
        String.ofList ((turns o here groups content).flatMap Turn.records).flatten := by
  induction groups generalizing m p content with
  | nil =>
    exact ⟨m, p, ran_pure_iff.2 ⟨rfl, rfl⟩, String.append_empty.symm⟩
  | cons group groups ih =>
    obtain ⟨file, fixes⟩ := group
    obtain ⟨ht, htext⟩ := List.forall_mem_cons.1 htext
    obtain ⟨m₁, p₁, hfile, houtput, hs⟩ := exists_ran_mendFile (m := m) hdiff hs ht
    obtain ⟨m₂, p₂, hrest, hmore⟩ := ih (m := m₁) hs htext
    refine ⟨m₂, p₂, ran_bind_iff.2 ⟨m₁, p₁, hfile, hrest⟩, ?_⟩
    rw [hmore, houtput, turns, List.flatMap_cons, List.flatten_append, String.ofList_append,
      String.append_assoc]

/-- With differences asked for, mending readable texts completes and writes the listings of the
files that change, in order. Dividing what is written at line feeds gives the records back exactly
when all of them but the last end with a line feed, and so whenever all lines of the files do. -/
theorem mend_listings_iff (o : Options) (r : Results) (p : Progress)
    (hdiff : o.diff = true) (hfiles : p.files.Consistent)
    (hread : ∀ group ∈ groupsOf r, ∃ data, p.files.read (Path.ofText group.1) = .ok data)
    (hnames : ∀ t ∈ turns o p.files.here (groupsOf r) (contentOf p.files), '\n' ∉ t.file.toList)
    (htext : ∀ t ∈ turns o p.files.here (groupsOf r) (contentOf p.files), t.IsText) :
    let ts := turns o p.files.here (groupsOf r) (contentOf p.files)
    let records := ts.flatMap Turn.records
    (∃ m q, Ran (mend o r) p m q ∧
      q.output = p.output ++ String.ofList records.flatten) ∧
    (feedLines records.flatten = records ↔ ∀ l ∈ records.dropLast, EndsLine l) ∧
    ((∀ t ∈ ts, t.EndsLines) → feedLines records.flatten = records) := by
  intro ts records
  have hserves : Serves p.files p.files.here (contentOf p.files) ((groupsOf r).map (·.1)) := by
    refine ⟨rfl, hfiles, fun file hfile => ?_⟩
    obtain ⟨group, hgroup, rfl⟩ := List.mem_map.1 hfile
    obtain ⟨data, hdata⟩ := hread group hgroup
    rw [hdata, contentOf, placeFrom, FileSystem.get?_of_read hdata]
    rfl
  obtain ⟨m, q, hall, houtput⟩ := exists_ran_mendAll (m := {}) hdiff hserves htext
  have hrecords : ∀ l ∈ records, IsRecord l := by
    intro l hl
    obtain ⟨t, ht, hl⟩ := List.mem_flatMap.1 hl
    exact t.isRecord_of_mem (hnames t ht) l hl
  refine ⟨⟨m, _, ran_bind_iff.2 ⟨m, q, hall, ran_bind_iff.2 ⟨(), _, ran_logged _ q,
    ran_pure_iff.2 ⟨rfl, rfl⟩⟩⟩, houtput⟩, feedLines_flatten_iff hrecords, fun hends => ?_⟩
  refine (feedLines_flatten_iff hrecords).2 fun l hl => ?_
  obtain ⟨t, ht, hl⟩ := List.mem_flatMap.1 (List.dropLast_subset _ hl)
  exact t.endsLine_of_mem (hnames t ht) (hends t ht) l hl

/-- The method's lost cause as a finding. -/
def lostCauseResults : Results where
  diagnostics := [{
    errorId := Rule.errorId
    message := Rule.summary
    severity := .warning
    location := ⟨"A.java", 1, 63⟩
    fix := some (.insertAfter 63 ".withCause(e)" "") }]

/-- A run that shows how the file would change. -/
def lostCauseDiff : Options := { paths := ["A.java"], diff := true }

/-- The turn of the file. -/
def lostCauseTurn : Turn := ⟨"A.java", lostCause, keptCause⟩

theorem records_lostCauseTurn : lostCauseTurn.records =
    ["--- a/A.java\n", "+++ b/A.java\n", "@@ -1 +1 @@\n",
      "-void f(com.google.common.flogger.LoggingApi a, Throwable e) \x7b a.log(e); \x7d",
      "+void f(com.google.common.flogger.LoggingApi a, Throwable e) " ++
        "\x7b a.withCause(e).log(e); \x7d"].map String.toList := by
  decide +kernel

theorem groupsOf_lostCauseResults :
    groupsOf lostCauseResults = [("A.java", [.insertAfter 63 ".withCause(e)" ""])] := by
  decide +kernel

theorem turns_lostCause : turns lostCauseDiff lostCauseFolder.here (groupsOf lostCauseResults)
    (contentOf lostCauseFolder) = [lostCauseTurn] := by
  have hmended :
      mendedSource lostCause [.insertAfter 63 ".withCause(e)" ""] = keptCause := by
    decide +kernel
  rw [groupsOf_lostCauseResults, turns, turns, lostCauseTurn, ← hmended]
  rfl

theorem consistent_lostCauseFolder : lostCauseFolder.Consistent := by
  intro place hplace
  obtain ⟨data, hdata⟩ := Option.isSome_iff_exists.1 hplace
  obtain ⟨rfl, -⟩ := Prod.mk.inj (List.mem_singleton.1 (Table.mem_entries_of_get? hdata))
  decide +kernel

/-- The file has no line feed at its end, so two records of its listing stand on one line. -/
theorem mend_listings_iff_lostCause :
    ∃ m q, Ran (mend lostCauseDiff lostCauseResults) { files := lostCauseFolder } m q ∧
      q.output = String.ofList lostCauseTurn.records.flatten ∧
      lostCauseTurn.records.length = 5 ∧ feedLines lostCauseTurn.records.flatten ≠
        lostCauseTurn.records := by
  have hread : ∀ group ∈ groupsOf lostCauseResults,
      ∃ data, lostCauseFolder.read (Path.ofText group.1) = .ok data := by
    rw [groupsOf_lostCauseResults]
    exact List.forall_mem_singleton.2 ⟨lostCause, rfl⟩
  have hnames : ∀ t ∈ turns lostCauseDiff lostCauseFolder.here (groupsOf lostCauseResults)
      (contentOf lostCauseFolder), '\n' ∉ t.file.toList := by
    rw [turns_lostCause]
    exact List.forall_mem_singleton.2 (by decide)
  have htext : ∀ t ∈ turns lostCauseDiff lostCauseFolder.here (groupsOf lostCauseResults)
      (contentOf lostCauseFolder), t.IsText := by
    have hbetween : InsertsBetween lostCause [.insertAfter 63 ".withCause(e)" ""] :=
      List.forall_mem_singleton.2 (List.forall_mem_singleton.2
        ⟨rfl, Utf8.isBoundary_of_ascii (by decide +kernel) (by decide +kernel)⟩)
    refine isText_of_mem_turns ?_ ?_ <;> rw [groupsOf_lostCauseResults]
    · exact List.nodup_singleton _
    · exact List.forall_mem_singleton.2 ⟨Utf8.isValid_ofText _, hbetween⟩
  obtain ⟨⟨m, q, hran, houtput⟩, hframed, -⟩ := mend_listings_iff lostCauseDiff
    lostCauseResults { files := lostCauseFolder } rfl consistent_lostCauseFolder hread hnames htext
  rw [turns_lostCause, List.flatMap_singleton] at houtput hframed
  refine ⟨m, q, hran, houtput.trans String.empty_append, ?_, fun heq => ?_⟩
  · rw [records_lostCauseTurn]
    rfl
  · have hends := hframed.1 heq
    rw [records_lostCauseTurn] at hends
    exact absurd (hends _ (List.mem_cons_of_mem _ (List.mem_cons_of_mem _
      (List.mem_cons_of_mem _ List.mem_cons_self)))) (by decide +kernel)

end CauseLint.Command
