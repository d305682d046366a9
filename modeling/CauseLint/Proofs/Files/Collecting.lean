import CauseLint.Files.Collect
import CauseLint.Proofs.Files.Rewriting
import Mathlib.Data.List.Forall2
import Mathlib.Data.List.Nodup

/-!
# Which files are collected

A path given to a run stands for a file, or for everything below a folder whose name is one of a
source file; that may be a folder again. What the paths stand for is taken once, in the order of
the paths and below each folder in the order of components, and what is excluded is left out.

Results:

* `FileSystem.mem_below`: what lies below a folder;
* `FileSystem.candidates_ends`: what one path stands for, and why it may be refused;
* `FileSystem.collectLogged_iff`: what is collected, and when all of it is files.
-/

namespace CauseLint

/-! ## Lists -/

theorem nodup_eraseDups {α : Type} [BEq α] [LawfulBEq α] (l : List α) : l.eraseDups.Nodup := by
  match l with
  | [] => exact List.nodup_nil
  | a :: l =>
    have shorter := List.length_filter_le (fun b => !b == a) l
    rw [List.eraseDups_cons]
    refine List.nodup_cons.mpr ⟨fun mem => ?_, nodup_eraseDups _⟩
    simp at mem
termination_by l.length
decreasing_by exact Nat.lt_succ_of_le shorter

/-! ## The order of components -/

namespace Path

theorem partsLe_total (as bs : List String) : partsLe as bs = true ∨ partsLe bs as = true := by
  induction as generalizing bs with
  | nil => exact .inl rfl
  | cons a as ih =>
    cases bs with
    | nil => exact .inr rfl
    | cons b bs =>
      by_cases same : a = b
      · subst same
        simpa [partsLe] using ih bs
      · by_cases less : a < b
        · exact .inl (by simp [partsLe, same, less])
        · have more : b < a := by
            by_contra notMore
            exact same (String.le_antisymm notMore less)
          exact .inr (by simp [partsLe, Ne.symm same, more])

theorem partsLe_trans {as bs cs : List String} (ab : partsLe as bs = true)
    (bc : partsLe bs cs = true) : partsLe as cs = true := by
  induction as generalizing bs cs with
  | nil => rfl
  | cons a as ih =>
    cases bs with
    | nil => cases ab
    | cons b bs =>
      cases cs with
      | nil => cases bc
      | cons c cs =>
        simp only [partsLe] at ab bc ⊢
        grind

/-- Lists of components that are not the same are in the order of their first difference. -/
theorem lt_of_partsLe {as bs : List String} (le : partsLe as bs = true) (other : as ≠ bs) :
    as < bs := by
  induction as generalizing bs with
  | nil =>
    cases bs with
    | nil => exact absurd rfl other
    | cons b bs => exact List.nil_lt_cons b bs
  | cons a as ih =>
    cases bs with
    | nil => cases le
    | cons b bs =>
      rw [partsLe] at le
      rw [List.cons_lt_cons_iff]
      split at le
      case isTrue same =>
        subst same
        exact .inr ⟨rfl, ih le fun eq => other (by rw [eq])⟩
      case isFalse => exact .inl (by simpa using le)

end Path

namespace FileSystem

variable {fs : FileSystem}

/-! ## Below a folder -/

theorem mem_beginnings {n : ℕ} {place l : List String} :
    place ∈ beginnings n l ↔ place <+: l ∧ n < place.length := by
  rw [beginnings, List.mem_map]
  constructor
  · rintro ⟨k, mem, rfl⟩
    obtain ⟨low, high⟩ := List.mem_range'_1.mp mem
    refine ⟨List.take_prefix k l, ?_⟩
    rw [List.length_take]
    omega
  · rintro ⟨before, longer⟩
    have short := before.length_le
    refine ⟨place.length, List.mem_range'_1.mpr ⟨by omega, by omega⟩, ?_⟩
    exact (List.prefix_iff_eq_take.mp before).symm

/-- A place inside the current folder is there when it begins a place that is named. -/
theorem there_iff {place : List String} (inside : place ≠ []) :
    (fs.isFolderAt place = true ∨ fs.isFileAt place = true) ↔ ∃ l ∈ fs.named, place <+: l := by
  have folder : fs.isFolderAt place = true ↔ (∃ l ∈ fs.namedFolders, place <+: l) ∨
      ∃ l ∈ fs.files.keys, place <+: l ∧ place.length < l.length := by
    simp [isFolderAt, inside]
  have file : fs.isFileAt place = true ↔ place ∈ fs.files.keys := Table.contains_iff_mem_keys
  rw [folder, file]
  simp only [named, List.mem_append]
  constructor
  · rintro ((⟨l, mem, before⟩ | ⟨l, mem, before, -⟩) | mem)
    · exact ⟨l, .inr mem, before⟩
    · exact ⟨l, .inl mem, before⟩
    · exact ⟨place, .inl mem, List.prefix_rfl⟩
  · rintro ⟨l, mem | mem, before⟩
    · rcases Nat.lt_or_eq_of_le before.length_le with shorter | same
      · exact .inl (.inr ⟨l, mem, before, shorter⟩)
      · rw [before.eq_of_length same]
        exact .inr mem
    · exact .inl (.inl ⟨l, mem, before⟩)

/-- What lies below a folder: all folders and files there, however deep. -/
theorem mem_below {folder rel : List String} :
    rel ∈ fs.below folder ↔ rel ≠ [] ∧
      (fs.isFolderAt (folder ++ rel) = true ∨ fs.isFileAt (folder ++ rel) = true) := by
  simp only [below, List.mem_map, List.mem_eraseDups, List.mem_flatMap, List.mem_filter,
    mem_beginnings, List.isPrefixOf_iff_prefix]
  constructor
  · rintro ⟨place, ⟨l, ⟨mem, inside⟩, before, longer⟩, rfl⟩
    obtain ⟨rel, rfl⟩ := List.prefix_of_prefix_length_le inside before (Nat.le_of_lt longer)
    rw [List.drop_left]
    have deeper : rel ≠ [] := by
      rintro rfl
      simp at longer
    exact ⟨deeper, (there_iff (by simp [deeper])).mpr ⟨l, mem, before⟩⟩
  · rintro ⟨deeper, there⟩
    obtain ⟨l, mem, before⟩ := (there_iff (by simp [deeper])).mp there
    refine ⟨folder ++ rel, ⟨l, ⟨mem, (List.prefix_append ..).trans before⟩, before, ?_⟩,
      List.drop_left⟩
    rw [List.length_append]
    exact Nat.lt_add_of_pos_right (List.length_pos_iff.mpr deeper)

theorem nodup_below (folder : List String) : (fs.below folder).Nodup := by
  rw [below]
  refine List.Nodup.map_on ?_ (nodup_eraseDups _)
  simp only [List.mem_eraseDups, List.mem_flatMap, List.mem_filter, mem_beginnings,
    List.isPrefixOf_iff_prefix]
  rintro a ⟨l, ⟨-, inside⟩, before, longer⟩ b ⟨l', ⟨-, inside'⟩, before', longer'⟩ same
  obtain ⟨rel, rfl⟩ := List.prefix_of_prefix_length_le inside before (Nat.le_of_lt longer)
  obtain ⟨rel', rfl⟩ := List.prefix_of_prefix_length_le inside' before' (Nat.le_of_lt longer')
  rw [List.drop_left, List.drop_left] at same
  rw [same]

/-! ## Where a path leads -/

/-- A path leads to a folder or a file. -/
theorem there_of_walk {here parts place : List String} (leads : fs.walk here parts = .ok place)
    (there : fs.isFolderAt here = true ∨ fs.isFileAt here = true) :
    fs.isFolderAt place = true ∨ fs.isFileAt place = true := by
  induction parts generalizing here with
  | nil => rwa [← Except.ok.inj leads]
  | cons c parts ih =>
    rw [walk] at leads
    split at leads
    · cases leads
    rename_i folder
    rw [Bool.not_eq_true', Bool.not_eq_false] at folder
    split at leads
    · exact ih leads (.inl (isFolderAt_dropLast folder))
    split at leads
    · cases leads
    dsimp only at leads
    split at leads
    · rename_i next
      exact ih leads (by simpa using next)
    · cases leads

theorem there_of_locate {p : Path} {place : List String} (leads : fs.locate p = .ok place) :
    fs.isFolderAt place = true ∨ fs.isFileAt place = true := by
  obtain ⟨-, -, walked⟩ := exists_of_bind_eq_ok leads
  exact there_of_walk (eq_of_refuse walked) (.inl (fs.isFolderAt_start p))

theorem walk_error {here parts : List String} {t : FileTrouble}
    (fails : fs.walk here parts = .error t) : t ≠ .isFolder := by
  induction parts generalizing here with
  | nil => cases fails
  | cons c parts ih =>
    rw [walk] at fails
    dsimp only at fails
    split_ifs at fails
    all_goals first
      | exact ih fails
      | (obtain rfl := Except.error.inj fails; exact FileTrouble.noConfusion)

/-- A question about a path is answered, unless the path is too long or has too long a name. -/
theorem holds_of_locate_error {p : Path} {e : Abort} (fails : fs.locate p = .error e)
    (test : List String → Bool) :
    holds test (.error e) = .ok false ∨
      e = .file ⟨.nameTooLong, p⟩ ∧ holds test (.error e) = .error e := by
  unfold locate check at fails
  split_ifs at fails
  · obtain rfl := Except.error.inj fails
    exact .inl rfl
  · obtain rfl := Except.error.inj fails
    exact .inr ⟨rfl, rfl⟩
  · cases walked : fs.walk (fs.start p) p.parts with
    | ok place =>
      rw [walked] at fails
      cases fails
    | error t =>
      rw [walked] at fails
      obtain rfl := Except.error.inj fails
      have other := walk_error walked
      cases t with
      | missing => exact .inl rfl
      | notFolder => exact .inl rfl
      | isFolder => exact absurd rfl other
      | nameTooLong => exact .inr ⟨rfl, rfl⟩

/-- Finding a home folder fails for unknown homes only. -/
theorem eq_of_expandHome_error {p : Path} {e : Abort} (fails : fs.expandHome p = .error e) :
    e = .noHome := by
  unfold expandHome at fails
  split at fails
  · split at fails
    · split at fails
      · cases fails
      · exact (Except.error.inj fails).symm
    · cases fails
  · cases fails

/-! ## What one path stands for -/

/-- A path that leads to a file or a folder. -/
def Reaches (fs : FileSystem) (raw : String) : Prop :=
  ∃ p place, fs.expandHome (Path.ofText raw) = .ok p ∧ fs.locate p = .ok place

/-- A file or folder below a folder with the name of a source file. -/
def SourceBelow (fs : FileSystem) (folder rel : List String) : Prop :=
  rel ≠ [] ∧ isSourceName (rel.getLast?.getD "") = true ∧
    (fs.isFolderAt (folder ++ rel) = true ∨ fs.isFileAt (folder ++ rel) = true)

/-- A path stands for itself if it leads to a file, else for all that lies below the folder it leads
to under the name of a source file. -/
def Covers (fs : FileSystem) (raw : String) (q : Path) : Prop :=
  ∃ p place, fs.expandHome (Path.ofText raw) = .ok p ∧ fs.locate p = .ok place ∧
    if fs.isFolderAt place then
      ∃ rel, fs.SourceBelow place rel ∧ q = { p with parts := p.parts ++ rel }
    else q = p

/-- All that a path stands for, in the order of components. -/
structure Offers (fs : FileSystem) (raw : String) (offered : List Path) : Prop where
  reaches : fs.Reaches raw
  sorted : offered.Pairwise fun a b => a.parts < b.parts
  mem_iff : ∀ q, q ∈ offered ↔ fs.Covers raw q

/-- Why a path is refused that leads nowhere. -/
inductive Refuses (fs : FileSystem) (raw : String) : Abort → Prop
  | noHome (unknown : fs.expandHome (Path.ofText raw) = .error .noHome) : Refuses fs raw .noHome
  | tooLong {p : Path} (home : fs.expandHome (Path.ofText raw) = .ok p)
      (long : fs.locate p = .error (.file ⟨.nameTooLong, p⟩)) :
      Refuses fs raw (.file ⟨.nameTooLong, p⟩)
  | notFound {p : Path} (home : fs.expandHome (Path.ofText raw) = .ok p)
      (nowhere : ∀ place, fs.locate p ≠ .ok place)
      (short : fs.locate p ≠ .error (.file ⟨.nameTooLong, p⟩)) :
      Refuses fs raw (.lint { kind := .configuration, message := s!"path not found: {raw}" })

variable {fs : FileSystem}

/-- Paths that differ, with the same root, are in the order of their components. -/
theorem pairwise_mergeSort {ps : List Path} (root : String) (roots : ∀ p ∈ ps, p.root = root)
    (apart : ps.Nodup) : (ps.mergeSort Path.le).Pairwise fun a b => a.parts < b.parts := by
  have trans : ∀ a b c : Path, a.le b = true → b.le c = true → a.le c = true :=
    fun _ _ _ => Path.partsLe_trans
  have total : ∀ a b : Path, (a.le b || b.le a) = true :=
    fun a b => Bool.or_eq_true_iff.mpr (Path.partsLe_total a.parts b.parts)
  have sorted := List.pairwise_mergeSort trans total ps
  have apart' : (ps.mergeSort Path.le).Nodup := (List.mergeSort_perm ps _).nodup_iff.mpr apart
  have both := sorted.and apart'
  refine both.imp_of_mem ?_
  rintro a b memA memB ⟨le, other⟩
  refine Path.lt_of_partsLe le fun same => other ?_
  have rootA := roots a (List.mem_mergeSort.mp memA)
  have rootB := roots b (List.mem_mergeSort.mp memB)
  cases a
  cases b
  simp_all

/-- The paths below a path to a folder that have the name of a source file. -/
def sourcesBelow (fs : FileSystem) (p : Path) (folder : List String) : List Path :=
  ((fs.below folder).filter fun rel => isSourceName (rel.getLast?.getD "")).map
    fun rel => { p with parts := p.parts ++ rel }

theorem nodup_sourcesBelow (p : Path) (folder : List String) :
    (fs.sourcesBelow p folder).Nodup := by
  refine List.Nodup.map (fun rel rel' same => ?_) ((nodup_below folder).filter _)
  exact List.append_cancel_left (congrArg Path.parts same)

theorem mem_sourcesBelow {p q : Path} {folder : List String} :
    q ∈ fs.sourcesBelow p folder ↔
      ∃ rel, fs.SourceBelow folder rel ∧ q = { p with parts := p.parts ++ rel } := by
  simp only [sourcesBelow, List.mem_map, List.mem_filter, mem_below, SourceBelow]
  constructor
  · rintro ⟨rel, ⟨⟨deeper, there⟩, source⟩, rfl⟩
    exact ⟨rel, ⟨deeper, source, there⟩, rfl⟩
  · rintro ⟨rel, ⟨deeper, source, there⟩, rfl⟩
    exact ⟨rel, ⟨⟨deeper, there⟩, source⟩, rfl⟩

/-- What a path stands for when it leads somewhere. -/
theorem candidates_of_locate {raw : String} {p : Path} {place : List String}
    (home : fs.expandHome (Path.ofText raw) = .ok p) (leads : fs.locate p = .ok place) :
    ∃ offered, fs.candidates raw = .ok offered ∧ fs.Offers raw offered := by
  have covers : ∀ q, fs.Covers raw q ↔ if fs.isFolderAt place then
      ∃ rel, fs.SourceBelow place rel ∧ q = { p with parts := p.parts ++ rel } else q = p := by
    intro q
    constructor
    · rintro ⟨p', place', home', leads', stands⟩
      obtain rfl := Except.ok.inj (home.symm.trans home')
      obtain rfl := Except.ok.inj (leads.symm.trans leads')
      exact stands
    · exact fun stands => ⟨p, place, home, leads, stands⟩
  have reaches : fs.Reaches raw := ⟨p, place, home, leads⟩
  cases folder : fs.isFolderAt place with
  | true =>
    refine ⟨(fs.sourcesBelow p place).mergeSort Path.le, ?_, reaches, ?_, fun q => ?_⟩
    · simp only [candidates, home, isFolder, leads, holds, folder, bind, Except.bind, if_true]
      rfl
    · refine pairwise_mergeSort p.root (fun q mem => ?_) (nodup_sourcesBelow p place)
      obtain ⟨rel, -, rfl⟩ := mem_sourcesBelow.mp mem
      rfl
    · rw [List.mem_mergeSort, covers, folder, if_pos rfl]
      exact mem_sourcesBelow
  | false =>
    have file : fs.isFileAt place = true :=
      (there_of_locate leads).resolve_left (by rw [folder]; exact Bool.false_ne_true)
    refine ⟨[p], ?_, reaches, List.pairwise_singleton .., fun q => ?_⟩
    · simp only [candidates, home, isFolder, isFile, leads, holds, folder, file, bind, Except.bind,
        if_true]
      rfl
    · rw [covers, folder]
      exact List.mem_singleton

/-- Why a path is refused that leads nowhere. -/
theorem candidates_of_nowhere {raw : String} (nowhere : ¬ fs.Reaches raw) :
    ∃ e, fs.candidates raw = .error e ∧ fs.Refuses raw e := by
  cases home : fs.expandHome (Path.ofText raw) with
  | error e =>
    obtain rfl := eq_of_expandHome_error home
    refine ⟨.noHome, ?_, .noHome home⟩
    rw [candidates, home]
    rfl
  | ok p =>
    cases leads : fs.locate p with
    | ok place => exact absurd ⟨p, place, home, leads⟩ nowhere
    | error e =>
      have noPlace : ∀ place, fs.locate p ≠ .ok place := by
        intro place found
        rw [leads] at found
        cases found
      by_cases long : e = .file ⟨.nameTooLong, p⟩
      · subst long
        refine ⟨_, ?_, .tooLong home leads⟩
        simp only [candidates, home, isFolder, leads, holds, bind, Except.bind]
      · have no : ∀ test, holds test (.error e) = .ok false := fun test =>
          (holds_of_locate_error leads test).resolve_right fun other => long other.1
        refine ⟨_, ?_, .notFound home noPlace ?_⟩
        · simp only [candidates, home, isFolder, isFile, leads, no, bind, Except.bind,
            Bool.false_eq_true, if_false]
        · rw [leads]
          exact fun same => long (Except.error.inj same)

/-- What one path stands for, and why it is refused. -/
theorem candidates_ends (raw : String) :
    (fs.Reaches raw ∧ ∃ offered, fs.candidates raw = .ok offered ∧ fs.Offers raw offered) ∨
    (¬ fs.Reaches raw ∧ ∃ e, fs.candidates raw = .error e ∧ fs.Refuses raw e) := by
  by_cases reaches : fs.Reaches raw
  · obtain ⟨p, place, home, leads⟩ := reaches
    exact .inl ⟨⟨p, place, home, leads⟩, candidates_of_locate home leads⟩
  · exact .inr ⟨reaches, candidates_of_nowhere reaches⟩

theorem Refuses.nowhere {raw : String} {e : Abort} (refuses : fs.Refuses raw e) :
    ¬ fs.Reaches raw := by
  rintro ⟨p, place, home, leads⟩
  cases refuses with
  | noHome unknown =>
    rw [home] at unknown
    cases unknown
  | tooLong home' long =>
    obtain rfl := Except.ok.inj (home.symm.trans home')
    rw [leads] at long
    cases long
  | notFound home' nowhere =>
    obtain rfl := Except.ok.inj (home.symm.trans home')
    exact nowhere place leads

/-- There is one reason why a path is refused. -/
theorem Refuses.eq {raw : String} {e e' : Abort} (refuses : fs.Refuses raw e)
    (refuses' : fs.Refuses raw e') : e = e' := by
  cases refuses <;> cases refuses' <;> simp_all

/-! ## What some paths stand for -/

/-- Taking paths adds those that are new and not excluded, each once. -/
theorem addNew_eq (exclude : List String) (seen new : List Path) :
    addNew exclude seen new =
      seen ++ (new.filter fun p => !(seen.contains p || isExcluded p exclude)).eraseDups := by
  induction new generalizing seen with
  | nil => simp [addNew]
  | cons p new ih =>
    rw [addNew, List.foldl_cons]
    change addNew exclude _ new = _
    rw [ih]
    cases out : seen.contains p || isExcluded p exclude with
    | true => rw [if_pos rfl, List.filter_cons_of_neg (by rw [out]; decide)]
    | false =>
      have rest : new.filter (fun q => !((seen ++ [p]).contains q || isExcluded q exclude)) =
          (new.filter fun q => !(seen.contains q || isExcluded q exclude)).filter (!· == p) := by
        rw [List.filter_filter]
        refine List.filter_congr fun q _ => ?_
        have last : (seen ++ [p]).contains q = (seen.contains q || q == p) := by
          rw [List.contains_append, List.contains_cons, List.contains_nil, Bool.or_false]
        rw [last]
        cases q == p <;> simp
      rw [if_neg Bool.false_ne_true, List.filter_cons_of_pos (by rw [out]; rfl),
        List.eraseDups_cons, rest, List.append_assoc]
      rfl

/-- Some paths stand for what each of them stands for, unless one is refused. -/
theorem collect_ends (exclude args : List String) (seen : List Path) :
    ((∀ raw ∈ args, fs.Reaches raw) ∧ ∃ offered, List.Forall₂ fs.Offers args offered ∧
      fs.collect exclude args seen = .ok (addNew exclude seen offered.flatten)) ∨
    ∃ before raw after e, args = before ++ raw :: after ∧ (∀ r ∈ before, fs.Reaches r) ∧
      fs.Refuses raw e ∧ fs.collect exclude args seen = .error e := by
  induction args generalizing seen with
  | nil => exact .inl ⟨List.forall_mem_nil _, [], .nil, rfl⟩
  | cons raw args ih =>
    rcases fs.candidates_ends raw with ⟨reaches, new, stands, offers⟩ | ⟨-, e, stands, refuses⟩
    · have step : fs.collect exclude (raw :: args) seen =
          fs.collect exclude args (addNew exclude seen new) := by
        rw [collect, stands]
        rfl
      rcases ih (addNew exclude seen new) with ⟨all, offered, each, out⟩ |
        ⟨before, raw', after, e, split, all, refuses, out⟩
      · refine .inl ⟨List.forall_mem_cons.mpr ⟨reaches, all⟩, new :: offered, .cons offers each, ?_⟩
        rw [step, out, List.flatten_cons, addNew, addNew, addNew, List.foldl_append]
      · refine .inr ⟨raw :: before, raw', after, e, by rw [split]; rfl,
          List.forall_mem_cons.mpr ⟨reaches, all⟩, refuses, step.trans out⟩
    · refine .inr ⟨[], raw, args, e, rfl, List.forall_mem_nil _, refuses, ?_⟩
      rw [collect, stands]
      rfl

/-- A path that is refused stops the collection, whatever comes behind it. -/
theorem collect_of_refuses (exclude : List String) {before after : List String} {raw : String}
    {e : Abort} (all : ∀ r ∈ before, fs.Reaches r) (refuses : fs.Refuses raw e)
    (seen : List Path) : fs.collect exclude (before ++ raw :: after) seen = .error e := by
  induction before generalizing seen with
  | nil =>
    rcases fs.candidates_ends raw with ⟨reaches, -⟩ | ⟨-, e', stands, refuses'⟩
    · exact absurd reaches refuses.nowhere
    · rw [List.nil_append, collect, stands, refuses.eq refuses']
      rfl
  | cons r before ih =>
    obtain ⟨reaches, all⟩ := List.forall_mem_cons.mp all
    rcases fs.candidates_ends r with ⟨-, new, stands, -⟩ | ⟨nowhere, -⟩
    · rw [List.cons_append, collect, stands]
      exact ih all _
    · exact absurd reaches nowhere

/-- What is offered is what the paths stand for. -/
theorem mem_offered {args : List String} {offered : List (List Path)}
    (each : List.Forall₂ fs.Offers args offered) {q : Path} :
    (∃ l ∈ offered, q ∈ l) ↔ ∃ raw ∈ args, fs.Covers raw q := by
  induction each with
  | nil => simp
  | cons offers _ ih => simp only [List.exists_mem_cons_iff, offers.mem_iff, ih]

/-! ## Files and folders -/

/-- A tree of files: no place is both a file and a folder, and no name leads back. -/
structure IsTree (fs : FileSystem) : Prop where
  consistent : fs.Consistent
  plain : ∀ place ∈ fs.named, ".." ∉ place

theorem follow_append (here rel : List String) (plain : ".." ∉ rel) :
    Path.follow here rel = here ++ rel := by
  induction rel generalizing here with
  | nil => simp [Path.follow]
  | cons c rel ih =>
    obtain ⟨other, plain⟩ := not_or.mp (List.mem_cons.not.mp plain)
    rw [Path.follow, List.foldl_cons, if_neg (Ne.symm other)]
    exact (ih _ plain).trans (by simp)

/-- A path stands for files and folders. -/
theorem Covers.there (tree : fs.IsTree) {raw : String} {q : Path} (covers : fs.Covers raw q) :
    fs.isFolderAt (q.placeFrom fs.here) = true ∨ fs.isFileAt (q.placeFrom fs.here) = true := by
  obtain ⟨p, place, -, leads, stands⟩ := covers
  have here := eq_place_of_locate leads
  split at stands
  · obtain ⟨rel, ⟨deeper, -, there⟩, rfl⟩ := stands
    obtain ⟨l, mem, before⟩ := (there_iff (by simp [deeper])).mp there
    have plain : ".." ∉ rel := fun up =>
      tree.plain l mem (before.subset (List.mem_append_right _ up))
    have below : Path.placeFrom fs.here { p with parts := p.parts ++ rel } = place ++ rel := by
      rw [Path.placeFrom, Path.follow, List.foldl_append]
      exact (follow_append _ rel plain).trans (by rw [here]; rfl)
    rw [below]
    exact there
  · rw [stands, ← here]
    exact there_of_locate leads

/-! ## What is collected -/

/-- **What is collected.** A run collects what its paths, relative or from the root, stand for when
each of them leads somewhere, and else is refused for the first that does not. What is collected is
offered by the paths one after another; what is excluded is left out, and the rest is taken once. All
of it is files iff every folder that has the name of a source file, below a folder that is given, is
excluded. -/
theorem collectLogged_iff (tree : fs.IsTree) (args exclude : List String) (log : Log) :
    ((∃ files, ((fs.collectLogged args exclude).run log).1 = .ok files) ↔
      ∀ raw ∈ args, fs.Reaches raw) ∧
    (∀ e, ((fs.collectLogged args exclude).run log).1 = .error e ↔
      ∃ before raw after, args = before ++ raw :: after ∧ (∀ r ∈ before, fs.Reaches r) ∧
        fs.Refuses raw e) ∧
    ∀ files, ((fs.collectLogged args exclude).run log).1 = .ok files →
      (∃ offered, List.Forall₂ fs.Offers args offered ∧
        files = (offered.flatten.filter fun p => !isExcluded p exclude).eraseDups) ∧
      files.Nodup ∧
      (∀ q, q ∈ files ↔ isExcluded q exclude = false ∧ ∃ raw ∈ args, fs.Covers raw q) ∧
      ((∀ q ∈ files, fs.isFileAt (q.placeFrom fs.here) = true) ↔
        ∀ raw ∈ args, ∀ q, fs.Covers raw q → fs.isFolderAt (q.placeFrom fs.here) = true →
          isExcluded q exclude = true) := by
  rw [fst_collectLogged]
  rcases fs.collect_ends exclude args [] with ⟨all, offered, each, out⟩ |
    ⟨before, raw, after, e, split, all, refuses, out⟩
  · rw [out]
    refine ⟨⟨fun _ => all, fun _ => ⟨_, rfl⟩⟩, fun e => ⟨fun fails => (nomatch fails), ?_⟩, ?_⟩
    · rintro ⟨before, raw, after, split, -, refuses⟩
      exact absurd (all raw (by simp [split])) refuses.nowhere
    · rintro files ⟨⟩
      have eq : addNew exclude [] offered.flatten =
          (offered.flatten.filter fun p => !isExcluded p exclude).eraseDups := by
        simp [addNew_eq]
      have mem : ∀ q, q ∈ addNew exclude [] offered.flatten ↔
          isExcluded q exclude = false ∧ ∃ raw ∈ args, fs.Covers raw q := by
        intro q
        rw [eq, List.mem_eraseDups, List.mem_filter, List.mem_flatten, mem_offered each,
          Bool.not_eq_true', and_comm]
      refine ⟨⟨offered, each, eq⟩, by rw [eq]; exact nodup_eraseDups _, mem, ?_⟩
      constructor
      · intro files raw given q covers folder
        by_contra kept
        have file := files q ((mem q).mpr ⟨by simpa using kept, raw, given, covers⟩)
        have notFolder := tree.consistent _ file
        rw [folder] at notFolder
        cases notFolder
      · intro excluded q collected
        obtain ⟨kept, raw, given, covers⟩ := (mem q).mp collected
        refine (covers.there tree).resolve_left fun folder => ?_
        rw [excluded raw given q covers folder] at kept
        cases kept
  · rw [out]
    have stuck : ¬ ∀ raw ∈ args, fs.Reaches raw := fun all =>
      refuses.nowhere (all raw (by simp [split]))
    refine ⟨⟨fun ⟨files, done⟩ => (nomatch done), fun all => absurd all stuck⟩, fun e' => ⟨?_, ?_⟩,
      fun files done => (nomatch done)⟩
    · intro fails
      obtain rfl := Except.error.inj fails
      exact ⟨before, raw, after, split, all, refuses⟩
    · rintro ⟨before', raw', after', rfl, all', refuses'⟩
      rw [← out, collect_of_refuses exclude all' refuses']

/-- A tree in which a folder has the name of a source file, seen from a folder above it. -/
def nested : FileSystem where
  files := ⟨[(["w", "d", "x.java", "A.java"], [])]⟩
  here := ["w"]

theorem isTree_nested : nested.IsTree := by
  refine ⟨fun place file => ?_, by decide⟩
  have only : place = ["w", "d", "x.java", "A.java"] := by
    have found : (nested.files.get? place).isSome = true := file
    obtain ⟨data, get⟩ := Option.isSome_iff_exists.mp found
    obtain ⟨rfl, -⟩ := Prod.mk.inj (List.mem_singleton.mp (Table.mem_entries_of_get? get))
    rfl
  subst only
  decide

/-- Three ways to name the folder `d`, each with the path that it is read as. -/
def namesOfD : List (String × Path) :=
  [("d", ⟨"", ["d"]⟩), ("/w/d", ⟨"/", ["w", "d"]⟩), ("../w/d", ⟨"", ["..", "w", "d"]⟩)]

/-- The folder with the name of a source file is collected under each name, though it is no file. -/
theorem collectLogged_iff_nested :
    nested.IsTree ∧ ∃ files,
      ((nested.collectLogged (namesOfD.map Prod.fst) []).run []).1 = .ok files ∧
      (∀ n ∈ namesOfD, { n.2 with parts := n.2.parts ++ ["x.java"] } ∈ files) ∧
      ¬ ∀ q ∈ files, nested.isFileAt (q.placeFrom nested.here) = true := by
  obtain ⟨done, -, found⟩ := collectLogged_iff isTree_nested (namesOfD.map Prod.fst) [] []
  have leads : ∀ n ∈ namesOfD, nested.expandHome (Path.ofText n.1) = .ok n.2 ∧
      nested.locate n.2 = .ok ["w", "d"] := by
    have leads : ∀ n ∈ namesOfD, (nested.expandHome (Path.ofText n.1)).toOption = some n.2 ∧
        (nested.locate n.2).toOption = some ["w", "d"] := by decide +kernel
    exact fun n given => (leads n given).imp eq_ok_of_toOption eq_ok_of_toOption
  have covers : ∀ n ∈ namesOfD,
      nested.Covers n.1 { n.2 with parts := n.2.parts ++ ["x.java"] } := by
    intro n given
    refine ⟨_, _, (leads n given).1, (leads n given).2, ?_⟩
    rw [if_pos (by decide)]
    exact ⟨["x.java"], ⟨by decide, by decide +kernel, by decide⟩, rfl⟩
  obtain ⟨files, out⟩ := done.mpr (List.forall_mem_map.mpr fun n given =>
    ⟨_, _, (leads n given).1, (leads n given).2⟩)
  obtain ⟨-, -, mem, regular⟩ := found files out
  refine ⟨isTree_nested, files, out, fun n given => ?_, fun all => ?_⟩
  · refine (mem _).mpr ⟨?_, n.1, List.mem_map_of_mem given, covers n given⟩
    rfl
  · have excluded := regular.mp all "d" List.mem_cons_self _ (covers _ List.mem_cons_self)
      (by decide)
    cases excluded

end FileSystem

end CauseLint
