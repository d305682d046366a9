import CauseLint.Proofs.Files.Places

/-!
# Files that are written again

A file that can be read can be written again, as long as no place is both a file and a folder. After
that the same paths lead to the same places, and only the one file has changed.

Results:

* `FileSystem.exists_of_read`: writing to a file that can be read.
-/

namespace CauseLint.FileSystem

variable {fs : FileSystem} {place : List String} {data : Bytes}

/-- No place is both a file and a folder. -/
def Consistent (fs : FileSystem) : Prop :=
  ∀ place, fs.isFileAt place = true → fs.isFolderAt place = false

/-! ## Folders -/

theorem isFolderAt_dropLast (h : fs.isFolderAt place = true) :
    fs.isFolderAt place.dropLast = true := by
  unfold isFolderAt at *
  simp only [Bool.or_eq_true, List.any_eq_true, Bool.and_eq_true, decide_eq_true_eq,
    List.isPrefixOf_iff_prefix, List.isEmpty_iff] at *
  rcases h with (rfl | ⟨folder, hfolder, hbelow⟩) | ⟨file, hfile, hbelow, hlength⟩
  · exact .inl (.inl rfl)
  · exact .inl (.inr ⟨folder, hfolder, (List.dropLast_prefix place).trans hbelow⟩)
  · refine .inr ⟨file, hfile, (List.dropLast_prefix place).trans hbelow, ?_⟩
    rw [List.length_dropLast]
    omega

/-- Paths start from folders. -/
theorem isFolderAt_start (fs : FileSystem) (p : Path) : fs.isFolderAt (fs.start p) = true := by
  unfold start
  split
  · simp [isFolderAt, namedFolders]
  · rfl

/-- Resolving more components goes on from where the first ones lead. -/
theorem walk_append (fs : FileSystem) (here xs ys : List String) :
    fs.walk here (xs ++ ys) = (fs.walk here xs).bind fun there => fs.walk there ys := by
  induction xs generalizing here with
  | nil => rfl
  | cons c xs ih =>
    rw [List.cons_append, walk, walk]
    split
    · rfl
    split
    · exact ih _
    split
    · rfl
    · dsimp only
      split
      · exact ih _
      · rfl

/-- What one component leads to, where it leads to a file. -/
theorem of_walk_file (hfs : fs.Consistent) {folder : List String} {name : String}
    (h : fs.walk folder [name] = .ok place) (hfile : fs.isFileAt place = true) :
    fs.isFolderAt folder = true ∧ name ≠ ".." ∧ ¬ name.utf8ByteSize > maxComponent ∧
      place = folder ++ [name] := by
  rw [walk] at h
  split at h
  · cases h
  rename_i hfolder
  rw [Bool.not_eq_true', Bool.not_eq_false] at hfolder
  split at h
  · obtain rfl : folder.dropLast = place := Except.ok.inj h
    cases (isFolderAt_dropLast hfolder).symm.trans (hfs _ hfile)
  rename_i hup
  split at h
  · cases h
  rename_i hsize
  dsimp only at h
  split at h
  · exact ⟨hfolder, hup, hsize, (Except.ok.inj h).symm⟩
  · cases h

/-! ## The same places -/

theorem walk_congr {fs' : FileSystem} (hfolder : fs'.isFolderAt = fs.isFolderAt)
    (hfile : fs'.isFileAt = fs.isFileAt) (here parts : List String) :
    fs'.walk here parts = fs.walk here parts := by
  induction parts generalizing here with
  | nil => rfl
  | cons c parts ih => simp only [walk, hfolder, hfile, ih]

/-- The file system after a file was written. -/
def replace (fs : FileSystem) (place : List String) (data : Bytes) : FileSystem :=
  { fs with files := fs.files.insert place data }

section

variable (h : fs.isFileAt place = true) (data : Bytes)

include h

theorem isFolderAt_replace : (fs.replace place data).isFolderAt = fs.isFolderAt := by
  obtain ⟨found, hfound⟩ := Option.isSome_iff_exists.1 h
  have hmem : fs.files.keys.elem place = true :=
    List.elem_iff.2 (List.mem_map.2 ⟨_, Table.mem_entries_of_get? hfound, rfl⟩)
  have hkeys : (fs.files.insert place data).keys = fs.files.keys := by
    rw [Table.keys_insert, if_pos hmem]
  funext other
  unfold isFolderAt namedFolders replace
  rw [hkeys]

theorem isFileAt_replace : (fs.replace place data).isFileAt = fs.isFileAt := by
  funext other
  show ((fs.files.insert place data).get? other).isSome = _
  rw [Table.get?_insert]
  split
  · rename_i heq
    rw [eq_of_beq heq, h]
    rfl
  · rfl

theorem locate_replace (p : Path) : (fs.replace place data).locate p = fs.locate p := by
  unfold locate
  rw [walk_congr (isFolderAt_replace h data) (isFileAt_replace h data)]
  rfl

theorem Consistent.replace (hfs : fs.Consistent) : (fs.replace place data).Consistent := by
  intro other
  rw [isFileAt_replace h, isFolderAt_replace h]
  exact hfs other

/-- Only what the place holds is read anew. -/
theorem read_replace {q : Path} {found : Bytes} (hread : fs.read q = .ok found) :
    (fs.replace place data).read q =
      .ok (if q.placeFrom fs.here = place then data else found) := by
  obtain ⟨there, hlocate, -⟩ := exists_of_bind_eq_ok hread
  have hfound := get?_of_read hread
  obtain rfl := eq_place_of_locate hlocate
  have hafter : (fs.replace place data).files.get? (q.placeFrom fs.here) =
      if q.placeFrom fs.here == place then some data else fs.files.get? (q.placeFrom fs.here) :=
    Table.get?_insert ..
  unfold read
  rw [locate_replace h, hlocate]
  dsimp only [bind, Except.bind]
  rw [hafter, hfound]
  by_cases heq : q.placeFrom fs.here = place
  · rw [if_pos (beq_iff_eq.2 heq), if_pos heq]
  · rw [if_neg fun h => heq (beq_iff_eq.1 h), if_neg heq]

end

/-! ## Writing -/

/-- A file that can be read can be written. -/
theorem write_of_read (hfs : fs.Consistent) {p : Path} (h : fs.read p = .ok data) (after : Bytes) :
    fs.isFileAt (p.placeFrom fs.here) = true ∧
      fs.write p after = .ok (fs.replace (p.placeFrom fs.here) after) := by
  have hfile : fs.isFileAt (p.placeFrom fs.here) = true :=
    Option.isSome_iff_exists.2 ⟨data, get?_of_read h⟩
  refine ⟨hfile, ?_⟩
  obtain ⟨there, hlocate, -⟩ := exists_of_bind_eq_ok h
  obtain rfl := eq_place_of_locate hlocate
  obtain ⟨_, hcheck, hwalk⟩ := exists_of_bind_eq_ok hlocate
  have hwalk := eq_of_refuse hwalk
  rcases List.eq_nil_or_concat p.parts with hnil | ⟨parts, name, hparts⟩
  · have hplace : p.placeFrom fs.here = fs.start p := by rw [Path.placeFrom, hnil]; rfl
    rw [hplace] at hfile
    cases (hfs _ hfile).symm.trans (fs.isFolderAt_start p)
  · rw [List.concat_eq_append] at hparts
    rw [hparts, walk_append] at hwalk
    obtain ⟨folder, hfolder, hname⟩ := exists_of_bind_eq_ok hwalk
    obtain ⟨hisFolder, hup, hsize, hplace⟩ := of_walk_file hfs hname hfile
    have hplaceIn : fs.placeIn folder name = .ok (p.placeFrom fs.here) := by
      rw [placeIn, hisFolder, ← hplace, hfs _ hfile]
      simp only [Bool.not_true, Bool.false_eq_true, if_false, hup, hsize]
    unfold write
    rw [hcheck, hparts, List.getLast?_concat, List.dropLast_concat, hfolder]
    show (refuse p (fs.placeIn folder name)).bind _ = _
    rw [hplaceIn]
    rfl

end CauseLint.FileSystem
