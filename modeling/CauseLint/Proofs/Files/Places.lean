import CauseLint.Files.FileSystem
import CauseLint.Proofs.Effects
import Mathlib.Data.List.Basic

/-!
# Where paths lead

A path is resolved component by component in a file system, but the place it leads to, if it leads
anywhere, can be told from the path and the current folder alone: each `..` takes back the component
before it. So a path means the same place before and after files are written, and two paths reach one
file exactly when their places are equal.

Results:

* `FileSystem.eq_place_of_locate`: a path that leads anywhere leads to its place.
* `FileSystem.get?_of_read`, `FileSystem.eq_of_write`: what is read and written lies there.
* `FileSystem.exists_of_read_error`: why a file cannot be read.
-/

namespace CauseLint

/-- The place that some components lead to from a place. -/
def Path.follow (here : List String) (parts : List String) : List String :=
  parts.foldl (fun here c => if c = ".." then here.dropLast else here ++ [c]) here

/-- The place that a path leads to from a folder, if it leads anywhere. -/
def Path.placeFrom (here : List String) (p : Path) : List String :=
  Path.follow (if p.root = "" then here else []) p.parts

/-- The place that the text of a path leads to from a folder. -/
def placeFrom (here : List String) (file : String) : List String := (Path.ofText file).placeFrom here

theorem Path.follow_concat (here parts : List String) {name : String} (h : name ≠ "..") :
    follow here (parts ++ [name]) = follow here parts ++ [name] := by
  rw [follow, List.foldl_append, List.foldl_cons, List.foldl_nil, if_neg h]
  rfl

namespace FileSystem

variable {fs : FileSystem}

theorem eq_follow_of_walk {here parts place : List String} (h : fs.walk here parts = .ok place) :
    place = Path.follow here parts := by
  induction parts generalizing here with
  | nil => exact (Except.ok.inj h).symm
  | cons c rest ih =>
    rw [walk] at h
    rw [Path.follow, List.foldl_cons]
    split at h
    · cases h
    split at h
    · rename_i hup
      rw [if_pos hup]
      exact ih h
    · rename_i hup
      rw [if_neg hup]
      split at h
      · cases h
      · dsimp only at h
        split at h
        · exact ih h
        · cases h

theorem eq_of_refuse {α : Type} {p : Path} {x : Except FileTrouble α} {a : α}
    (h : refuse p x = .ok a) : x = .ok a := by
  cases x with
  | ok b => rw [Except.ok.inj h]
  | error t => cases h

/-- A path that leads anywhere leads to its place. -/
theorem eq_place_of_locate {p : Path} {place : List String} (h : fs.locate p = .ok place) :
    place = p.placeFrom fs.here := by
  obtain ⟨-, -, hwalk⟩ := exists_of_bind_eq_ok h
  exact eq_follow_of_walk (eq_of_refuse hwalk)

/-- What is read under a path is the file at its place. -/
theorem get?_of_read {p : Path} {data : Bytes} (h : fs.read p = .ok data) :
    fs.files.get? (p.placeFrom fs.here) = some data := by
  obtain ⟨place, hlocate, hget⟩ := exists_of_bind_eq_ok h
  obtain rfl := eq_place_of_locate hlocate
  split at hget
  · rename_i found hfound
    rw [hfound, Except.ok.inj hget]
  · cases hget

theorem eq_of_placeIn {folder place : List String} {name : String}
    (h : fs.placeIn folder name = .ok place) : name ≠ ".." ∧ place = folder ++ [name] := by
  unfold placeIn at h
  split at h
  · cases h
  split at h
  · cases h
  rename_i hup
  split at h
  · cases h
  split at h
  · cases h
  · exact ⟨hup, (Except.ok.inj h).symm⟩

/-- Writing under a path puts the file at its place. -/
theorem eq_of_write {p : Path} {data : Bytes} {after : FileSystem}
    (h : fs.write p data = .ok after) :
    after = { fs with files := fs.files.insert (p.placeFrom fs.here) data } := by
  obtain ⟨-, -, h⟩ := exists_of_bind_eq_ok h
  split at h
  · cases h
  · rename_i name hname
    obtain ⟨folder, hfolder, h⟩ := exists_of_bind_eq_ok h
    obtain ⟨place, hplace, h⟩ := exists_of_bind_eq_ok h
    obtain ⟨hup, rfl⟩ := eq_of_placeIn (eq_of_refuse hplace)
    obtain rfl := eq_follow_of_walk (eq_of_refuse hfolder)
    rw [Path.placeFrom, ← List.dropLast_append_getLast? name hname, Path.follow_concat _ _ hup]
    exact (Except.ok.inj h).symm

end FileSystem

/-! ## Why a file cannot be read -/

theorem mem_of_mem_splitOnP {α : Type} {p : α → Bool} {xs l : List α} {a : α}
    (h : l ∈ xs.splitOnP p) (ha : a ∈ l) : a ∈ xs := by
  induction xs generalizing l with
  | nil =>
    rw [List.splitOnP_nil, List.mem_singleton] at h
    subst h
    cases ha
  | cons x xs ih =>
    rw [List.splitOnP_cons_eq_if_modifyHead] at h
    split at h
    · rcases List.mem_cons.1 h with rfl | h
      · cases ha
      · exact List.mem_cons_of_mem x (ih h ha)
    · cases hsplit : xs.splitOnP p with
      | nil => exact absurd hsplit (List.splitOnP_ne_nil p xs)
      | cons first rest =>
        rw [hsplit] at h ih
        rcases List.mem_cons.1 h with rfl | h
        · rcases List.mem_cons.1 ha with rfl | ha
          · exact List.mem_cons_self
          · exact List.mem_cons_of_mem x (ih List.mem_cons_self ha)
        · exact List.mem_cons_of_mem x (ih (List.mem_cons_of_mem first h) ha)

/-- The components of a path hold characters of its text only. -/
theorem Path.mem_of_mem_parts {s name : String} {c : Char} (h : name ∈ (ofText s).parts)
    (hc : c ∈ name.toList) : c ∈ s.toList := by
  obtain ⟨l, hl, rfl⟩ := List.mem_map.1 (List.mem_filter.1 h).1
  rw [String.toList_ofList] at hc
  exact mem_of_mem_splitOnP hl hc

namespace FileSystem

variable {fs : FileSystem}

/-- The operating system refuses to read a path, unless the path holds the character zero. -/
theorem exists_of_read_error {file : String} (hzero : '\x00' ∉ file.toList) {e : Abort}
    (h : fs.read (Path.ofText file) = .error e) : ∃ refusal, e = .file refusal := by
  have hparts : ((Path.ofText file).parts.any (·.toList.contains '\x00')) = false := by
    rw [List.any_eq_false]
    intro name hname hc
    exact hzero (Path.mem_of_mem_parts hname (List.contains_iff_mem.1 hc))
  unfold read locate check at h
  rw [hparts, if_neg Bool.false_ne_true] at h
  split at h
  · exact ⟨_, (Except.error.inj h).symm⟩
  cases hwalk : fs.walk (fs.start (Path.ofText file)) (Path.ofText file).parts with
  | error t =>
    rw [hwalk] at h
    exact ⟨_, (Except.error.inj h).symm⟩
  | ok place =>
    rw [hwalk] at h
    dsimp only [refuse, bind, Except.bind] at h
    split at h
    · cases h
    · exact ⟨_, (Except.error.inj h).symm⟩

end FileSystem

end CauseLint
