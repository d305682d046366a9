import CauseLint.Suppression

/-!
# What suppressions say about one file

Whether a finding is suppressed depends on what is known of its file only: on the comments and the
annotations that were read in a unit of that name, and on what holds for files by pattern or for all
of them. Units of other names add nothing to that.

Results:

* `Suppressions.Agree.suppresses`: suppressions that agree on a file treat its findings alike.
* `Suppressions.Agree.load`: reading a unit keeps agreement.
* `Suppressions.agree_load`: reading a unit leaves what is said about other files.
-/

namespace CauseLint

namespace Suppressions

/-- Two collections say the same about a file. -/
structure Agree (s t : Suppressions) (file : String) : Prop where
  everywhere : s.everywhere = t.everywhere
  files : s.files = t.files
  inline : ∀ line, s.inline.get? (file, line) = t.inline.get? (file, line)
  scopes : s.scopes.filter (·.file = file) = t.scopes.filter (·.file = file)

namespace Agree

variable {s t r : Suppressions} {file : String}

theorem refl (s : Suppressions) (file : String) : Agree s s file := ⟨rfl, rfl, fun _ => rfl, rfl⟩

theorem trans (h : Agree s t file) (h' : Agree t r file) : Agree s r file :=
  ⟨h.everywhere.trans h'.everywhere, h.files.trans h'.files,
    fun line => (h.inline line).trans (h'.inline line), h.scopes.trans h'.scopes⟩

theorem onLine (h : Agree s t file) (line : Int) (id : String) :
    s.onLine file line id = t.onLine file line id := by
  rw [Suppressions.onLine, Suppressions.onLine, h.inline]

theorem inScope (h : Agree s t file) (line : Int) (id : String) :
    s.scopes.any (Suppressions.inScope · file line id) =
      t.scopes.any (Suppressions.inScope · file line id) := by
  have hfile : ∀ scopes : List Scope, scopes.any (Suppressions.inScope · file line id) =
      (scopes.filter (·.file = file)).any (Suppressions.inScope · file line id) := by
    intro scopes
    rw [List.any_filter]
    refine congrArg scopes.any ?_
    funext scope
    rw [Suppressions.inScope]
    cases decide (scope.file = file) <;> simp
  rw [hfile s.scopes, hfile t.scopes, h.scopes]

/-- Suppressions that agree on a file treat its findings alike. -/
theorem suppresses {d : Diagnostic} (h : Agree s t d.location.file) :
    s.suppresses d = t.suppresses d := by
  unfold Suppressions.suppresses
  rw [h.everywhere, h.files, h.onLine, h.onLine, h.inScope]

theorem keep (h : Agree s t file) {ds : List Diagnostic} (hds : ∀ d ∈ ds, d.location.file = file) :
    s.keep ds = t.keep ds := by
  refine List.filter_congr fun d hd => ?_
  rw [suppresses (hds d hd ▸ h)]

end Agree

/-! ## Reading units -/

theorem file_of_scope? {u : SourceUnit} {mark : Cursor} {scope : Scope}
    (h : scope? u mark = some scope) : scope.file = u.path := by
  unfold scope? at h
  split at h
  · split at h
    · obtain rfl := Option.some.inj h
      rfl
    · cases h
  · cases h

variable {s t : Suppressions} {file : String}

/-- One node that is read keeps agreement. -/
theorem Agree.readNode (h : Agree s t file) (u : SourceUnit) (c : Cursor) :
    Agree (readNode u s c) (readNode u t c) file := by
  unfold Suppressions.readNode
  split
  · split
    · refine ⟨h.everywhere, h.files, fun line => ?_, h.scopes⟩
      dsimp only [Table.update]
      rw [Table.get?_insert, Table.get?_insert]
      split
      · rename_i hplace
        rw [← eq_of_beq hplace, h.inline line]
      · exact h.inline line
    · exact h
  · split
    · split
      · refine ⟨h.everywhere, h.files, h.inline, ?_⟩
        dsimp only
        rw [List.filter_append, List.filter_append, h.scopes]
      · exact h
    · exact h

/-- One node that is read leaves what is said about other files. -/
theorem agree_readNode {u : SourceUnit} (hpath : u.path ≠ file) (s : Suppressions) (c : Cursor) :
    Agree s (readNode u s c) file := by
  unfold Suppressions.readNode
  split
  · split
    · refine ⟨rfl, rfl, fun line => ?_, rfl⟩
      have hplace : ((file, line) == (u.path, rowOf u.source c.start + 1)) = false :=
        beq_eq_false_iff_ne.2 fun heq => hpath (congrArg Prod.fst heq).symm
      dsimp only [Table.update]
      rw [Table.get?_insert, hplace]
      rfl
    · exact .refl s file
  · split
    · split
      · rename_i scope hscope
        refine ⟨rfl, rfl, fun _ => rfl, ?_⟩
        have hnone : [scope].filter (·.file = file) = [] := by
          rw [List.filter_cons_of_neg (by simpa [file_of_scope? hscope] using hpath)]
          rfl
        dsimp only
        rw [List.filter_append, hnone, List.append_nil]
      · exact .refl s file
    · exact .refl s file

/-- Reading a unit keeps agreement. -/
theorem Agree.load (h : Agree s t file) (u : SourceUnit) : Agree (s.load u) (t.load u) file := by
  have hall : ∀ (cs : List Cursor) {s t : Suppressions}, Agree s t file →
      Agree (cs.foldl (Suppressions.readNode u) s) (cs.foldl (Suppressions.readNode u) t) file := by
    intro cs
    induction cs with
    | nil => exact fun h => h
    | cons c cs ih => exact fun h => ih (h.readNode u c)
  exact hall _ h

/-- Reading a unit leaves what is said about files of other names. -/
theorem agree_load {u : SourceUnit} (hpath : u.path ≠ file) (s : Suppressions) :
    Agree s (s.load u) file := by
  have hall : ∀ (cs : List Cursor) (s : Suppressions),
      Agree s (cs.foldl (Suppressions.readNode u) s) file := by
    intro cs
    induction cs with
    | nil => exact fun s => .refl s file
    | cons c cs ih => exact fun s => (agree_readNode hpath s c).trans (ih _)
  exact hall _ s

end Suppressions

end CauseLint
