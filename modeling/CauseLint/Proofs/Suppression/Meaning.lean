import CauseLint.Proofs.Suppression.Markers
import CauseLint.Proofs.Syntax.Traversal

/-!
# What suppressions mean

A collection of suppressions is told one thing after another: to read a unit, or to suppress an
identifier in files of a pattern or everywhere. Each of these requests covers some findings by
itself, and the collection suppresses a finding exactly when one of them does. So neither the order
of the requests nor their repetition matters, and nothing that is told later takes a suppression
back.

Results:

* `Suppressions.suppresses_readNode`, `Suppressions.suppresses_load`: what a node and a unit add.
* `Suppressions.suppresses_meet`: what one request adds.
* `Suppressions.suppresses_iff_covers`: what a collection means.
-/

namespace CauseLint

/-- The line in which a node begins. -/
def SourceUnit.firstLine (u : SourceUnit) (c : Cursor) : Nat := rowOf u.source c.start + 1

/-- The line in which a node ends. -/
def SourceUnit.lastLine (u : SourceUnit) (c : Cursor) : Nat := rowOf u.source c.stop + 1

namespace Suppressions

/-! ## Requests -/

/-- What a collection of suppressions can be told. -/
inductive Request where
  /-- Read the comments and annotations of a unit. -/
  | unit (u : SourceUnit)
  /-- Suppress an identifier in the files of a pattern. -/
  | file (id pattern : String)
  /-- Suppress an identifier everywhere. -/
  | everywhere (id : String)

/-- Follow a request. -/
def meet (s : Suppressions) : Request → Suppressions
  | .unit u => s.load u
  | .file id pattern => s.addFile id pattern
  | .everywhere id => s.addGlobal id

/-- The collection behind several requests. -/
def ofRequests (rs : List Request) : Suppressions := rs.foldl meet {}

/-- A comment on the line of a finding or on the line before lists its identifier, lists all of
them, or lists none behind its marker. -/
structure CommentCovers (u : SourceUnit) (c : Cursor) (d : Diagnostic) : Prop where
  comment : c.isComment = true
  listed : ∃ ids, Marker.Lists (u.textOf c) ids ∧ (d.errorId ∈ ids ∨ anyId ∈ ids ∨ ids = [])
  line : (u.firstLine c : Int) = d.location.line ∨ (u.firstLine c : Int) = d.location.line - 1

/-- An annotation names the identifier of a finding, or all of them, in a text among its arguments,
and the declaration that it belongs to reaches over the line of the finding. -/
structure AnnotationCovers (u : SourceUnit) (c : Cursor) (d : Diagnostic) : Prop where
  kind : c.kind = "annotation"
  suppressing : u.textOf? (c.childByField? "name") ∈ suppressingNames
  listed : ∃ args literal, c.childByField? "arguments" = some args ∧ args.Below literal ∧
    literal.kind = "string_literal" ∧
      stripQuotes (u.textOf literal) ∈ [d.errorId, anyId, "all"]
  lines : ∃ target, annotated? c = some target ∧ (u.firstLine target : Int) ≤ d.location.line ∧
    d.location.line ≤ u.lastLine target

/-- A request covers a finding. -/
inductive Request.Covers (d : Diagnostic) : Request → Prop
  | everywhere {id : String} : id = d.errorId ∨ id = anyId → Covers d (.everywhere id)
  | commented {u : SourceUnit} {c : Cursor} : u.path = d.location.file → u.root.Below c →
      CommentCovers u c d → Covers d (.unit u)
  | annotated {u : SourceUnit} {c : Cursor} : u.path = d.location.file → u.root.Below c →
      AnnotationCovers u c d → Covers d (.unit u)
  | file {id pattern : String} : id = d.errorId ∨ id = anyId →
      pattern = d.location.file ∨ pattern.toList <:+ d.location.file.toList ∨
        Glob.isMatch pattern d.location.file = true → Covers d (.file id pattern)

variable {s : Suppressions} {u : SourceUnit} {c : Cursor} {d : Diagnostic}

/-! ## Sets of identifiers -/

theorem mem_addAll_iff {old new : List String} {id : String} :
    id ∈ addAll old new ↔ id ∈ old ∨ id ∈ new := by
  unfold addAll
  induction new generalizing old with
  | nil => simp
  | cons first new ih =>
    rw [List.foldl_cons, ih, List.mem_cons]
    split
    · rename_i hmem
      rw [List.contains_iff_mem] at hmem
      constructor
      · exact fun h => h.imp_right .inr
      · rintro (h | rfl | h)
        · exact .inl h
        · exact .inl hmem
        · exact .inr h
    · rw [List.mem_append, List.mem_singleton, or_assoc]

theorem covers_addAll_iff {old new : List String} {id : String} :
    covers (addAll old new) id = true ↔ covers old id = true ∨ covers new id = true := by
  simp only [covers_iff, mem_addAll_iff]
  exact or_or_or_comm

theorem covers_singleton_iff {id other : String} :
    covers [other] id = true ↔ other = id ∨ other = anyId := by
  rw [covers_iff, List.mem_singleton, List.mem_singleton, eq_comm, @eq_comm _ anyId]

/-! ## Stores -/

theorem suppresses_iff : s.suppresses d = true ↔
    covers s.everywhere d.errorId = true ∨
    (s.onLine d.location.file d.location.line d.errorId = true ∨
      s.onLine d.location.file (d.location.line - 1) d.errorId = true) ∨
    s.scopes.any (inScope · d.location.file d.location.line d.errorId) = true ∨
    s.files.entries.any (fun entry =>
      covers entry.2 d.errorId && patternNames entry.1 d.location.file) = true := by
  simp only [suppresses, Bool.or_eq_true, or_assoc]

/-- What a comment adds to what holds on a line. -/
theorem onLine_update {file other : String} {n : Nat} {line : Int} {ids : List String}
    {id : String} :
    ({ s with inline := s.inline.update (other, n) [] (addAll · ids) } : Suppressions).onLine
        file line id = true ↔
      s.onLine file line id = true ∨ other = file ∧ (n : Int) = line ∧ covers ids id = true := by
  unfold onLine Table.update
  dsimp only
  rw [Table.get?_insert, Bool.and_eq_true, Bool.and_eq_true, decide_eq_true_eq]
  split
  · rename_i hplace
    obtain ⟨rfl, rfl⟩ := Prod.mk.inj (eq_of_beq hplace)
    rw [Option.getD_some, covers_addAll_iff, and_or_left]
    refine or_congr_right ?_
    constructor
    · exact fun ⟨hline, hids⟩ => ⟨rfl, Int.toNat_of_nonneg hline, hids⟩
    · exact fun ⟨_, hline, hids⟩ => ⟨by omega, hids⟩
  · rename_i hplace
    refine (or_iff_left ?_).symm
    rintro ⟨rfl, rfl, -⟩
    exact hplace (beq_self_eq_true _)

/-- What a request about the files of a pattern adds. An entry that the pattern has already is
replaced by one that covers more. -/
theorem any_put {id : String} {file pattern : String} {ids : List String}
    (entries : List (String × List String)) :
    (Table.put pattern (addAll ((entries.lookup pattern).getD []) ids) entries).any
        (fun entry => covers entry.2 id && patternNames entry.1 file) = true ↔
      entries.any (fun entry => covers entry.2 id && patternNames entry.1 file) = true ∨
        covers ids id = true ∧ patternNames pattern file = true := by
  induction entries with
  | nil =>
    rw [Table.put, List.lookup_nil, Option.getD_none, List.any_cons, List.any_nil, Bool.or_false,
      Bool.and_eq_true, covers_addAll_iff, or_iff_right (by simp [covers_iff])]
    exact (or_iff_right Bool.false_ne_true).symm
  | cons entry entries ih =>
    obtain ⟨key, old⟩ := entry
    cases hkey : pattern == key with
    | true =>
      obtain rfl := eq_of_beq hkey
      rw [Table.put, if_pos hkey, List.lookup_cons_self, Option.getD_some, List.any_cons,
        List.any_cons, Bool.or_eq_true, Bool.or_eq_true, Bool.and_eq_true, Bool.and_eq_true,
        covers_addAll_iff, or_and_right]
      exact or_right_comm
    | false =>
      rw [Table.put, if_neg (by simp [hkey]), List.lookup_cons, hkey, List.any_cons, List.any_cons,
        Bool.or_eq_true, Bool.or_eq_true, ih, or_assoc]

/-- A comment that is read adds what it covers on its line and on the next one. -/
theorem suppresses_inline {file : String} {n : Nat} {ids : List String} :
    ({ s with inline := s.inline.update (file, n) [] (addAll · ids) } : Suppressions).suppresses d =
        true ↔
      s.suppresses d = true ∨ file = d.location.file ∧ covers ids d.errorId = true ∧
        ((n : Int) = d.location.line ∨ (n : Int) = d.location.line - 1) := by
  rw [suppresses_iff, suppresses_iff, onLine_update, onLine_update]
  constructor
  · rintro (h | ((h | ⟨hfile, hline, hids⟩) | h | ⟨hfile, hline, hids⟩) | h)
    · exact .inl (.inl h)
    · exact .inl (.inr (.inl (.inl h)))
    · exact .inr ⟨hfile, hids, .inl hline⟩
    · exact .inl (.inr (.inl (.inr h)))
    · exact .inr ⟨hfile, hids, .inr hline⟩
    · exact .inl (.inr (.inr h))
  · rintro ((h | (h | h) | h) | ⟨hfile, hids, hline | hline⟩)
    · exact .inl h
    · exact .inr (.inl (.inl (.inl h)))
    · exact .inr (.inl (.inr (.inl h)))
    · exact .inr (.inr h)
    · exact .inr (.inl (.inl (.inr ⟨hfile, hline, hids⟩)))
    · exact .inr (.inl (.inr (.inr ⟨hfile, hline, hids⟩)))

/-- A scope that is opened adds what it holds. -/
theorem suppresses_scopes {scope : Scope} :
    ({ s with scopes := s.scopes ++ [scope] } : Suppressions).suppresses d = true ↔
      s.suppresses d = true ∨
        inScope scope d.location.file d.location.line d.errorId = true := by
  rw [suppresses_iff, suppresses_iff]
  dsimp only
  rw [List.any_append, Bool.or_eq_true, List.any_cons, List.any_nil, Bool.or_false]
  constructor
  · rintro (h | h | (h | h) | h)
    · exact .inl (.inl h)
    · exact .inl (.inr (.inl h))
    · exact .inl (.inr (.inr (.inl h)))
    · exact .inr h
    · exact .inl (.inr (.inr (.inr h)))
  · rintro ((h | h | h | h) | h)
    · exact .inl h
    · exact .inr (.inl h)
    · exact .inr (.inr (.inl (.inl h)))
    · exact .inr (.inr (.inr h))
    · exact .inr (.inr (.inl (.inr h)))

/-- A pattern names a file literally, as the end of its name, or as a glob. -/
theorem patternNames_iff {pattern file : String} : patternNames pattern file = true ↔
    pattern = file ∨ pattern.toList <:+ file.toList ∨ Glob.isMatch pattern file = true := by
  rw [patternNames, Bool.or_eq_true, List.isSuffixOf_iff_suffix]
  refine (or_iff_right_of_imp ?_).symm
  rintro rfl
  exact .inl (List.suffix_refl _)

theorem suppresses_addFile {id pattern : String} : (s.addFile id pattern).suppresses d = true ↔
    s.suppresses d = true ∨ Request.Covers d (.file id pattern) := by
  have hcovers : Request.Covers d (.file id pattern) ↔
      covers [id] d.errorId = true ∧ patternNames pattern d.location.file = true := by
    rw [covers_singleton_iff, patternNames_iff]
    refine ⟨fun h => ?_, fun ⟨hid, hnames⟩ => .file hid hnames⟩
    cases h with
    | file hid hnames => exact ⟨hid, hnames⟩
  have hany : (s.addFile id pattern).files.entries.any (fun entry =>
      covers entry.2 d.errorId && patternNames entry.1 d.location.file) = true ↔ _ :=
    any_put s.files.entries
  rw [hcovers, suppresses_iff, suppresses_iff, hany, ← or_assoc, ← or_assoc, ← or_assoc]
  simp only [or_assoc]
  exact Iff.rfl

theorem suppresses_addGlobal {id : String} : (s.addGlobal id).suppresses d = true ↔
    s.suppresses d = true ∨ Request.Covers d (.everywhere id) := by
  have hcovers : Request.Covers d (.everywhere id) ↔ covers [id] d.errorId = true := by
    rw [covers_singleton_iff]
    refine ⟨fun h => ?_, .everywhere⟩
    cases h with
    | everywhere hid => exact hid
  have hall : covers (s.addGlobal id).everywhere d.errorId = true ↔ _ := covers_addAll_iff
  rw [hcovers, suppresses_iff, suppresses_iff, hall]
  exact or_right_comm

/-! ## Annotations -/

theorem covers_annotationIds_iff {id : String} : covers (annotationIds u c) id = true ↔
    ∃ args literal, c.childByField? "arguments" = some args ∧ args.Below literal ∧
      literal.kind = "string_literal" ∧ stripQuotes (u.textOf literal) ∈ [id, anyId, "all"] := by
  unfold annotationIds
  cases hargs : c.childByField? "arguments" with
  | none =>
    refine iff_of_false (by simp [addAll, covers_iff]) ?_
    rintro ⟨_, _, h, -⟩
    cases h
  | some args =>
    dsimp only [Option.map_some, Option.getD_some]
    have hlisted : ∀ text, text ∈ (args.preorder.filter (·.kind = "string_literal")).map
        (fun c => stripQuotes (u.textOf c)) ↔ ∃ literal, args.Below literal ∧
          literal.kind = "string_literal" ∧ stripQuotes (u.textOf literal) = text := by
      intro text
      simp [Cursor.mem_preorder_iff, and_assoc]
    generalize (args.preorder.filter (·.kind = "string_literal")).map
      (fun c => stripQuotes (u.textOf c)) = listed at hlisted
    have hcovers : covers (addAll [] (if listed.contains "all" then listed ++ [anyId] else listed))
        id = true ↔ ∃ text ∈ listed, text ∈ [id, anyId, "all"] := by
      rw [covers_addAll_iff, covers_iff, covers_iff]
      split
      · rename_i hall
        have hall := List.contains_iff_mem.1 hall
        exact iff_of_true (.inr (.inr (by simp))) ⟨"all", hall, by simp⟩
      · rename_i hall
        rw [List.contains_iff_mem] at hall
        constructor
        · rintro ((h | h) | h | h)
          · cases h
          · cases h
          · exact ⟨id, h, by simp⟩
          · exact ⟨anyId, h, by simp⟩
        · rintro ⟨text, htext, hid⟩
          rcases List.mem_cons.1 hid with rfl | hid
          · exact .inr (.inl htext)
          rcases List.mem_cons.1 hid with rfl | hid
          · exact .inr (.inr htext)
          · rw [List.mem_singleton.1 hid] at htext
            exact absurd htext hall
    rw [hcovers]
    constructor
    · rintro ⟨text, htext, hid⟩
      obtain ⟨literal, hbelow, hkind, rfl⟩ := (hlisted text).1 htext
      exact ⟨args, literal, rfl, hbelow, hkind, hid⟩
    · rintro ⟨_, literal, ⟨⟩, hbelow, hkind, hid⟩
      exact ⟨_, (hlisted _).2 ⟨literal, hbelow, hkind, rfl⟩, hid⟩

/-- The scope that an annotation opens suppresses what the annotation covers. -/
theorem scope?_covers_iff (hkind : c.kind = "annotation") :
    (∃ scope, scope? u c = some scope ∧
        inScope scope d.location.file d.location.line d.errorId = true) ↔
      u.path = d.location.file ∧ AnnotationCovers u c d := by
  unfold scope?
  constructor
  · rintro ⟨scope, hscope, hin⟩
    split at hscope
    · rename_i hname
      split at hscope
      · rename_i target first others htarget hids
        obtain rfl := Option.some.inj hscope
        simp only [inScope, Bool.and_eq_true, decide_eq_true_eq] at hin
        obtain ⟨⟨⟨hpath, hfirst⟩, hlast⟩, hcovers⟩ := hin
        rw [← hids] at hcovers
        exact ⟨hpath, hkind, List.contains_iff_mem.1 hname, covers_annotationIds_iff.1 hcovers,
          target, htarget, hfirst, hlast⟩
      · cases hscope
    · cases hscope
  · rintro ⟨hpath, -, hname, hlisted, target, htarget, hfirst, hlast⟩
    have hcovers := covers_annotationIds_iff.2 hlisted
    rw [if_pos (List.contains_iff_mem.2 hname), htarget]
    cases hids : annotationIds u c with
    | nil =>
      rw [hids] at hcovers
      cases hcovers
    | cons first others =>
      rw [hids] at hcovers
      refine ⟨_, rfl, ?_⟩
      simp only [inScope, Bool.and_eq_true, decide_eq_true_eq]
      exact ⟨⟨⟨hpath, hfirst⟩, hlast⟩, hcovers⟩

/-! ## Reading units -/

theorem AnnotationCovers.not_isComment (h : AnnotationCovers u c d) : c.isComment = false := by
  rw [Cursor.isComment, h.kind]
  decide

/-- A comment adds what it covers in its file. -/
theorem suppresses_readNode_of_isComment (hcomment : c.isComment = true) :
    (readNode u s c).suppresses d = true ↔
      s.suppresses d = true ∨ u.path = d.location.file ∧ CommentCovers u c d := by
  have hlisted : (∃ recorded, Marker.ids? (u.textOf c) = some recorded ∧
      covers recorded d.errorId = true) ↔ _ := Marker.covers_ids?_iff
  unfold readNode
  rw [if_pos hcomment]
  cases hids : Marker.ids? (u.textOf c) with
  | none =>
    refine (or_iff_left ?_).symm
    rintro ⟨-, -, hcovers, -⟩
    obtain ⟨recorded, hrecorded, -⟩ := hlisted.2 hcovers
    rw [hids] at hrecorded
    cases hrecorded
  | some recorded =>
    rw [suppresses_inline]
    refine or_congr_right (and_congr_right fun _ => ⟨?_, ?_⟩)
    · exact fun ⟨hcovers, hline⟩ => ⟨hcomment, hlisted.1 ⟨recorded, hids, hcovers⟩, hline⟩
    · rintro ⟨-, hcovers, hline⟩
      obtain ⟨_, hsome, hcovers⟩ := hlisted.2 hcovers
      exact ⟨Option.some.inj (hids.symm.trans hsome) ▸ hcovers, hline⟩

/-- Another node adds what it covers as an annotation in its file. -/
theorem suppresses_readNode_of_not_isComment (hcomment : ¬ c.isComment = true) :
    (readNode u s c).suppresses d = true ↔
      s.suppresses d = true ∨ u.path = d.location.file ∧ AnnotationCovers u c d := by
  unfold readNode
  rw [if_neg hcomment]
  split
  · rename_i hkind
    rw [← scope?_covers_iff hkind]
    cases scope? u c with
    | none =>
      refine (or_iff_left ?_).symm
      rintro ⟨_, h, -⟩
      cases h
    | some scope =>
      rw [suppresses_scopes]
      refine or_congr_right ⟨fun h => ⟨scope, rfl, h⟩, ?_⟩
      rintro ⟨_, ⟨⟩, h⟩
      exact h
  · rename_i hkind
    exact (or_iff_left fun h => hkind h.2.kind).symm

/-- A node adds what it covers as a comment or as an annotation of its file. -/
theorem suppresses_readNode : (readNode u s c).suppresses d = true ↔
    s.suppresses d = true ∨
      u.path = d.location.file ∧ (CommentCovers u c d ∨ AnnotationCovers u c d) := by
  by_cases hcomment : c.isComment = true
  · have hmark : ¬ AnnotationCovers u c d := fun h => by
      rw [h.not_isComment] at hcomment
      cases hcomment
    rw [suppresses_readNode_of_isComment hcomment, or_iff_left hmark]
  · have hnot : ¬ CommentCovers u c d := fun h => hcomment h.comment
    rw [suppresses_readNode_of_not_isComment hcomment, or_iff_right hnot]

/-- A unit adds what its comments and annotations cover. -/
theorem suppresses_load : (s.load u).suppresses d = true ↔
    s.suppresses d = true ∨ Request.Covers d (.unit u) := by
  have hall : ∀ (cs : List Cursor) (s : Suppressions),
      (cs.foldl (readNode u) s).suppresses d = true ↔ s.suppresses d = true ∨
        ∃ c ∈ cs, u.path = d.location.file ∧ (CommentCovers u c d ∨ AnnotationCovers u c d) := by
    intro cs
    induction cs with
    | nil => simp
    | cons c cs ih =>
      intro s
      rw [List.foldl_cons, ih, suppresses_readNode, or_assoc]
      simp only [List.mem_cons, exists_eq_or_imp]
  rw [load, hall]
  refine or_congr_right ⟨?_, ?_⟩
  · rintro ⟨c, hc, hpath, hcovers | hcovers⟩
    · exact .commented hpath (Cursor.mem_preorder_iff.1 hc) hcovers
    · exact .annotated hpath (Cursor.mem_preorder_iff.1 hc) hcovers
  · rintro (_ | ⟨hpath, hbelow, hcovers⟩ | ⟨hpath, hbelow, hcovers⟩)
    · exact ⟨_, Cursor.mem_preorder_iff.2 hbelow, hpath, .inl hcovers⟩
    · exact ⟨_, Cursor.mem_preorder_iff.2 hbelow, hpath, .inr hcovers⟩

/-! ## Following requests -/

/-- A request adds what it covers. -/
theorem suppresses_meet {r : Request} : (s.meet r).suppresses d = true ↔
    s.suppresses d = true ∨ r.Covers d := by
  cases r with
  | unit u => exact suppresses_load
  | file id pattern => exact suppresses_addFile
  | everywhere id => exact suppresses_addGlobal

theorem suppresses_foldl_meet (rs : List Request) : (rs.foldl meet s).suppresses d = true ↔
    s.suppresses d = true ∨ ∃ r ∈ rs, r.Covers d := by
  induction rs generalizing s with
  | nil => simp
  | cons r rs ih =>
    rw [List.foldl_cons, ih, suppresses_meet, or_assoc]
    simp only [List.mem_cons, exists_eq_or_imp]

theorem suppresses_empty : ({} : Suppressions).suppresses d = false := by
  simp [suppresses, onLine, covers, Table.get?]

/-- A collection suppresses a finding exactly when it was told so by a request that covers the
finding: to suppress its identifier or all of them everywhere or in files of a pattern that names
the file, or to read a unit of the file in which a comment or an annotation covers the finding. So
neither the order of the requests nor their repetition matters, and further requests take nothing
back. -/
theorem suppresses_iff_covers (rs : List Request) (d : Diagnostic) :
    ((ofRequests rs).suppresses d = true ↔ ∃ r ∈ rs, r.Covers d) ∧
    (∀ rs', (∀ r, r ∈ rs ↔ r ∈ rs') →
      (ofRequests rs').suppresses d = (ofRequests rs).suppresses d) ∧
    ∀ rs', rs ⊆ rs' → (ofRequests rs).suppresses d = true →
      (ofRequests rs').suppresses d = true := by
  have hmeaning : ∀ rs, (ofRequests rs).suppresses d = true ↔ ∃ r ∈ rs, r.Covers d := by
    intro rs
    rw [ofRequests, suppresses_foldl_meet, suppresses_empty]
    exact or_iff_right Bool.false_ne_true
  refine ⟨hmeaning rs, fun rs' hsame => ?_, fun rs' hmore => ?_⟩
  · rw [Bool.eq_iff_iff, hmeaning, hmeaning]
    simp only [hsame]
  · rw [hmeaning, hmeaning]
    exact fun ⟨r, hr, hcovers⟩ => ⟨r, hmore hr, hcovers⟩

/-- A class behind a comment and below an annotation that suppress different identifiers. -/
def marked : SourceUnit where
  path := "A.java"
  source := Utf8.ofText "// flogger-lint-suppress x\n@SuppressWarnings(\"y\") class A \x7b\x7d"
  tree :=
    .node { kind := "program", start := 0, stop := 60 } [
      .node { kind := "line_comment", start := 0, stop := 26 } [],
      .node { kind := "class_declaration", start := 27, stop := 60 } [
        .node { kind := "modifiers", start := 27, stop := 49 } [
          .node { kind := "annotation", start := 27, stop := 49 } [
            .node { kind := "@", isNamed := false, start := 27, stop := 28 } [],
            .node { kind := "identifier", start := 28, stop := 44, field := some "name" } [],
            .node { kind := "annotation_argument_list", start := 44, stop := 49,
                    field := some "arguments" } [
              .node { kind := "(", isNamed := false, start := 44, stop := 45 } [],
              .node { kind := "string_literal", start := 45, stop := 48 } [],
              .node { kind := ")", isNamed := false, start := 48, stop := 49 } []]]],
        .node { kind := "class", isNamed := false, start := 50, stop := 55 } [],
        .node { kind := "identifier", start := 56, stop := 57, field := some "name" } [],
        .node { kind := "class_body", start := 58, stop := 60, field := some "body" } [
          .node { kind := "\x7b", isNamed := false, start := 58, stop := 59 } [],
          .node { kind := "\x7d", isNamed := false, start := 59, stop := 60 } []]]]

/-- A finding on the line of the class. -/
def onClass (id : String) : Diagnostic where
  errorId := id
  message := ""
  severity := .warning
  location := { file := "A.java", line := 2, column := 1 }

/-- The unit covers `x` by the comment on the line before, `y` by the annotation and nothing else;
`w` is covered in all files of the language. Whether the pattern or the unit comes first, and that
the unit is read twice, makes no difference, and a further unit of the same file takes nothing
back. -/
theorem suppresses_iff_covers_marked :
    let rs := [Request.unit marked, .file "w" "*.java"]
    let more := Request.unit { marked with source := [] } :: rs
    (∃ r ∈ rs, r.Covers (onClass "x")) ∧ (∃ r ∈ rs, r.Covers (onClass "y")) ∧
      (∃ r ∈ rs, r.Covers (onClass "w")) ∧ (¬ ∃ r ∈ rs, r.Covers (onClass "z")) ∧
      (ofRequests [.file "w" "*.java", .unit marked, .unit marked]).suppresses (onClass "z") =
        false ∧
      (ofRequests more).suppresses (onClass "x") = true := by
  intro rs more
  have hevaluated : (ofRequests rs).suppresses (onClass "x") = true ∧
      (ofRequests rs).suppresses (onClass "y") = true ∧
      (ofRequests rs).suppresses (onClass "w") = true ∧
      (ofRequests rs).suppresses (onClass "z") = false := by
    decide +kernel
  obtain ⟨hx, hy, hw, hz⟩ := hevaluated
  have hmeaning := fun id => (suppresses_iff_covers rs (onClass id)).1
  obtain ⟨-, hsame, -⟩ := suppresses_iff_covers rs (onClass "z")
  obtain ⟨-, -, hmore⟩ := suppresses_iff_covers rs (onClass "x")
  refine ⟨(hmeaning "x").1 hx, (hmeaning "y").1 hy, (hmeaning "w").1 hw, fun h => ?_, ?_,
    hmore more (List.subset_cons_self _ _) hx⟩
  · rw [(hmeaning "z").2 h] at hz
    cases hz
  · exact (hsame _ fun r => by simp [rs, or_comm]).trans hz

end Suppressions

end CauseLint
