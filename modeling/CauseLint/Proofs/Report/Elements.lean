import Mathlib.Data.List.Basic

/-!
# Elements of a text

A text with markup is read character by character: characters form tags and text, and the contents
of elements with chosen names are kept, those of the outermost ones only. Results:

* `Scan.Within.of_leavesOpen`: which markup may stand in an element without closing it;
* `Scan.Reads.element`: an element whose content does not close it is kept whole.
-/

namespace CauseLint.Html

/-! ## Reading characters -/

/-- Where a reader stands who keeps the contents of some elements. -/
structure Scan where
  /-- The tag being read, last character first. -/
  tag : Option (List Char) := none
  /-- The element being kept and its content so far, last character first. -/
  inside : Option (List Char × List Char) := none
  /-- The elements kept before it, last one first. -/
  found : List (String × String) := []
deriving DecidableEq

namespace Scan

/-- Come to the end of a tag; `tag` is what stands in it, last character first. -/
def endTag (names : List (List Char)) (s : Scan) (tag : List Char) : Scan :=
  match s.inside with
  | none =>
    if tag.reverse ∈ names then { s with tag := none, inside := some (tag.reverse, []) }
    else { s with tag := none }
  | some (name, content) =>
    if tag.reverse = '/' :: name then
      { tag := none, inside := none
        found := (String.ofList name, String.ofList content.reverse) :: s.found }
    else { s with tag := none, inside := some (name, '>' :: (tag ++ '<' :: content)) }

/-- Read a character. -/
def step (names : List (List Char)) (s : Scan) (c : Char) : Scan :=
  match s.tag with
  | none =>
    if c = '<' then { s with tag := some [] }
    else { s with inside := s.inside.map fun (name, content) => (name, c :: content) }
  | some tag => if c = '>' then s.endTag names tag else { s with tag := some (c :: tag) }

/-- Read characters. -/
def run (names : List (List Char)) (s : Scan) (cs : List Char) : Scan := cs.foldl (step names) s

variable {names : List (List Char)}

theorem run_append (s : Scan) (cs ds : List Char) :
    run names s (cs ++ ds) = run names (run names s cs) ds := List.foldl_append ..

/-- A tag as it stands in a text. -/
def tagText (tag : List Char) : List Char := '<' :: (tag ++ ['>'])

/-- An element as it stands in a text. -/
def elementText (name content : String) : List Char :=
  tagText name.toList ++ content.toList ++ tagText ('/' :: name.toList)

/-- A tag is read up to its end. -/
theorem run_tagText {tag : List Char} (plain : '>' ∉ tag)
    (inside : Option (List Char × List Char)) (found : List (String × String)) :
    run names ⟨none, inside, found⟩ (tagText tag) =
      endTag names ⟨none, inside, found⟩ tag.reverse := by
  have body : ∀ (cs before : List Char), '>' ∉ cs →
      run names ⟨some before, inside, found⟩ cs = ⟨some (cs.reverse ++ before), inside, found⟩ := by
    intro cs
    induction cs with
    | nil => intro before _; rfl
    | cons c cs ih =>
      intro before plain
      obtain ⟨other, plain⟩ := not_or.mp (List.mem_cons.not.mp plain)
      have first : step names ⟨some before, inside, found⟩ c =
          ⟨some (c :: before), inside, found⟩ := by simp [step, Ne.symm other]
      rw [run, List.foldl_cons, first]
      simpa [run] using ih (c :: before) plain
  show run names ⟨some [], inside, found⟩ (tag ++ ['>']) = _
  rw [run_append, body tag [] plain, List.append_nil]
  cases inside <;> rfl

/-! ## Contents of elements -/

/-- A stretch that does not close the element it stands in. -/
def Within (name cs : List Char) : Prop :=
  ∀ names content found, run names ⟨none, some (name, content), found⟩ cs =
    ⟨none, some (name, cs.reverse ++ content), found⟩

namespace Within

variable {name : List Char}

theorem append {cs ds : List Char} (left : Within name cs) (right : Within name ds) :
    Within name (cs ++ ds) := by
  intro names content found
  rw [run_append, left, right, List.reverse_append, List.append_assoc]

theorem of_text {cs : List Char} (plain : '<' ∉ cs) : Within name cs := by
  induction cs with
  | nil => exact fun _ _ _ => rfl
  | cons c cs ih =>
    obtain ⟨other, plain⟩ := not_or.mp (List.mem_cons.not.mp plain)
    intro names content found
    have first : step names ⟨none, some (name, content), found⟩ c =
        ⟨none, some (name, c :: content), found⟩ := by simp [step, Ne.symm other]
    rw [run, List.foldl_cons, first]
    simpa [run] using ih plain names (c :: content) found

theorem flatMap {α : Type} {f : α → List Char} {xs : List α}
    (each : ∀ x ∈ xs, Within name (f x)) : Within name (xs.flatMap f) := by
  induction xs with
  | nil => exact fun _ _ _ => rfl
  | cons x xs ih =>
    obtain ⟨first, rest⟩ := List.forall_mem_cons.mp each
    exact first.append (ih rest)

end Within

/-- Whether markup leaves an element open; `tag` is the part of a tag before it, last character
first. -/
def leavesOpen (name : List Char) : Option (List Char) → List Char → Bool
  | none, [] => true
  | some _, [] => false
  | none, c :: cs => if c = '<' then leavesOpen name (some []) cs else leavesOpen name none cs
  | some tag, c :: cs =>
    if c = '>' then tag.reverse ≠ '/' :: name && leavesOpen name none cs
    else leavesOpen name (some (c :: tag)) cs

/-- What has been read of a tag, last character first. -/
def begun : Option (List Char) → List Char
  | none => []
  | some tag => tag ++ ['<']

theorem run_of_leavesOpen {name cs : List Char} {tag : Option (List Char)}
    (opens : leavesOpen name tag cs = true) (content : List Char)
    (found : List (String × String)) :
    run names ⟨tag, some (name, content), found⟩ cs =
      ⟨none, some (name, cs.reverse ++ begun tag ++ content), found⟩ := by
  induction cs generalizing tag content with
  | nil =>
    cases tag with
    | none => rfl
    | some tag => cases opens
  | cons c cs ih =>
    rw [run, List.foldl_cons]
    cases tag with
    | none =>
      rw [leavesOpen] at opens
      split at opens
      case isTrue angle =>
        subst angle
        have next : step names ⟨none, some (name, content), found⟩ '<' =
            ⟨some [], some (name, content), found⟩ := rfl
        rw [next]
        simpa [run, begun] using ih opens content
      case isFalse plain =>
        have next : step names ⟨none, some (name, content), found⟩ c =
            ⟨none, some (name, c :: content), found⟩ := by simp [step, plain]
        rw [next]
        simpa [run, begun] using ih opens (c :: content)
    | some tag =>
      rw [leavesOpen] at opens
      split at opens
      case isTrue angle =>
        subst angle
        obtain ⟨other, opens⟩ := Bool.and_eq_true_iff.mp opens
        have next : step names ⟨some tag, some (name, content), found⟩ '>' =
            ⟨none, some (name, '>' :: (tag ++ '<' :: content)), found⟩ := by
          simpa [step, endTag] using other
        rw [next]
        simpa [run, begun] using ih opens ('>' :: (tag ++ '<' :: content))
      case isFalse plain =>
        have next : step names ⟨some tag, some (name, content), found⟩ c =
            ⟨some (c :: tag), some (name, content), found⟩ := by simp [step, plain]
        rw [next]
        simpa [run, begun] using ih opens content

theorem Within.of_leavesOpen {name cs : List Char} (opens : leavesOpen name none cs = true) :
    Within name cs := by
  intro names content found
  simpa [begun] using run_of_leavesOpen opens content found

/-! ## Elements of a stretch -/

/-- A reader who has kept more elements before. -/
def above (s : Scan) (older : List (String × String)) : Scan :=
  { s with found := s.found ++ older }

theorem step_above (s : Scan) (older : List (String × String)) (c : Char) :
    step names (s.above older) c = (step names s c).above older := by
  rcases s with ⟨none | tag, inside, found⟩
  · simp only [step, above]
    split <;> rfl
  · simp only [step, above]
    split
    · rcases inside with none | ⟨name, content⟩
      · simp only [endTag]
        split <;> rfl
      · simp only [endTag]
        split <;> rfl
    · rfl

theorem run_above (s : Scan) (older : List (String × String)) (cs : List Char) :
    run names (s.above older) cs = (run names s cs).above older := by
  induction cs generalizing s with
  | nil => rfl
  | cons c cs ih =>
    rw [run, List.foldl_cons, step_above]
    exact ih (step names s c)

/-- What is kept of a stretch outside elements. -/
def Reads (names : List (List Char)) (cs : List Char) (kept : List (String × String)) : Prop :=
  ∀ found, run names ⟨none, none, found⟩ cs = ⟨none, none, kept.reverse ++ found⟩

namespace Reads

theorem append {cs ds : List Char} {kept kept' : List (String × String)}
    (left : Reads names cs kept) (right : Reads names ds kept') :
    Reads names (cs ++ ds) (kept ++ kept') := by
  intro found
  rw [run_append, left, right, List.reverse_append, List.append_assoc]

/-- What is kept of a stretch does not depend on what was kept before. -/
theorem of_run {cs : List Char} {kept : List (String × String)}
    (alone : run names {} cs = { found := kept.reverse }) : Reads names cs kept := by
  intro found
  have read : run names _ cs = _ := run_above {} found cs
  rwa [alone] at read

/-- Text outside elements is passed over. -/
theorem of_text {cs : List Char} (plain : '<' ∉ cs) : Reads names cs [] := by
  intro found
  induction cs with
  | nil => rfl
  | cons c cs ih =>
    obtain ⟨other, plain⟩ := not_or.mp (List.mem_cons.not.mp plain)
    have first : step names ⟨none, none, found⟩ c = ⟨none, none, found⟩ := by
      simp [step, Ne.symm other]
    rw [run, List.foldl_cons, first]
    exact ih plain

/-- An element whose content does not close it is kept whole. -/
theorem element {name content : String} (listed : name.toList ∈ names) (plain : '>' ∉ name.toList)
    (within : Within name.toList content.toList) :
    Reads names (elementText name content) [(name, content)] := by
  intro found
  have plain' : '>' ∉ '/' :: name.toList := by simpa using plain
  have opened : endTag names ⟨none, none, found⟩ name.toList.reverse =
      ⟨none, some (name.toList, []), found⟩ := by simp [endTag, listed]
  rw [elementText, run_append, run_append, run_tagText plain, opened, within, run_tagText plain']
  simp [endTag]

theorem flatMap {α : Type} {f : α → List Char} {kept : α → List (String × String)} {xs : List α}
    (each : ∀ x ∈ xs, Reads names (f x) (kept x)) :
    Reads names (xs.flatMap f) (xs.flatMap kept) := by
  induction xs with
  | nil => exact fun _ => rfl
  | cons x xs ih =>
    obtain ⟨first, rest⟩ := List.forall_mem_cons.mp each
    exact first.append (ih rest)

end Reads

end Scan

/-- The elements of a text with one of some names, outermost ones only, with their contents. -/
def elements (names : List String) (text : String) : List (String × String) :=
  (Scan.run (names.map (·.toList)) {} text.toList).found.reverse

theorem elements_of_reads {names : List String} {text : String} {kept : List (String × String)}
    (reads : Scan.Reads (names.map (·.toList)) text.toList kept) : elements names text = kept := by
  have read : Scan.run (names.map (·.toList)) {} text.toList = _ := reads []
  rw [elements, read]
  simp

end CauseLint.Html
