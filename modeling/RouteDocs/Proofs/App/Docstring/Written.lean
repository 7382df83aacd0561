import RouteDocs.Proofs.App.Docstring.Paragraphs
import RouteDocs.Proofs.App.Docstring.Sections
import RouteDocs.Proofs.Text.Case

/-!
Docstrings as they are written: a summary, paragraphs with blank lines between them, and at the end
a section of the errors that are declared. Reading gives back what was written, wherever the margin
is.
-/

namespace RouteDocs

namespace Text

theorem trimRight_append_cons {c : Char} (full : isBlank c = false) (s t : List Char) :
    trimRight (s ++ c :: t) = s ++ c :: trimRight t := by
  have kept : (c :: s.reverse).dropWhile isBlank = c :: s.reverse := by
    rw [List.dropWhile_cons_of_neg (by simp [full])]
  have turned : (s ++ c :: t).reverse = t.reverse ++ c :: s.reverse := by simp
  rw [trimRight, trimRight, turned, List.dropWhile_append, kept]
  split
  · rename_i gone
    rw [List.isEmpty_iff.mp gone]
    simp
  · simp

theorem trimLeft_spaces (n : Nat) (s : List Char) :
    trimLeft (List.replicate n ' ' ++ s) = trimLeft s := by
  rw [trimLeft, List.dropWhile_append_of_pos, trimLeft]
  intro c member
  rw [List.eq_of_mem_replicate member]
  exact Docstring.isBlank_space

end Text

namespace Docstring

open Text

/-- An error that is declared: its name, what is said about it, and the lines that go on with that,
from the column of the name on. -/
structure Entry where
  name : List Char
  text : List Char
  more : List (List Char) := []

structure Written where
  summary : List Char
  paragraphs : List (List (List Char)) := []
  entries : List Entry := []

/-! What may be written. -/

/-- A line of a summary or a paragraph. -/
structure IsProse (line : List Char) : Prop extends IsPlain line, IsTrimmed line where
  no_colon : line.head? ≠ some ':'
  no_heading : ∀ name ∈ sectionNames, line ≠ name.toList ++ [':']

/-- Letters, digits, underscores and points, with a letter or an underscore in front. -/
structure IsDotted (name : List Char) : Prop where
  start : ∃ c ∈ name.head?, c.isAlpha = true ∨ c = '_'
  parts : ∀ c ∈ name, c.isAlphanum = true ∨ c = '_' ∨ c = '.'

structure Entry.IsWellFormed (e : Entry) : Prop where
  name : IsDotted e.name
  text : IsPlain e.text
  more : ∀ line ∈ e.more, IsPlain line ∧ isBlankText line = false ∧ 0 < indent line

structure Written.IsWellFormed (w : Written) : Prop where
  summary : IsProse w.summary
  paragraphs : ∀ lines ∈ w.paragraphs, lines ≠ [] ∧ ∀ line ∈ lines, IsProse line
  entries : ∀ e ∈ w.entries, e.IsWellFormed

instance (line : List Char) : Decidable (IsProse line) :=
  decidable_of_iff (IsPlain line ∧ (line ≠ [] ∧ trimChars line = line) ∧ line.head? ≠ some ':' ∧
      ∀ name ∈ sectionNames, line ≠ name.toList ++ [':'])
    ⟨fun ⟨plain, ⟨full, trimmed⟩, colon, heading⟩ => ⟨plain, ⟨full, trimmed⟩, colon, heading⟩,
      fun prose => ⟨prose.toIsPlain, ⟨prose.full, prose.trimmed⟩, prose.no_colon, prose.no_heading⟩⟩

instance (name : List Char) : Decidable (IsDotted name) :=
  have : Decidable (∃ c ∈ name.head?, c.isAlpha = true ∨ c = '_') := Option.decidableExistsMem _
  have : Decidable (∀ c ∈ name, c.isAlphanum = true ∨ c = '_' ∨ c = '.') := List.decidableBAll _ _
  decidable_of_iff ((∃ c ∈ name.head?, c.isAlpha = true ∨ c = '_') ∧
      ∀ c ∈ name, c.isAlphanum = true ∨ c = '_' ∨ c = '.')
    ⟨fun ⟨start, parts⟩ => ⟨start, parts⟩, fun dotted => ⟨dotted.start, dotted.parts⟩⟩

instance (e : Entry) : Decidable e.IsWellFormed :=
  decidable_of_iff (IsDotted e.name ∧ IsPlain e.text ∧
      ∀ line ∈ e.more, IsPlain line ∧ isBlankText line = false ∧ 0 < indent line)
    ⟨fun ⟨name, text, more⟩ => ⟨name, text, more⟩, fun entry => ⟨entry.name, entry.text, entry.more⟩⟩

instance (w : Written) : Decidable w.IsWellFormed :=
  decidable_of_iff (IsProse w.summary ∧
      (∀ lines ∈ w.paragraphs, lines ≠ [] ∧ ∀ line ∈ lines, IsProse line) ∧
      ∀ e ∈ w.entries, e.IsWellFormed)
    ⟨fun ⟨summary, paragraphs, entries⟩ => ⟨summary, paragraphs, entries⟩,
      fun written => ⟨written.summary, written.paragraphs, written.entries⟩⟩

/-! How it is written, and what it means. -/

namespace Entry

def first (e : Entry) : List Char := List.replicate 4 ' ' ++ (e.name ++ ':' :: ' ' :: e.text)

def lines (e : Entry) : List (List Char) := e.first :: e.more.map (List.replicate 4 ' ' ++ ·)

end Entry

namespace Written

def sectionLines (w : Written) : List (List Char) :=
  if w.entries.isEmpty then [] else [] :: "Raises:".toList :: w.entries.flatMap Entry.lines

def below (w : Written) : List (List Char) := w.paragraphs.flatMap ([] :: ·) ++ w.sectionLines

def above (w : Written) : List (List Char) := [w.summary] ++ w.paragraphs.flatMap ([] :: ·)

theorem lines_eq (w : Written) : w.summary :: w.below = w.above ++ w.sectionLines := rfl

/-- The text, with what stands below the summary indented. -/
def text (w : Written) (margin : Nat) : String :=
  String.ofList (joinWith ['\n'] (w.summary :: w.below.map (indentBy margin)))

def docstring (w : Written) : Docstring where
  summary := String.ofList (squeezeChars w.summary)
  description := String.ofList (joinWith ['\n', '\n'] (w.paragraphs.map (joinWith ['\n'])))
  raises := (w.entries.map fun e => String.ofList e.name).eraseDups

end Written

/-! Names. -/

variable {line name : List Char} {e : Entry} {w : Written}

theorem IsDotted.isNamePart (isDotted : IsDotted name) : ∀ c ∈ name, isNamePart c = true := by
  intro c member
  rcases isDotted.parts c member with letter | rfl | rfl
  · rw [Docstring.isNamePart, isWord, if_pos (toNat_lt_of_isAlphanum letter), letter]
    rfl
  · decide
  · decide

theorem entryName?_of_isDotted (isDotted : IsDotted name) (rest : List Char) :
    entryName? (name ++ ':' :: rest) = some (String.ofList name) := by
  obtain ⟨c, first, start⟩ := isDotted.start
  obtain ⟨more, rfl⟩ := List.head?_eq_some_iff.mp first
  have here : isNameStart c = true := by
    rcases start with letter | rfl
    · rw [isNameStart, letter]; rfl
    · decide
  have colon : Docstring.isNamePart ':' = false := by decide
  have read : (c :: more ++ ':' :: rest).takeWhile Docstring.isNamePart = c :: more := by
    rw [List.takeWhile_append_of_pos isDotted.isNamePart]
    simp [colon]
  have behind : trimLeft ((c :: more ++ ':' :: rest).dropWhile Docstring.isNamePart) =
      ':' :: rest := by
    rw [List.dropWhile_append_of_pos isDotted.isNamePart,
      List.dropWhile_cons_of_neg (by simp [colon]), trimLeft,
      List.dropWhile_cons_of_neg (by decide)]
  rw [List.cons_append] at read behind ⊢
  rw [entryName?, if_pos here, behind, read]
  rfl

theorem IsDotted.head_full (isDotted : IsDotted name) (rest : List Char) :
    ∀ c ∈ (name ++ rest).head?, isBlank c = false := by
  intro d head
  obtain ⟨c, first, start⟩ := isDotted.start
  obtain ⟨more, rfl⟩ := List.head?_eq_some_iff.mp first
  cases head
  rcases start with letter | rfl
  · exact (not_isBlank_of_isAlphanum (by rw [Char.isAlphanum, letter]; rfl)).1
  · decide

/-! Entries. -/

namespace Entry

theorem IsWellFormed.indent_first (isWellFormed : e.IsWellFormed) : indent e.first = 4 := by
  have flush := indent_eq_zero_iff.mpr (isWellFormed.name.head_full (':' :: ' ' :: e.text))
  rw [first, indent_spaces, flush]

theorem isBlankText_first (e : Entry) : isBlankText e.first = false := by
  have colon : isBlank ':' = false := by decide
  exact isBlankText_of_mem colon (by simp [first])

theorem IsWellFormed.trimChars_first (isWellFormed : e.IsWellFormed) :
    trimChars e.first = e.name ++ ':' :: trimRight (' ' :: e.text) := by
  have front : trimLeft (e.name ++ ':' :: ' ' :: e.text) = e.name ++ ':' :: ' ' :: e.text :=
    dropWhile_eq_self_iff.mpr (isWellFormed.name.head_full _)
  rw [first, trimChars, trimLeft_spaces, front, trimRight_append_cons (by decide)]

theorem IsWellFormed.entryName?_first (isWellFormed : e.IsWellFormed) :
    entryName? (trimChars e.first) = some (String.ofList e.name) := by
  rw [isWellFormed.trimChars_first, entryName?_of_isDotted isWellFormed.name]

theorem IsWellFormed.more_cases (isWellFormed : e.IsWellFormed)
    (member : line ∈ e.more.map (List.replicate 4 ' ' ++ ·)) :
    isBlankText line = false ∧ 4 < indent line := by
  obtain ⟨rest, among, rfl⟩ := List.mem_map.mp member
  obtain ⟨-, full, deeper⟩ := isWellFormed.more rest among
  rw [isBlankText_spaces, indent_spaces]
  exact ⟨full, Nat.lt_add_of_pos_right deeper⟩

theorem IsWellFormed.filter_lines (isWellFormed : e.IsWellFormed) :
    (e.lines.filter fun line => !isBlankText line && decide (indent line ≤ 4)) = [e.first] := by
  have below : ((e.more.map (List.replicate 4 ' ' ++ ·)).filter fun line =>
      !isBlankText line && decide (indent line ≤ 4)) = [] := by
    refine List.filter_eq_nil_iff.mpr fun line member => ?_
    obtain ⟨-, deeper⟩ := isWellFormed.more_cases member
    simp [deeper]
  rw [lines, List.filter_cons_of_pos, below]
  rw [isBlankText_first, isWellFormed.indent_first]
  decide

theorem indents_lines (isWellFormed : e.IsWellFormed) : ∀ n ∈ indents e.lines, 4 ≤ n := by
  intro n member
  obtain ⟨line, among, rfl⟩ := List.mem_map.mp member
  rcases List.mem_cons.mp (List.mem_filter.mp among).1 with rfl | among
  · exact isWellFormed.indent_first.ge
  · exact (isWellFormed.more_cases among).2.le

end Entry

theorem indents_flatMap (es : List Entry) :
    indents (es.flatMap Entry.lines) = es.flatMap fun e => indents e.lines := by
  induction es with
  | nil => rfl
  | cons e es induction => rw [List.flatMap_cons, indents_append, induction, List.flatMap_cons]

theorem margin?_entries {es : List Entry} (isWellFormed : ∀ e ∈ es, e.IsWellFormed)
    (some_ : es ≠ []) : margin? (es.flatMap Entry.lines) = some 4 := by
  obtain ⟨e, rest, rfl⟩ := List.exists_cons_of_ne_nil some_
  rw [margin?_eq, List.min?_eq_some_iff]
  refine ⟨?_, fun n member => ?_⟩
  · rw [← (isWellFormed e List.mem_cons_self).indent_first]
    exact mem_indents e.isBlankText_first
      (List.mem_flatMap.mpr ⟨e, List.mem_cons_self, List.mem_cons_self⟩)
  · rw [indents_flatMap] at member
    obtain ⟨other, among, within⟩ := List.mem_flatMap.mp member
    exact Entry.indents_lines (isWellFormed other among) n within

theorem entryLines_entries {es : List Entry} (isWellFormed : ∀ e ∈ es, e.IsWellFormed) :
    entryLines (es.flatMap Entry.lines) = es.map Entry.first := by
  by_cases none_ : es = []
  · subst none_
    rfl
  · rw [entryLines, margin?_entries isWellFormed none_, Option.getD_some]
    clear none_
    induction es with
    | nil => rfl
    | cons e es induction =>
        rw [List.flatMap_cons, List.filter_append,
          (isWellFormed e List.mem_cons_self).filter_lines,
          induction fun other member => isWellFormed other (List.mem_cons_of_mem e member)]
        rfl

theorem entryNames_entries {es : List Entry} (isWellFormed : ∀ e ∈ es, e.IsWellFormed) :
    entryNames (es.map Entry.first) = es.map fun e => String.ofList e.name := by
  rw [entryNames, List.filterMap_map, ← List.filterMap_eq_map]
  exact List.filterMap_congr fun e member => (isWellFormed e member).entryName?_first

/-! The lines of a docstring. -/

/-- What every line has. -/
structure IsLine (line : List Char) : Prop extends IsPlain line where
  no_colon : line.head? ≠ some ':'
  empty : isBlankText line = true → line = []

theorem isLine_nil : IsLine [] where
  no_tab := List.not_mem_nil
  unbroken := nofun
  no_colon := nofun
  empty _ := rfl

theorem IsProse.not_isBlankText (isProse : IsProse line) : isBlankText line = false := by
  obtain ⟨c, rest, rfl⟩ := List.exists_cons_of_ne_nil isProse.full
  exact isBlankText_of_mem (isProse.head c rfl) List.mem_cons_self

theorem IsProse.isLine (isProse : IsProse line) : IsLine line where
  toIsPlain := isProse.toIsPlain
  no_colon := isProse.no_colon
  empty blank := absurd (isProse.not_isBlankText.symm.trans blank) Bool.false_ne_true

theorem IsProse.sectionName? (isProse : IsProse line) : sectionName? line = none :=
  sectionName?_of_other fun name member same =>
    isProse.no_heading name member (isProse.trimmed.symm.trans same)

theorem IsProse.isField (isProse : IsProse line) : isField line = false := by
  have front : trimLeft line = line := dropWhile_eq_self_iff.mpr isProse.head
  rw [Docstring.isField, front]
  exact decide_eq_false isProse.no_colon

theorem isLine_heading : IsLine "Raises:".toList where
  no_tab := by decide
  unbroken := by decide
  no_colon := by decide
  empty := by decide

theorem isLine_spaces {n : Nat} (some_ : n ≠ 0) (isPlain : IsPlain line)
    (full : isBlankText line = false) : IsLine (List.replicate n ' ' ++ line) where
  no_tab member := by
    rcases List.mem_append.mp member with space | among
    · exact absurd (List.eq_of_mem_replicate space) (by decide)
    · exact isPlain.no_tab among
  unbroken := by
    refine Unbroken.append (fun c member => ?_) isPlain.unbroken
    rw [List.eq_of_mem_replicate member]
    decide
  no_colon := by
    obtain ⟨m, rfl⟩ := Nat.exists_eq_succ_of_ne_zero some_
    simp [List.replicate_succ]
  empty blank := by
    rw [isBlankText_spaces, full] at blank
    cases blank

theorem IsDotted.isPlain (isDotted : IsDotted name) : IsPlain name where
  no_tab member := by
    rcases isDotted.parts _ member with letter | same | same
    · exact absurd letter (by decide)
    · exact absurd same (by decide)
    · exact absurd same (by decide)
  unbroken c member := by
    rcases isDotted.parts c member with letter | rfl | rfl
    · exact (not_isBlank_of_isAlphanum letter).2
    · decide
    · decide

theorem Entry.IsWellFormed.isLine (isWellFormed : e.IsWellFormed) : ∀ line ∈ e.lines, IsLine line := by
  intro line member
  rcases List.mem_cons.mp member with rfl | member
  · have mark : IsPlain [':', ' '] := ⟨by decide, by decide⟩
    refine isLine_spaces (by decide)
      (isWellFormed.name.isPlain.append (mark.append isWellFormed.text)) ?_
    rw [← isBlankText_spaces 4]
    exact e.isBlankText_first
  · obtain ⟨rest, among, rfl⟩ := List.mem_map.mp member
    obtain ⟨plain, full, -⟩ := isWellFormed.more rest among
    exact isLine_spaces (by decide) plain full

theorem Entry.IsWellFormed.ne_nil (isWellFormed : e.IsWellFormed) : ∀ line ∈ e.lines, line ≠ [] := by
  rintro line member rfl
  rcases List.mem_cons.mp member with same | member
  · exact absurd (same ▸ e.isBlankText_first) (by decide)
  · exact absurd (isWellFormed.more_cases member).1 (by decide)

theorem Entry.sectionName?_of_mem (member : line ∈ e.lines) : sectionName? line = none := by
  refine sectionName?_of_indented ?_
  rcases List.mem_cons.mp member with rfl | member
  · rfl
  · obtain ⟨rest, -, rfl⟩ := List.mem_map.mp member
    rfl

def EndsFull (lines : List (List Char)) : Prop := ∀ line ∈ lines.getLast?, line ≠ []

theorem endsFull_of_full {lines : List (List Char)} (full : ∀ line ∈ lines, line ≠ []) :
    EndsFull lines :=
  fun line last => full line (List.mem_of_getLast? last)

theorem EndsFull.append {lines more : List (List Char)} (endsFull : EndsFull lines)
    (other : EndsFull more) : EndsFull (lines ++ more) := by
  intro line last
  rw [List.getLast?_append] at last
  cases behind : more.getLast? with
  | none =>
      rw [behind] at last
      exact endsFull line last
  | some _ =>
      rw [behind] at last
      cases last
      exact other line behind

theorem EndsFull.flatMap {α : Type} {members : List α} {f : α → List (List Char)}
    (endsFull : ∀ a ∈ members, EndsFull (f a)) : EndsFull (members.flatMap f) := by
  induction members with
  | nil => exact nofun
  | cons a rest induction =>
      rw [List.flatMap_cons]
      exact (endsFull a List.mem_cons_self).append
        (induction fun other member => endsFull other (List.mem_cons_of_mem a member))

namespace Written

variable (isWellFormed : w.IsWellFormed)

include isWellFormed

theorem IsWellFormed.isProse {lines : List (List Char)} (member : lines ∈ w.paragraphs) :
    ∀ line ∈ lines, IsProse line :=
  (isWellFormed.paragraphs lines member).2

theorem IsWellFormed.isLine : ∀ line ∈ w.summary :: w.below, IsLine line := by
  intro line member
  rw [List.mem_cons, below, List.mem_append, List.mem_flatMap, sectionLines] at member
  rcases member with rfl | ⟨lines, among, within⟩ | member
  · exact isWellFormed.summary.isLine
  · rcases List.mem_cons.mp within with rfl | within
    · exact isLine_nil
    · exact (isWellFormed.isProse among line within).isLine
  · split at member
    · cases member
    · rw [List.mem_cons, List.mem_cons, List.mem_flatMap] at member
      rcases member with rfl | rfl | ⟨e, among, within⟩
      · exact isLine_nil
      · exact isLine_heading
      · exact (isWellFormed.entries e among).isLine line within

theorem IsWellFormed.endsFull : EndsFull (w.summary :: w.below) := by
  have top : EndsFull [w.summary] :=
    endsFull_of_full fun line member => List.mem_singleton.mp member ▸ isWellFormed.summary.full
  have middle : EndsFull (w.paragraphs.flatMap ([] :: ·)) := by
    refine .flatMap fun lines member line last => ?_
    obtain ⟨some_, isProse⟩ := isWellFormed.paragraphs lines member
    obtain ⟨next, more, rfl⟩ := List.exists_cons_of_ne_nil some_
    rw [List.getLast?_cons_cons] at last
    exact (isProse line (List.mem_of_getLast? last)).full
  have bottom : EndsFull w.sectionLines := by
    unfold sectionLines
    split
    · exact nofun
    · have heading : EndsFull [[], "Raises:".toList] := by
        rintro line ⟨⟩
        decide
      exact heading.append
        (.flatMap fun e member => endsFull_of_full (isWellFormed.entries e member).ne_nil)
  exact top.append (middle.append bottom)

theorem IsWellFormed.flush (some_ : w.below ≠ []) : 0 ∈ indents w.below := by
  cases given : w.paragraphs with
  | cons lines rest =>
      have among : lines ∈ w.paragraphs := given ▸ List.mem_cons_self
      obtain ⟨line, more, rfl⟩ :=
        List.exists_cons_of_ne_nil (isWellFormed.paragraphs lines among).1
      have isProse := isWellFormed.isProse among line List.mem_cons_self
      rw [← indent_eq_zero_iff.mpr isProse.head]
      refine mem_indents isProse.not_isBlankText (List.mem_append_left _ ?_)
      exact List.mem_flatMap.mpr ⟨line :: more, among, List.mem_cons_of_mem _ List.mem_cons_self⟩
  | nil =>
      rw [below, given] at some_ ⊢
      unfold sectionLines at some_ ⊢
      split at some_
      · exact absurd rfl some_
      · rename_i more
        rw [if_neg more]
        have full : isBlankText "Raises:".toList = false := by decide
        exact mem_indents full (by simp)

theorem IsWellFormed.clean_text (margin : Nat) :
    clean (w.text margin).toList = joinWith ['\n'] (w.summary :: w.below) := by
  have plain : ∀ line ∈ w.summary :: w.below, '\t' ∉ line ∧ '\n' ∉ line := fun line member =>
    ⟨(isWellFormed.isLine line member).no_tab, (isWellFormed.isLine line member).unbroken.no_feed⟩
  have empty : ∀ line ∈ w.below, isBlankText line = true → line = [] := fun line member =>
    (isWellFormed.isLine line (List.mem_cons_of_mem w.summary member)).empty
  have front : trimLeft w.summary = w.summary :=
    dropWhile_eq_self_iff.mpr isWellFormed.summary.head
  rw [clean, cleanLines_eq, text, String.toList_ofList,
    rawLines_indentBy plain empty isWellFormed.flush, front, dropEmptyEnds_eq_self]
  · exact fun same => isWellFormed.summary.full (Option.some.inj same)
  · exact fun same => isWellFormed.endsFull [] same rfl

theorem IsWellFormed.lines_text (margin : Nat) :
    Text.lines (clean (w.text margin).toList) = w.summary :: w.below := by
  rw [isWellFormed.clean_text]
  exact lines_joinWith (fun line member => (isWellFormed.isLine line member).unbroken)
    isWellFormed.endsFull

theorem IsWellFormed.fields_text (margin : Nat) : fields (w.text margin) = [] := by
  rw [fields, isWellFormed.clean_text]
  exact fieldNames_joinWith fun line member =>
    ⟨(isWellFormed.isLine line member).no_colon, (isWellFormed.isLine line member).unbroken.no_feed⟩

/-! What is read. -/

theorem IsWellFormed.isProse_or_nil :
    ∀ line ∈ w.above, IsProse line ∨ line = [] := by
  intro line member
  rw [above, List.mem_append, List.mem_singleton, List.mem_flatMap] at member
  rcases member with rfl | ⟨lines, among, within⟩
  · exact .inl isWellFormed.summary
  · rcases List.mem_cons.mp within with rfl | within
    · exact .inr rfl
    · exact .inl (isWellFormed.isProse among line within)

theorem IsWellFormed.no_heading : ∀ line ∈ w.above, sectionName? line = none := by
  intro line member
  rcases isWellFormed.isProse_or_nil line member with isProse | rfl
  · exact isProse.sectionName?
  · exact sectionName?_of_blank rfl

omit isWellFormed in
theorem head_sectionLines (w : Written) :
    (layoutFrom none w.sectionLines).head = if w.entries.isEmpty then [] else [[]] := by
  unfold sectionLines
  split
  · rfl
  · have heading : Docstring.sectionName? "Raises:".toList = some "Raises" := by decide
    rw [head_layoutFrom_cons rfl, layoutFrom_heading heading, head_layoutFrom_section]

omit isWellFormed in
theorem raises_sectionLines (w : Written) :
    (layoutFrom none w.sectionLines).raises = w.entries.flatMap Entry.lines := by
  unfold sectionLines
  split
  · rename_i empty
    rw [List.isEmpty_iff.mp empty]
    rfl
  · have heading : Docstring.sectionName? "Raises:".toList = some "Raises" := by decide
    have plain : ∀ line ∈ w.entries.flatMap Entry.lines, Docstring.sectionName? line = none := by
      intro line member
      obtain ⟨e, -, within⟩ := List.mem_flatMap.mp member
      exact Entry.sectionName?_of_mem within
    rw [raises_layoutFrom_cons rfl, layoutFrom_heading heading, raises_layoutFrom_plain plain]
    rfl

theorem IsWellFormed.raisesLines_text (margin : Nat) :
    raisesLines (w.text margin) = w.entries.flatMap Entry.lines := by
  rw [raisesLines, isWellFormed.lines_text, lines_eq, raises_layoutFrom_append,
    raises_layoutFrom_plain isWellFormed.no_heading, if_neg nofun,
    sectionAfter_of_plain isWellFormed.no_heading, raises_sectionLines, List.nil_append]

theorem IsWellFormed.raises_text (margin : Nat) :
    (read (w.text margin)).raises = (w.entries.map fun e => String.ofList e.name).eraseDups := by
  rw [raises_read, isWellFormed.raisesLines_text, isWellFormed.fields_text,
    entryLines_entries isWellFormed.entries, entryNames_entries isWellFormed.entries,
    List.append_nil]

theorem IsWellFormed.head_text (margin : Nat) :
    (layoutFrom none (Text.lines (clean (w.text margin).toList))).head.filter
        (fun line => !isField line) =
      w.above ++ if w.entries.isEmpty then [] else [[]] := by
  rw [isWellFormed.lines_text, lines_eq, head_layoutFrom_append isWellFormed.no_heading,
    head_sectionLines, List.filter_eq_self]
  intro line member
  rcases List.mem_append.mp member with above | last
  · rcases isWellFormed.isProse_or_nil line above with isProse | rfl
    · rw [isProse.isField]; rfl
    · rfl
  · split at last
    · cases last
    · rw [List.mem_singleton.mp last]
      rfl

theorem IsWellFormed.isBlock : ∀ block ∈ [w.summary] :: w.paragraphs, IsBlock block := by
  intro block member
  rcases List.mem_cons.mp member with rfl | member
  · have single : ∀ line ∈ [w.summary], line = w.summary := fun line => List.mem_singleton.mp
    exact ⟨List.cons_ne_nil _ _,
      fun line within => single line within ▸ isWellFormed.summary.toIsTrimmed,
      fun line within => single line within ▸ isWellFormed.summary.unbroken.no_feed⟩
  · obtain ⟨some_, isProse⟩ := isWellFormed.paragraphs block member
    exact ⟨some_, fun line within => (isProse line within).toIsTrimmed,
      fun line within => (isProse line within).unbroken.no_feed⟩

theorem IsWellFormed.paragraphs_text (margin : Nat) :
    Docstring.paragraphs (trimChars (joinWith ['\n']
        ((layoutFrom none (Text.lines (clean (w.text margin).toList))).head.filter
          fun line => !isField line))) =
      w.summary :: w.paragraphs.map (joinWith ['\n']) := by
  have blocks : joinWith ['\n'] w.above =
      joinWith ['\n', '\n'] (([w.summary] :: w.paragraphs).map (joinWith ['\n'])) :=
    joinWith_blocks (List.cons_ne_nil w.summary []) fun block member =>
      (isWellFormed.isBlock block (List.mem_cons_of_mem _ member)).some_
  have trimmed : IsTrimmed (joinWith ['\n'] w.above) := by
    rw [blocks]
    exact isTrimmed_blocks (List.cons_ne_nil _ _) isWellFormed.isBlock
  have text : trimChars (joinWith ['\n'] (w.above ++ if w.entries.isEmpty then [] else [[]])) =
      joinWith ['\n'] w.above := by
    split
    · rw [List.append_nil, trimmed.trimmed]
    · -- The blank line in front of the section is no part of a paragraph.
      have some_ : w.above ≠ [] := List.cons_ne_nil _ _
      rw [joinWith_append some_ (List.cons_ne_nil _ _), joinWith, List.append_nil,
        trimmed.trimChars_feed]
  rw [isWellFormed.head_text, text, blocks,
    paragraphs_blocks (List.cons_ne_nil _ _) isWellFormed.isBlock]
  rfl

/-- A written docstring is read as what it says, whatever the margin of its lines. -/
theorem read_text (margin : Nat) : read (w.text margin) = w.docstring := by
  have kept : (w.paragraphs.map (joinWith ['\n'])).map trimChars =
      w.paragraphs.map (joinWith ['\n']) := by
    rw [List.map_map]
    refine List.map_congr_left fun block member => ?_
    exact (isWellFormed.isBlock block (List.mem_cons_of_mem _ member)).isTrimmed.trimmed
  rw [read_of_paragraphs (isWellFormed.paragraphs_text margin), kept, isWellFormed.raises_text,
    docstring]

omit isWellFormed

/-- Words that are headings elsewhere, an entry without a text, lines that look like entries, and a
name that is there twice. -/
def lookup : Written where
  summary := "Show  one user.".toList
  paragraphs := [["Returns: the user.".toList, "Raises".toList], ["Notes follow below.".toList]]
  entries :=
    [{ name := "UserNotFound".toList, text := "When no user has this id.".toList
       more := ["    Gone: No.".toList, " Raises:".toList] },
      { name := "errors.Forbidden".toList, text := [] },
      { name := "UserNotFound".toList, text := " Once more.".toList }]

theorem read_lookup :
    lookup.IsWellFormed ∧
      read (lookup.text 8) =
        { summary := "Show one user."
          description := "Returns: the user.\nRaises\n\nNotes follow below."
          raises := ["UserNotFound", "errors.Forbidden"] } := by
  have isWellFormed : lookup.IsWellFormed := by decide +kernel
  have meant : lookup.docstring =
      { summary := "Show one user."
        description := "Returns: the user.\nRaises\n\nNotes follow below."
        raises := ["UserNotFound", "errors.Forbidden"] } := by decide +kernel
  exact ⟨isWellFormed, (read_text isWellFormed 8).trans meant⟩

end Written

end Docstring
end RouteDocs
