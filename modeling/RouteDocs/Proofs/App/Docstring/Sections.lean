import RouteDocs.Proofs.App.Docstring.Margin
import RouteDocs.Proofs.Keys

/-!
Sections of a docstring, and the names of the errors that it declares: those of its sections
`Raises`, then those of its fields, each name once.
-/

namespace RouteDocs.Docstring

open Text

variable {current : Option String} {line name s t : List Char} {lines more : List (List Char)}

/-! Headings. -/

theorem trimChars_of_blank (blank : isBlankText line = true) : trimChars line = [] := by
  have front : trimLeft line = [] := by
    rw [trimLeft, List.dropWhile_eq_nil_iff]
    exact List.all_eq_true.mp blank
  rw [trimChars, front]
  rfl

theorem sectionName?_of_indented (space : line.head? = some ' ') : sectionName? line = none :=
  if_pos space

theorem sectionName?_of_other
    (other : ∀ name ∈ sectionNames, trimChars line ≠ name.toList ++ [':']) :
    sectionName? line = none := by
  rw [sectionName?]
  split
  · rfl
  · refine List.find?_eq_none.mpr fun name member same => ?_
    exact other name member (eq_of_beq same)

theorem sectionName?_of_blank (blank : isBlankText line = true) : sectionName? line = none :=
  sectionName?_of_other fun name _ same => by
    rw [trimChars_of_blank blank] at same
    exact absurd same.symm (by simp)

/-- The section that lines leave open. -/
def sectionAfter (current : Option String) : List (List Char) → Option String
  | [] => current
  | line :: rest => sectionAfter ((sectionName? line).or current) rest

theorem sectionAfter_filter (current : Option String) (lines : List (List Char)) :
    sectionAfter current (lines.filter fun line => !isBlankText line) =
      sectionAfter current lines := by
  induction lines generalizing current with
  | nil => rfl
  | cons line lines induction =>
      rw [List.filter_cons, sectionAfter]
      cases blank : isBlankText line with
      | true => rw [sectionName?_of_blank blank, ← induction]; rfl
      | false => rw [Bool.not_false, if_pos rfl, sectionAfter, induction]

theorem sectionAfter_of_plain (plain : ∀ line ∈ lines, sectionName? line = none)
    (current : Option String) : sectionAfter current lines = current := by
  induction lines with
  | nil => rfl
  | cons line lines induction =>
      rw [sectionAfter, plain line List.mem_cons_self]
      exact induction fun other member => plain other (List.mem_cons_of_mem line member)

/-! What stands in a section. -/

theorem layoutFrom_heading {name : String} (heading : sectionName? line = some name)
    (current : Option String) (rest : List (List Char)) :
    layoutFrom current (line :: rest) = layoutFrom (some name) rest := by
  rw [layoutFrom, heading]

theorem raises_layoutFrom_cons (other : sectionName? line = none) (current : Option String)
    (rest : List (List Char)) :
    (layoutFrom current (line :: rest)).raises =
      (if current = some "Raises" then [line] else []) ++ (layoutFrom current rest).raises := by
  rw [layoutFrom, other]
  cases current with
  | none => rfl
  | some name =>
      by_cases here : name = "Raises"
      · subst here
        rfl
      · simp [here]

theorem head_layoutFrom_cons (other : sectionName? line = none) (rest : List (List Char)) :
    (layoutFrom none (line :: rest)).head = line :: (layoutFrom none rest).head := by
  rw [layoutFrom, other]

theorem raises_layoutFrom_append (current : Option String) (lines more : List (List Char)) :
    (layoutFrom current (lines ++ more)).raises =
      (layoutFrom current lines).raises ++
        (layoutFrom (sectionAfter current lines) more).raises := by
  -- Over all open sections, since a heading opens another one for the lines below it.
  induction lines generalizing current with
  | nil => rfl
  | cons line lines induction =>
      rw [List.cons_append, sectionAfter]
      cases heading : sectionName? line with
      | some name =>
          rw [layoutFrom_heading heading, layoutFrom_heading heading, induction]
          rfl
      | none =>
          rw [raises_layoutFrom_cons heading, raises_layoutFrom_cons heading, induction,
            List.append_assoc]
          rfl

theorem raises_layoutFrom_plain (plain : ∀ line ∈ lines, sectionName? line = none)
    (current : Option String) :
    (layoutFrom current lines).raises = if current = some "Raises" then lines else [] := by
  induction lines with
  | nil => rw [ite_self]; rfl
  | cons line lines induction =>
      rw [raises_layoutFrom_cons (plain line List.mem_cons_self),
        induction fun other member => plain other (List.mem_cons_of_mem line member)]
      split <;> rfl

theorem head_layoutFrom_append (plain : ∀ line ∈ lines, sectionName? line = none)
    (more : List (List Char)) :
    (layoutFrom none (lines ++ more)).head = lines ++ (layoutFrom none more).head := by
  induction lines with
  | nil => rfl
  | cons line lines induction =>
      rw [List.cons_append, head_layoutFrom_cons (plain line List.mem_cons_self),
        induction fun other member => plain other (List.mem_cons_of_mem line member)]
      rfl

theorem head_layoutFrom_section (name : String) (lines : List (List Char)) :
    (layoutFrom (some name) lines).head = [] := by
  induction lines generalizing name with
  | nil => rfl
  | cons line lines induction =>
      cases heading : sectionName? line with
      | some other => rw [layoutFrom_heading heading, induction]
      | none =>
          rw [layoutFrom, heading]
          dsimp only
          split <;> exact induction name

theorem raises_layoutFrom_filter (current : Option String) (lines : List (List Char)) :
    (layoutFrom current (lines.filter fun line => !isBlankText line)).raises =
      (layoutFrom current lines).raises.filter fun line => !isBlankText line := by
  induction lines generalizing current with
  | nil => rfl
  | cons line lines induction =>
      cases blank : isBlankText line with
      | true =>
          rw [raises_layoutFrom_cons (sectionName?_of_blank blank), List.filter_append,
            List.filter_cons_of_neg (by simp [blank]), induction]
          split <;> simp [blank]
      | false =>
          rw [List.filter_cons_of_pos (by simp [blank])]
          cases heading : sectionName? line with
          | some name => rw [layoutFrom_heading heading, layoutFrom_heading heading, induction]
          | none =>
              rw [raises_layoutFrom_cons heading, raises_layoutFrom_cons heading,
                List.filter_append, induction]
              split <;> simp [blank]

/-! Entries of a section. -/

/-- The lines that are not indented further than others. -/
def entryLines (lines : List (List Char)) : List (List Char) :=
  lines.filter fun line => !isBlankText line && decide (indent line ≤ (margin? lines).getD 0)

def entryNames (lines : List (List Char)) : List String :=
  lines.filterMap fun line => entryName? (trimChars line)

theorem indents_filter (lines : List (List Char)) :
    indents (lines.filter fun line => !isBlankText line) = indents lines := by
  rw [indents, List.filter_filter]
  simp only [Bool.and_self]
  rfl

theorem entryLines_filter (lines : List (List Char)) :
    entryLines (lines.filter fun line => !isBlankText line) = entryLines lines := by
  rw [entryLines, margin?_eq, indents_filter, List.filter_filter, entryLines, margin?_eq]
  congr 1
  funext line
  cases isBlankText line <;> simp

theorem foldl_addName (names : List String) : names.foldl addName [] = names.eraseDups := by
  induction names using List.reverseRecOn with
  | nil => rfl
  | append_singleton names name induction =>
      rw [List.foldl_append, induction, Keys.eraseDups_concat]
      simp [addName]

/-! Fields. -/

def fields (text : String) : List String := fieldNames true 0 (clean text.toList)

theorem fieldName?_of_other {c : Char} (other : c ≠ ':') (rest : List Char) :
    fieldName? (c :: rest) = none := by
  simp [fieldName?, dropStart?, Ne.symm other]

theorem fieldNames_feed (start : Bool) (rest : List Char) :
    fieldNames start 0 ('\n' :: rest) = fieldNames true 0 rest := by
  cases start with
  | false => rfl
  | true => rw [fieldNames, if_pos rfl, fieldName?_of_other (by decide)]; rfl

theorem fieldNames_passed (without : '\n' ∉ line) (rest : List Char) :
    fieldNames false 0 (line ++ rest) = fieldNames false 0 rest := by
  induction line with
  | nil => rfl
  | cons c line induction =>
      obtain ⟨other, without⟩ := not_or.mp (mt List.mem_cons.mpr without)
      have here : decide (c = '\n') = false := decide_eq_false (Ne.symm other)
      rw [List.cons_append, fieldNames, if_neg Bool.false_ne_true, here, induction without]

theorem fieldNames_line (plain : line.head? ≠ some ':') (without : '\n' ∉ line)
    (rest : List Char) : fieldNames true 0 (line ++ rest) = fieldNames line.isEmpty 0 rest := by
  cases line with
  | nil => rfl
  | cons c line =>
      obtain ⟨other, without⟩ := not_or.mp (mt List.mem_cons.mpr without)
      have here : decide (c = '\n') = false := decide_eq_false (Ne.symm other)
      rw [List.cons_append, fieldNames, if_pos rfl,
        fieldName?_of_other fun colon => plain (congrArg some colon)]
      dsimp only
      rw [here, fieldNames_passed without]
      rfl

theorem fieldNames_joinWith
    (plain : ∀ line ∈ lines, line.head? ≠ some ':' ∧ '\n' ∉ line) :
    fieldNames true 0 (joinWith ['\n'] lines) = [] := by
  induction lines using joinWith.induct with
  | case1 => rfl
  | case2 line =>
      obtain ⟨noColon, without⟩ := plain line List.mem_cons_self
      rw [joinWith, ← List.append_nil line, fieldNames_line noColon without]
      rfl
  | case3 line next rest induction =>
      obtain ⟨noColon, without⟩ := plain line List.mem_cons_self
      rw [joinWith, List.append_assoc, List.singleton_append, fieldNames_line noColon without,
        fieldNames_feed, induction fun other member => plain other (List.mem_cons_of_mem line member)]

/-! All names. -/

def raisesLines (text : String) : List (List Char) :=
  (layoutFrom none (Text.lines (clean text.toList))).raises

theorem raises_read (text : String) :
    (read text).raises =
      (entryNames (entryLines (raisesLines text)) ++ fields text).eraseDups := by
  have named : (read text).raises =
      (fields text).foldl addName (sectionRaises (raisesLines text)) := by
    unfold read
    split
    · rename_i empty
      obtain rfl := String.isEmpty_iff.mp empty
      rfl
    · dsimp only
      split <;> rfl
  rw [named, ← foldl_addName, List.foldl_append]
  rfl

theorem read_of_paragraphs {text : String} {first : List Char} {rest : List (List Char)}
    (found : paragraphs (trimChars (joinWith ['\n']
      ((layoutFrom none (Text.lines (clean text.toList))).head.filter fun line => !isField line))) =
        first :: rest) :
    read text =
      { summary := String.ofList (squeezeChars first)
        description := String.ofList (joinWith ['\n', '\n'] (rest.map trimChars))
        raises := (read text).raises } := by
  unfold read
  split
  · rename_i empty
    obtain rfl := String.isEmpty_iff.mp empty
    cases found
  · dsimp only
    rw [found]

end RouteDocs.Docstring
