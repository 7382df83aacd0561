import Mathlib.Data.List.MinMax
import RouteDocs.App.Docstring
import RouteDocs.Proofs.Text.Lines

/-!
The margin of a docstring: the indentation that all lines behind the first one share. Cleaning
takes it away, so that lines may be moved to the right together.
-/

namespace RouteDocs.Docstring

open Text

variable {n : Nat} {line s t : List Char} {lines : List (List Char)}

/-! Tabs. -/

/-- A text of one line without tabs. -/
structure IsPlain (s : List Char) : Prop where
  no_tab : '\t' ∉ s
  unbroken : Unbroken s

instance (s : List Char) : Decidable (IsPlain s) :=
  decidable_of_iff ('\t' ∉ s ∧ Unbroken s)
    ⟨fun ⟨noTab, unbroken⟩ => ⟨noTab, unbroken⟩, fun plain => ⟨plain.no_tab, plain.unbroken⟩⟩

theorem IsPlain.append (isPlain : IsPlain s) (other : IsPlain t) :
    IsPlain (s ++ t) where
  no_tab member := (List.mem_append.mp member).elim isPlain.no_tab other.no_tab
  unbroken := isPlain.unbroken.append other.unbroken

theorem expandTabs_of_not_mem (without : '\t' ∉ s) (column : Nat) : expandTabs column s = s := by
  induction s generalizing column with
  | nil => rfl
  | cons c s induction =>
      obtain ⟨other, without⟩ := not_or.mp (mt List.mem_cons.mpr without)
      rw [expandTabs, if_neg (Ne.symm other), induction without]

theorem expandTabs_append_feed (column : Nat) (s t : List Char) :
    expandTabs column (s ++ '\n' :: t) = expandTabs column s ++ '\n' :: expandTabs 0 t := by
  induction s generalizing column with
  | nil => simp [expandTabs]
  | cons c s induction =>
      rw [List.cons_append, expandTabs, expandTabs]
      split
      · rw [induction, List.append_assoc]
      · rw [induction, List.cons_append]

/-! Indentation. -/

theorem indent_eq_zero_iff : indent s = 0 ↔ ∀ c ∈ s.head?, isBlank c = false := by
  cases s with
  | nil => simp [indent]
  | cons c s => cases blank : isBlank c <;> simp [indent, blank]

theorem isBlank_space : isBlank ' ' = true := by decide

theorem indent_spaces (n : Nat) (s : List Char) :
    indent (List.replicate n ' ' ++ s) = n + indent s := by
  have blank : ∀ c ∈ List.replicate n ' ', isBlank c = true := fun c member =>
    (List.eq_of_mem_replicate member).symm ▸ isBlank_space
  rw [indent, List.takeWhile_append_of_pos blank, List.length_append, List.length_replicate, indent]

theorem isBlankText_of_mem {c : Char} (full : isBlank c = false) (member : c ∈ s) :
    isBlankText s = false :=
  List.all_eq_false.mpr ⟨c, member, Bool.eq_false_iff.mp full⟩

theorem isBlankText_spaces (n : Nat) (s : List Char) :
    isBlankText (List.replicate n ' ' ++ s) = isBlankText s := by
  have blank : isBlankText (List.replicate n ' ') = true :=
    List.all_eq_true.mpr fun c member => (List.eq_of_mem_replicate member).symm ▸ isBlank_space
  rw [isBlankText, List.all_append, ← isBlankText, ← isBlankText, blank, Bool.true_and]

/-- A line that is not blank moves to the right. -/
def indentBy (n : Nat) (line : List Char) : List Char :=
  if isBlankText line then line else List.replicate n ' ' ++ line

theorem indentBy_of_full (full : isBlankText line = false) (n : Nat) :
    indentBy n line = List.replicate n ' ' ++ line := by
  rw [indentBy, full, if_neg Bool.false_ne_true]

theorem indentBy_of_blank (blank : isBlankText line = true) (n : Nat) : indentBy n line = line :=
  if_pos blank

@[simp] theorem isBlankText_indentBy (n : Nat) (line : List Char) :
    isBlankText (indentBy n line) = isBlankText line := by
  cases blank : isBlankText line with
  | true => rw [indentBy_of_blank blank, blank]
  | false => rw [indentBy_of_full blank, isBlankText_spaces, blank]

theorem not_mem_indentBy {c : Char} (other : c ≠ ' ') (without : ∀ line ∈ lines, c ∉ line)
    (n : Nat) : ∀ line ∈ lines.map (indentBy n), c ∉ line := by
  intro line member among
  obtain ⟨before, within, rfl⟩ := List.mem_map.mp member
  unfold indentBy at among
  split at among
  · exact without before within among
  · rcases List.mem_append.mp among with space | among
    · exact other (List.eq_of_mem_replicate space)
    · exact without before within among

/-- Lines get back to where they were, if the blank ones among them are empty. -/
theorem map_drop_indentBy (empty : ∀ line ∈ lines, isBlankText line = true → line = []) (n : Nat) :
    (lines.map (indentBy n)).map (fun line => line.drop n) = lines := by
  rw [List.map_map]
  refine (List.map_congr_left fun line member => ?_).trans (List.map_id lines)
  rw [Function.comp_apply, id_eq]
  cases blank : isBlankText line with
  | true => rw [indentBy_of_blank blank, empty line member blank, List.drop_nil]
  | false => rw [indentBy_of_full blank, List.drop_left' List.length_replicate]

/-! The least indentation. -/

/-- The indentations of the lines that are not blank. -/
def indents (lines : List (List Char)) : List Nat :=
  (lines.filter fun line => !isBlankText line).map indent

theorem margin?_eq (lines : List (List Char)) : margin? lines = (indents lines).min? := rfl

theorem indents_append (lines more : List (List Char)) :
    indents (lines ++ more) = indents lines ++ indents more := by
  rw [indents, List.filter_append, List.map_append, indents, indents]

theorem mem_indents (full : isBlankText line = false) (member : line ∈ lines) :
    indent line ∈ indents lines :=
  List.mem_map_of_mem (List.mem_filter.mpr ⟨member, by rw [full]; rfl⟩)

theorem indents_indentBy (n : Nat) (lines : List (List Char)) :
    indents (lines.map (indentBy n)) = (indents lines).map (n + ·) := by
  induction lines with
  | nil => rfl
  | cons line lines induction =>
      unfold indents at induction ⊢
      rw [List.map_cons, List.filter_cons, List.filter_cons, isBlankText_indentBy]
      cases blank : isBlankText line with
      | true => exact induction
      | false =>
          rw [Bool.not_false, if_pos rfl, if_pos rfl, List.map_cons, List.map_cons, List.map_cons,
            induction, indentBy_of_full blank, indent_spaces]

theorem margin?_indentBy (flush : 0 ∈ indents lines) (n : Nat) :
    margin? (lines.map (indentBy n)) = some n := by
  rw [margin?_eq, indents_indentBy, List.min?_eq_some_iff]
  refine ⟨List.mem_map.mpr ⟨0, flush, rfl⟩, fun other member => ?_⟩
  obtain ⟨before, -, rfl⟩ := List.mem_map.mp member
  exact Nat.le_add_right n before

theorem margin?_append {more : List (List Char)}
    (same : ∀ other ∈ indents more, other = (margin? lines).getD 0) :
    (margin? (lines ++ more)).getD 0 = (margin? lines).getD 0 := by
  rw [margin?_eq, margin?_eq, indents_append] at *
  cases least : (indents lines).min? with
  | none =>
      -- All lines are blank, and only those that are added have a margin.
      rw [least] at same
      rw [List.min?_eq_none_iff.mp least, List.nil_append]
      cases behind : (indents more).min? with
      | none => rfl
      | some other => exact same other (List.min?_mem behind)
  | some m =>
      rw [least] at same
      obtain ⟨member, below⟩ := List.min?_eq_some_iff.mp least
      have stays : (indents lines ++ indents more).min? = some m := by
        refine List.min?_eq_some_iff.mpr ⟨List.mem_append_left _ member, fun other among => ?_⟩
        rcases List.mem_append.mp among with here | there
        · exact below other here
        · exact (same other there).ge
      rw [stays]

/-! Cleaning. -/

def rawLines (text : List Char) : List (List Char) :=
  match splitAt '\n' (expandTabs 0 text) with
  | [] => []
  | first :: rest => trimLeft first :: rest.map fun line => line.drop ((margin? rest).getD 0)

theorem cleanLines_eq (text : List Char) : cleanLines text = dropEmptyEnds (rawLines text) := by
  unfold cleanLines rawLines
  cases splitAt '\n' (expandTabs 0 text) <;> rfl

theorem dropEmptyEnds_eq_self (front : lines.head? ≠ some []) (back : lines.getLast? ≠ some []) :
    dropEmptyEnds lines = lines := by
  have left : lines.dropWhile List.isEmpty = lines := by
    refine dropWhile_eq_self_iff.mpr fun line first => ?_
    exact List.isEmpty_eq_false_iff.mpr fun empty => front (empty ▸ first)
  have right : lines.rdropWhile List.isEmpty = lines := by
    refine rdropWhile_eq_self_iff.mpr fun line last => ?_
    exact List.isEmpty_eq_false_iff.mpr fun empty => back (empty ▸ last)
  rw [dropEmptyEnds, left]
  exact right

theorem rawLines_indentBy {first : List Char} {rest : List (List Char)}
    (plain : ∀ line ∈ first :: rest, '\t' ∉ line ∧ '\n' ∉ line)
    (empty : ∀ line ∈ rest, isBlankText line = true → line = [])
    (flush : rest ≠ [] → 0 ∈ indents rest) (n : Nat) :
    rawLines (joinWith ['\n'] (first :: rest.map (indentBy n))) = trimLeft first :: rest := by
  have moved : ∀ c, c ≠ ' ' → (∀ line ∈ first :: rest, c ∉ line) →
      ∀ line ∈ first :: rest.map (indentBy n), c ∉ line := fun c other without =>
    List.forall_mem_cons.mpr ⟨without first List.mem_cons_self, not_mem_indentBy other
      (fun line member => without line (List.mem_cons_of_mem first member)) n⟩
  have noTab : '\t' ∉ joinWith ['\n'] (first :: rest.map (indentBy n)) := fun member => by
    obtain ⟨line, within, among⟩ := exists_of_mem_joinWith (by decide) member
    exact moved '\t' (by decide) (fun line within => (plain line within).1) line within among
  have pieces : splitAt '\n' (joinWith ['\n'] (first :: rest.map (indentBy n))) =
      first :: rest.map (indentBy n) :=
    splitAt_joinWith (List.cons_ne_nil _ _)
      (moved '\n' (by decide) fun line within => (plain line within).2)
  rw [rawLines, expandTabs_of_not_mem noTab, pieces]
  dsimp only
  by_cases alone : rest = []
  · subst alone
    rfl
  · rw [margin?_indentBy (flush alone), Option.getD_some, map_drop_indentBy empty]

theorem flatMap_dropEmptyEnds {β : Type} {f : List Char → List β} (nothing : f [] = [])
    (lines : List (List Char)) : (dropEmptyEnds lines).flatMap f = lines.flatMap f := by
  have left : ∀ lines, (List.dropWhile List.isEmpty lines).flatMap f = lines.flatMap f := by
    intro lines
    induction lines with
    | nil => rfl
    | cons line lines induction =>
        cases line with
        | nil => rw [List.dropWhile_cons_of_pos rfl, induction, List.flatMap_cons, nothing]; rfl
        | cons c line => rw [List.dropWhile_cons_of_neg (by simp)]
  have right : ∀ lines, (List.rdropWhile List.isEmpty lines).flatMap f = lines.flatMap f := by
    intro lines
    induction lines using List.reverseRecOn with
    | nil => rfl
    | append_singleton lines line induction =>
        cases line with
        | nil =>
            rw [List.rdropWhile_concat_pos _ _ _ rfl, induction, List.flatMap_append,
              List.flatMap_singleton, nothing, List.append_nil]
        | cons c line => rw [List.rdropWhile_concat_neg _ _ _ (by simp)]
  exact (right _).trans (left lines)

/-- Cleaning loses no line that is not blank. -/
theorem fullLines_clean (text : List Char) :
    fullLines (clean text) = (rawLines text).flatMap fullLines := by
  rw [clean, cleanLines_eq, fullLines_joinWith, flatMap_dropEmptyEnds]
  rfl

end RouteDocs.Docstring
