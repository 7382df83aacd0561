import RouteDocs.App.Docstring
import RouteDocs.Proofs.Text.Pieces

/-!
Paragraphs of a text. Blocks of lines with a blank line between neighbours are found again.
-/

namespace RouteDocs

namespace Text

variable {s t separator : List Char} {pieces : List (List Char)}

/-- A text with something in it and no blanks around it. -/
structure IsTrimmed (s : List Char) : Prop where
  full : s ≠ []
  trimmed : trimChars s = s

theorem IsTrimmed.head (isTrimmed : IsTrimmed s) : ∀ c ∈ s.head?, isBlank c = false :=
  (trimChars_eq_self_iff.mp isTrimmed.trimmed).1

theorem IsTrimmed.last (isTrimmed : IsTrimmed s) : ∀ c ∈ s.getLast?, isBlank c = false :=
  (trimChars_eq_self_iff.mp isTrimmed.trimmed).2

theorem IsTrimmed.head_append (isTrimmed : IsTrimmed s) (t : List Char) :
    ∀ c ∈ (s ++ t).head?, isBlank c = false := by
  rw [List.head?_append_of_ne_nil _ isTrimmed.full]
  exact isTrimmed.head

theorem IsTrimmed.append (front : IsTrimmed s) (middle : List Char) (back : IsTrimmed t) :
    IsTrimmed (s ++ middle ++ t) where
  full := by simp [front.full]
  trimmed := by
    refine trimChars_eq_self_iff.mpr ⟨?_, ?_⟩
    · rw [List.append_assoc]
      exact front.head_append _
    · rw [List.getLast?_append_of_ne_nil _ back.full]
      exact back.last

theorem IsTrimmed.joinWith (some_ : pieces ≠ []) (isTrimmed : ∀ piece ∈ pieces, IsTrimmed piece)
    (separator : List Char) : IsTrimmed (joinWith separator pieces) := by
  induction pieces using joinWith.induct with
  | case1 => exact absurd rfl some_
  | case2 piece => exact isTrimmed piece List.mem_cons_self
  | case3 piece next rest induction =>
      have later := induction (List.cons_ne_nil next rest) fun other member =>
        isTrimmed other (List.mem_cons_of_mem piece member)
      exact (isTrimmed piece List.mem_cons_self).append separator later

theorem IsTrimmed.trimChars_feed (isTrimmed : IsTrimmed s) : trimChars (s ++ ['\n']) = s := by
  have front : trimLeft (s ++ ['\n']) = s ++ ['\n'] :=
    dropWhile_eq_self_iff.mpr (isTrimmed.head_append ['\n'])
  have back : (s ++ ['\n']).rdropWhile isBlank = s := by
    rw [List.rdropWhile_concat_pos _ _ _ (by decide)]
    exact rdropWhile_eq_self_iff.mpr isTrimmed.last
  rw [trimChars, front]
  exact back

theorem joinWith_append {others : List (List Char)} (some_ : pieces ≠ []) (more : others ≠ []) :
    joinWith separator (pieces ++ others) =
      joinWith separator pieces ++ separator ++ joinWith separator others := by
  induction pieces using joinWith.induct with
  | case1 => exact absurd rfl some_
  | case2 piece => exact joinWith_cons more
  | case3 piece next rest induction =>
      have later := induction (List.cons_ne_nil next rest)
      rw [List.cons_append] at later
      rw [List.cons_append, List.cons_append, joinWith, later, joinWith]
      simp only [List.append_assoc]

/-- Lines that stand one below the other, with none of them blank or indented. -/
structure IsBlock (lines : List (List Char)) : Prop where
  some_ : lines ≠ []
  trimmed : ∀ line ∈ lines, IsTrimmed line
  single : ∀ line ∈ lines, '\n' ∉ line

theorem IsBlock.isTrimmed {lines : List (List Char)} (isBlock : IsBlock lines) :
    IsTrimmed (Text.joinWith ['\n'] lines) :=
  .joinWith isBlock.some_ isBlock.trimmed ['\n']

theorem isTrimmed_blocks {blocks : List (List (List Char))} (some_ : blocks ≠ [])
    (isBlock : ∀ block ∈ blocks, IsBlock block) :
    IsTrimmed (joinWith ['\n', '\n'] (blocks.map (joinWith ['\n']))) := by
  refine .joinWith (by simpa using some_) (fun piece member => ?_) _
  obtain ⟨block, among, rfl⟩ := List.mem_map.mp member
  exact (isBlock block among).isTrimmed

theorem joinWith_blocks {first : List (List Char)} (some_ : first ≠ [])
    {blocks : List (List (List Char))} (full : ∀ block ∈ blocks, block ≠ []) :
    joinWith ['\n'] (first ++ blocks.flatMap ([] :: ·)) =
      joinWith ['\n', '\n'] ((first :: blocks).map (joinWith ['\n'])) := by
  induction blocks generalizing first with
  | nil => simp [joinWith]
  | cons block blocks induction =>
      have here := full block List.mem_cons_self
      have later := induction here fun other member => full other (List.mem_cons_of_mem block member)
      have whole : joinWith ['\n', '\n'] ((first :: block :: blocks).map (joinWith ['\n'])) =
          joinWith ['\n'] first ++ ['\n', '\n'] ++
            joinWith ['\n', '\n'] ((block :: blocks).map (joinWith ['\n'])) := by
        rw [List.map_cons]
        exact joinWith_cons (by simp)
      rw [List.flatMap_cons, List.cons_append, joinWith_append some_ (by simp),
        joinWith_cons (by simp [here]), later, whole]
      simp only [List.append_assoc, List.cons_append, List.nil_append]

end Text

namespace Docstring

open Text

variable {line rest : List Char}

theorem afterBlankLines?_of_full (full : ∀ c ∈ rest.head?, isBlank c = false) :
    afterBlankLines? rest = none := by
  cases rest with
  | nil => rfl
  | cons c rest => rw [afterBlankLines?, full c rfl, if_neg Bool.false_ne_true]

theorem paragraphsFrom_passed (without : '\n' ∉ line) (before rest : List Char) :
    paragraphsFrom before (line ++ rest) = paragraphsFrom (line.reverse ++ before) rest := by
  induction line generalizing before with
  | nil => rfl
  | cons c line induction =>
      obtain ⟨other, without⟩ := not_or.mp (mt List.mem_cons.mpr without)
      rw [List.cons_append, paragraphsFrom, if_neg (Ne.symm other), induction without,
        List.reverse_cons, List.append_assoc, List.singleton_append]

theorem paragraphsFrom_feed (full : ∀ c ∈ rest.head?, isBlank c = false) (before : List Char) :
    paragraphsFrom before ('\n' :: rest) = paragraphsFrom ('\n' :: before) rest := by
  rw [paragraphsFrom, if_pos rfl]
  split
  · rename_i after found
    rw [afterBlankLines?_of_full full] at found
    cases found
  · rfl

theorem paragraphsFrom_blankLine (full : ∀ c ∈ rest.head?, isBlank c = false)
    (before : List Char) :
    paragraphsFrom before ('\n' :: '\n' :: rest) = before.reverse :: paragraphsFrom [] rest := by
  have gap : afterBlankLines? ('\n' :: rest) = some rest := by
    rw [afterBlankLines?, afterBlankLines?_of_full full, if_pos (by decide)]
    rfl
  rw [paragraphsFrom, if_pos rfl]
  split
  · rename_i after found
    rw [gap] at found
    cases found
    rfl
  · rename_i none_
    rw [gap] at none_
    cases none_

theorem paragraphsFrom_block {lines : List (List Char)} (isBlock : IsBlock lines)
    (before rest : List Char) :
    paragraphsFrom before (joinWith ['\n'] lines ++ rest) =
      paragraphsFrom ((joinWith ['\n'] lines).reverse ++ before) rest := by
  obtain ⟨some_, trimmed, single⟩ := isBlock
  induction lines using joinWith.induct generalizing before with
  | case1 => exact absurd rfl some_
  | case2 line => exact paragraphsFrom_passed (single line List.mem_cons_self) before rest
  | case3 line next more induction =>
      have trimmedBelow : ∀ other ∈ next :: more, IsTrimmed other := fun other member =>
        trimmed other (List.mem_cons_of_mem line member)
      have singleBelow : ∀ other ∈ next :: more, '\n' ∉ other := fun other member =>
        single other (List.mem_cons_of_mem line member)
      have below : IsTrimmed (joinWith ['\n'] (next :: more)) :=
        .joinWith (List.cons_ne_nil next more) trimmedBelow ['\n']
      rw [joinWith, List.append_assoc, List.append_assoc,
        paragraphsFrom_passed (single line List.mem_cons_self), List.singleton_append,
        paragraphsFrom_feed (below.head_append rest),
        induction _ (List.cons_ne_nil next more) trimmedBelow singleBelow]
      simp

theorem paragraphs_blocks {blocks : List (List (List Char))} (some_ : blocks ≠ [])
    (isBlock : ∀ block ∈ blocks, IsBlock block) :
    paragraphs (joinWith ['\n', '\n'] (blocks.map (joinWith ['\n']))) =
      blocks.map (joinWith ['\n']) := by
  have found : paragraphsFrom [] (joinWith ['\n', '\n'] (blocks.map (joinWith ['\n']))) =
      blocks.map (joinWith ['\n']) := by
    induction blocks with
    | nil => exact absurd rfl some_
    | cons block rest induction =>
        have here := isBlock block List.mem_cons_self
        cases rest with
        | nil =>
            rw [List.map_singleton, joinWith, ← List.append_nil (joinWith ['\n'] block),
              paragraphsFrom_block here, paragraphsFrom]
            simp
        | cons next more =>
            have later : ∀ block ∈ next :: more, IsBlock block := fun other member =>
              isBlock other (List.mem_cons_of_mem block member)
            -- The gap ends here: what follows it does not start with a blank.
            have below := (isTrimmed_blocks (List.cons_ne_nil next more) later).head
            rw [List.map_cons, joinWith_cons (by simp), List.append_assoc,
              paragraphsFrom_block here, List.cons_append, List.singleton_append,
              paragraphsFrom_blankLine below, induction (List.cons_ne_nil next more) later]
            simp
  rw [paragraphs, List.isEmpty_eq_false_iff.mpr (isTrimmed_blocks some_ isBlock).full,
    if_neg Bool.false_ne_true, found]

end Docstring
end RouteDocs
