import RouteDocs.Proofs.Text.Pieces

/-!
Lines of a text. Lines that are joined by line feeds are found again; of texts that are joined so,
the lines that are not blank are those of either text.
-/

namespace RouteDocs.Text

/-- No line ends in the text. -/
def Unbroken (s : List Char) : Prop := ∀ c ∈ s, isLineBreak c = false

-- Not by instance search, which may choose to run through all characters.
instance (s : List Char) : Decidable (Unbroken s) := List.decidableBAll _ s

variable {c : Char} {line s t : List Char}

theorem Unbroken.head (unbroken : Unbroken (c :: s)) : isLineBreak c = false :=
  unbroken c List.mem_cons_self

theorem Unbroken.tail (unbroken : Unbroken (c :: s)) : Unbroken s :=
  fun d member => unbroken d (List.mem_cons_of_mem c member)

theorem Unbroken.append (unbroken : Unbroken s) (other : Unbroken t) : Unbroken (s ++ t) :=
  fun c member => (List.mem_append.mp member).elim (unbroken c) (other c)

theorem Unbroken.no_feed (unbroken : Unbroken s) : '\n' ∉ s := fun member =>
  absurd (unbroken _ member) (by decide)

theorem linesFrom_cons {rest : List Char} (single : c = '\r' → rest.head? ≠ some '\n')
    (line : List Char) :
    linesFrom line (c :: rest) =
      if isLineBreak c then line.reverse :: linesFrom [] rest else linesFrom (c :: line) rest := by
  rw [linesFrom]
  rintro rest rfl rfl
  exact single rfl rfl

theorem ne_return_of_stays (stays : isLineBreak c = false) : c ≠ '\r' := by
  rintro rfl
  exact absurd stays (by decide)

theorem linesFrom_feed (line rest : List Char) :
    linesFrom line ('\n' :: rest) = line.reverse :: linesFrom [] rest := by
  rw [linesFrom_cons fun same => absurd same (by decide), if_pos (by decide)]

theorem linesFrom_append_feed (unbroken : Unbroken s) (line rest : List Char) :
    linesFrom line (s ++ '\n' :: rest) = (line.reverse ++ s) :: linesFrom [] rest := by
  induction s generalizing line with
  | nil =>
      rw [List.nil_append, linesFrom_feed, List.append_nil]
  | cons c s induction =>
      have stays := unbroken.head
      rw [List.cons_append, linesFrom_cons (absurd · (ne_return_of_stays stays)), stays,
        if_neg Bool.false_ne_true, induction unbroken.tail]
      simp

theorem linesFrom_of_unbroken (unbroken : Unbroken s) (line : List Char) :
    linesFrom line s = if (line.reverse ++ s).isEmpty then [] else [line.reverse ++ s] := by
  induction s generalizing line with
  | nil => simp [linesFrom]
  | cons c s induction =>
      have stays := unbroken.head
      rw [linesFrom_cons (absurd · (ne_return_of_stays stays)), stays,
        if_neg Bool.false_ne_true, induction unbroken.tail]
      simp

theorem lines_joinWith {pieces : List (List Char)} (unbroken : ∀ piece ∈ pieces, Unbroken piece)
    (full : ∀ piece ∈ pieces.getLast?, piece ≠ []) : lines (joinWith ['\n'] pieces) = pieces := by
  induction pieces using joinWith.induct with
  | case1 => rfl
  | case2 piece =>
      have some_ : piece.isEmpty = false := List.isEmpty_eq_false_iff.mpr (full piece rfl)
      rw [joinWith, lines, linesFrom_of_unbroken (unbroken piece List.mem_cons_self),
        List.reverse_nil, List.nil_append, some_, if_neg Bool.false_ne_true]
  | case3 piece next rest induction =>
      rw [List.getLast?_cons_cons] at full
      have later := induction (fun other member => unbroken other (List.mem_cons_of_mem _ member)) full
      rw [joinWith, List.append_assoc, List.singleton_append, lines,
        linesFrom_append_feed (unbroken piece List.mem_cons_self), List.reverse_nil, List.nil_append,
        ← lines, later]

/-! Lines that are not blank. -/

def fullLines (s : List Char) : List (List Char) := (lines s).filter fun line => !isBlankText line

theorem filter_linesFrom_append (line s t : List Char) :
    (linesFrom line (s ++ '\n' :: t)).filter (fun line => !isBlankText line) =
      (linesFrom line s).filter (fun line => !isBlankText line) ++ fullLines t := by
  induction line, s using linesFrom.induct with
  | case1 line empty =>
      obtain rfl := List.isEmpty_iff.mp empty
      rw [List.nil_append, linesFrom_feed]
      rfl
  | case2 line full =>
      rw [List.nil_append, linesFrom_feed, linesFrom, if_neg full, List.filter_cons, List.filter_cons]
      split <;> rfl
  | case3 line rest induction =>
      rw [List.cons_append, List.cons_append, linesFrom, linesFrom, List.filter_cons,
        List.filter_cons, induction]
      split <;> rfl
  | case4 line c rest single breaks induction =>
      by_cases lone : c = '\r' ∧ rest = []
      · -- The carriage return and the line feed behind it are one break.
        obtain ⟨rfl, rfl⟩ := lone
        rw [List.singleton_append, linesFrom, linesFrom_cons fun _ => by simp, if_pos breaks,
          List.filter_cons, List.filter_cons]
        split <;> rfl
      · have apart : c = '\r' → (rest ++ '\n' :: t).head? ≠ some '\n' := by
          rintro rfl feeds
          cases rest with
          | nil => exact lone ⟨rfl, rfl⟩
          | cons d rest =>
              cases feeds
              exact single rest rfl rfl
        have alone : c = '\r' → rest.head? ≠ some '\n' := fun same feeds => by
          obtain ⟨more, rfl⟩ := List.head?_eq_some_iff.mp feeds
          exact single more same rfl
        rw [List.cons_append, linesFrom_cons apart, linesFrom_cons alone, if_pos breaks,
          if_pos breaks, List.filter_cons, List.filter_cons, induction]
        split <;> rfl
  | case5 line c rest single stays induction =>
      have other := ne_return_of_stays (Bool.not_eq_true _ ▸ stays)
      rw [List.cons_append, linesFrom_cons (absurd · other), linesFrom_cons (absurd · other),
        if_neg stays, if_neg stays, induction]

theorem fullLines_append (s t : List Char) :
    fullLines (s ++ '\n' :: t) = fullLines s ++ fullLines t :=
  filter_linesFrom_append [] s t

theorem fullLines_of_unbroken (unbroken : Unbroken s) :
    fullLines s = if isBlankText s then [] else [s] := by
  rw [fullLines, lines, linesFrom_of_unbroken unbroken, List.reverse_nil, List.nil_append]
  cases s with
  | nil => rfl
  | cons c rest =>
      rw [List.isEmpty_cons, if_neg Bool.false_ne_true, List.filter_cons]
      cases isBlankText (c :: rest) <;> rfl

theorem fullLines_joinWith (pieces : List (List Char)) :
    fullLines (joinWith ['\n'] pieces) = pieces.flatMap fullLines := by
  induction pieces using joinWith.induct with
  | case1 => rfl
  | case2 piece => rw [joinWith, List.flatMap_singleton]
  | case3 piece next rest induction =>
      rw [joinWith, List.append_assoc, List.singleton_append, fullLines_append, induction,
        ← List.flatMap_cons]

end RouteDocs.Text
