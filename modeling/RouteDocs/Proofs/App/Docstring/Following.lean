import RouteDocs.Proofs.App.Docstring.Sections

/-!
What follows a docstring. Nothing but a heading ends a section: lines behind a last section `Raises`
belong to it, and since they are not indented, its entries only go on with what is before them.
-/

namespace RouteDocs.Docstring

open Text

variable {line : List Char} {lines closing : List (List Char)} {text : String}

/-- The indentation that lines at the margin of a docstring have. -/
def marginOf (text : String) : Nat :=
  (margin? (splitAt '\n' (expandTabs 0 text.toList)).tail).getD 0

/-- The docstring with a blank line and further lines behind it, at its margin. -/
def followed (text : String) (closing : List (List Char)) : String :=
  String.ofList (text.toList ++
    '\n' :: joinWith ['\n'] ([] :: closing.map (indentBy (marginOf text))))

/-- Lines that are not indented, with no heading among them. -/
structure IsClosing (closing : List (List Char)) : Prop where
  full : ∃ line ∈ closing, line ≠ []
  plain : ∀ line ∈ closing, IsPlain line
  flush : ∀ line ∈ closing, indent line = 0
  no_heading : ∀ line ∈ closing, ∀ name ∈ sectionNames, trimChars line ≠ name.toList ++ [':']

instance (closing : List (List Char)) : Decidable (IsClosing closing) :=
  decidable_of_iff ((∃ line ∈ closing, line ≠ []) ∧ (∀ line ∈ closing, IsPlain line) ∧
      (∀ line ∈ closing, indent line = 0) ∧
      ∀ line ∈ closing, ∀ name ∈ sectionNames, trimChars line ≠ name.toList ++ [':'])
    ⟨fun ⟨full, plain, flush, heading⟩ => ⟨full, plain, flush, heading⟩,
      fun closes => ⟨closes.full, closes.plain, closes.flush, closes.no_heading⟩⟩

/-- The section that is open at the end of a docstring. -/
def openSection (text : String) : Option String :=
  sectionAfter none (Text.lines (clean text.toList))

/-- Lines that are neither blank nor indented. -/
def flushLines (lines : List (List Char)) : List (List Char) :=
  lines.filter fun line => !isBlankText line && decide (indent line = 0)

theorem IsClosing.empty (isClosing : IsClosing closing) (member : line ∈ closing)
    (blank : isBlankText line = true) : line = [] := by
  cases line with
  | nil => rfl
  | cons c rest =>
      have stays := indent_eq_zero_iff.mp (isClosing.flush _ member) c rfl
      rw [isBlankText, List.all_cons, stays] at blank
      cases blank

/-! The lines of a docstring that something follows. -/

theorem rawLines_followed (isClosing : IsClosing closing) (text : String) :
    rawLines (followed text closing).toList = rawLines text.toList ++ [] :: closing := by
  have behind : ∀ c, c ≠ ' ' → (∀ line ∈ closing, c ∉ line) →
      ∀ line ∈ [] :: closing.map (indentBy (marginOf text)), c ∉ line := fun c other without =>
    List.forall_mem_cons.mpr ⟨List.not_mem_nil, not_mem_indentBy other without _⟩
  have noTab : '\t' ∉ joinWith ['\n'] ([] :: closing.map (indentBy (marginOf text))) := by
    intro member
    obtain ⟨line, within, among⟩ := exists_of_mem_joinWith (by decide) member
    exact behind '\t' (by decide) (fun line within => (isClosing.plain line within).no_tab)
      line within among
  have pieces : splitAt '\n' (expandTabs 0 (followed text closing).toList) =
      splitAt '\n' (expandTabs 0 text.toList) ++
        [] :: closing.map (indentBy (marginOf text)) := by
    rw [followed, String.toList_ofList, expandTabs_append_feed, expandTabs_of_not_mem noTab,
      splitAt_append_separator, splitAt_joinWith (List.cons_ne_nil _ _)]
    exact behind '\n' (by decide) fun line within =>
      (isClosing.plain line within).unbroken.no_feed
  obtain ⟨first, rest, given⟩ :=
    List.exists_cons_of_ne_nil (splitAt_ne_nil '\n' (expandTabs 0 text.toList))
  have margin : (margin? rest).getD 0 = marginOf text := by rw [marginOf, given, List.tail_cons]
  -- The lines behind the text are at its margin, so that the margin of the whole is the same.
  have same : ∀ other ∈ indents ([] :: closing.map (indentBy (marginOf text))),
      other = (margin? rest).getD 0 := by
    intro other member
    have moved : other ∈ indents (closing.map (indentBy (marginOf text))) := member
    rw [indents_indentBy] at moved
    obtain ⟨before, within, rfl⟩ := List.mem_map.mp moved
    obtain ⟨line, among, rfl⟩ := List.mem_map.mp within
    rw [isClosing.flush line (List.mem_filter.mp among).1, margin, Nat.add_zero]
  rw [rawLines, rawLines, pieces, given, List.cons_append]
  dsimp only
  rw [margin?_append same, margin, List.map_append, List.map_cons, List.drop_nil,
    map_drop_indentBy fun _ => isClosing.empty, List.cons_append]

theorem flatMap_fullLines (unbroken : ∀ line ∈ lines, Unbroken line) :
    lines.flatMap fullLines = lines.filter fun line => !isBlankText line := by
  induction lines with
  | nil => rfl
  | cons line lines induction =>
      rw [List.flatMap_cons, fullLines_of_unbroken (unbroken line List.mem_cons_self),
        induction fun other member => unbroken other (List.mem_cons_of_mem line member),
        List.filter_cons]
      cases isBlankText line <;> rfl

theorem fullLines_followed (isClosing : IsClosing closing) (text : String) :
    fullLines (clean (followed text closing).toList) =
      fullLines (clean text.toList) ++ closing.filter fun line => !isBlankText line := by
  have unbroken : ∀ line ∈ closing, Unbroken line := fun line member =>
    (isClosing.plain line member).unbroken
  rw [fullLines_clean, rawLines_followed isClosing, List.flatMap_append, List.flatMap_cons,
    flatMap_fullLines unbroken, ← fullLines_clean]
  rfl

theorem IsClosing.sectionName? (isClosing : IsClosing closing) :
    ∀ line ∈ closing, sectionName? line = none := fun line member =>
  sectionName?_of_other (isClosing.no_heading line member)

theorem raisesLines_followed (isClosing : IsClosing closing) (text : String) :
    (raisesLines (followed text closing)).filter (fun line => !isBlankText line) =
      (raisesLines text).filter (fun line => !isBlankText line) ++
        if openSection text = some "Raises" then closing.filter fun line => !isBlankText line
        else [] := by
  have plain : ∀ line ∈ closing.filter fun line => !isBlankText line,
      Docstring.sectionName? line = none := fun line member =>
    isClosing.sectionName? line (List.mem_filter.mp member).1
  have open_ : sectionAfter none (fullLines (clean text.toList)) = openSection text :=
    sectionAfter_filter none _
  have before : (layoutFrom none (fullLines (clean text.toList))).raises =
      (raisesLines text).filter fun line => !isBlankText line :=
    raises_layoutFrom_filter none _
  rw [raisesLines, ← raises_layoutFrom_filter, ← fullLines, fullLines_followed isClosing,
    raises_layoutFrom_append, raises_layoutFrom_plain plain, open_, before]

/-! Entries at the margin. -/

theorem entryLines_of_flush (flush : 0 ∈ indents lines) : entryLines lines = flushLines lines := by
  have least : margin? lines = some 0 := by
    rw [margin?_eq, List.min?_eq_some_iff]
    exact ⟨flush, fun other _ => Nat.zero_le other⟩
  simp only [entryLines, flushLines, least, Option.getD_some, Nat.le_zero]

theorem entryNames_filter (lines : List (List Char)) :
    entryNames (lines.filter fun line => !isBlankText line) = entryNames lines := by
  induction lines with
  | nil => rfl
  | cons line lines induction =>
      cases blank : isBlankText line with
      | true =>
          have unnamed : entryName? (trimChars line) = none := by
            rw [trimChars_of_blank blank]
            rfl
          rw [List.filter_cons_of_neg (by simp [blank]), induction, entryNames, entryNames,
            List.filterMap_cons, unnamed]
      | false =>
          rw [List.filter_cons_of_pos (by simp [blank])]
          unfold entryNames at induction ⊢
          rw [List.filterMap_cons, List.filterMap_cons, induction]

theorem entryNames_append (lines more : List (List Char)) :
    entryNames (lines ++ more) = entryNames lines ++ entryNames more :=
  List.filterMap_append

theorem flushLines_filter (lines : List (List Char)) :
    flushLines (lines.filter fun line => !isBlankText line) = flushLines lines := by
  rw [flushLines, List.filter_filter, flushLines]
  congr 1
  funext line
  cases isBlankText line <;> simp

theorem IsClosing.flushLines_filter (isClosing : IsClosing closing) :
    flushLines (closing.filter fun line => !isBlankText line) =
      closing.filter fun line => !isBlankText line := by
  refine List.filter_eq_self.mpr fun line member => ?_
  obtain ⟨among, full⟩ := List.mem_filter.mp member
  rw [full, isClosing.flush line among]
  rfl

theorem IsClosing.zero_mem_indents (isClosing : IsClosing closing) : 0 ∈ indents closing := by
  obtain ⟨line, member, some_⟩ := isClosing.full
  have full : isBlankText line = false :=
    Bool.eq_false_iff.mpr fun blank => some_ (isClosing.empty member blank)
  rw [← isClosing.flush line member]
  exact mem_indents full member

theorem entryNames_followed (isClosing : IsClosing closing)
    (open_ : openSection text = some "Raises") :
    entryNames (entryLines (raisesLines (followed text closing))) =
      entryNames (flushLines (raisesLines text) ++ closing) := by
  have flush : 0 ∈ indents ((raisesLines text).filter (fun line => !isBlankText line) ++
      closing.filter fun line => !isBlankText line) := by
    rw [indents_append, indents_filter closing]
    exact List.mem_append_right _ isClosing.zero_mem_indents
  rw [← entryLines_filter, raisesLines_followed isClosing, if_pos open_,
    entryLines_of_flush flush, flushLines, List.filter_append, ← flushLines, ← flushLines,
    Docstring.flushLines_filter, isClosing.flushLines_filter, entryNames_append,
    entryNames_filter, ← entryNames_append]

/-- Text behind a docstring leaves the errors that it declares as they are, if another section is
open there. If it is a section `Raises`, the lines at the margin are its entries from then on, and
all others go on with an entry. -/
theorem raises_followed (isClosing : IsClosing closing)
    (noField : fields (followed text closing) = fields text) :
    (openSection text ≠ some "Raises" →
        (read (followed text closing)).raises = (read text).raises) ∧
      (openSection text = some "Raises" →
        (read (followed text closing)).raises =
          (entryNames (flushLines (raisesLines text) ++ closing) ++ fields text).eraseDups) := by
  constructor
  · intro closed
    rw [raises_read, raises_read, noField, ← entryLines_filter, raisesLines_followed isClosing,
      if_neg closed, List.append_nil, entryLines_filter]
  · intro open_
    rw [raises_read, noField, entryNames_followed isClosing open_]

/-- A field, then a section that stays open. -/
def removal : String :=
  "Remove a user.\n\n    :raises errors.Locked: At night.\n\n    Raises:\n\tGone: Long ago.\n    "

/-- The section is not the last one. -/
def lookup : String :=
  "Show one user.\n\nRaises:\n    Gone: Long ago.\n\nReturns:\n    The user."

def warning : List (List Char) := ["Warning:".toList, [], "Not for guests.".toList]

theorem raises_followed_warning :
    IsClosing warning ∧
      (fields (followed removal warning) = fields removal ∧ openSection removal = some "Raises" ∧
        (read removal).raises = ["Gone", "errors.Locked"] ∧
        (read (followed removal warning)).raises = ["Warning", "errors.Locked"]) ∧
      fields (followed lookup warning) = fields lookup ∧ openSection lookup = some "Returns" ∧
        (read lookup).raises = ["Gone"] ∧ (read (followed lookup warning)).raises = ["Gone"] := by
  have isClosing : IsClosing warning := by decide +kernel
  have field : fields removal = ["errors.Locked"] := by decide +kernel
  have noField : fields (followed removal warning) = fields removal := by
    rw [field, fields, followed, String.toList_ofList]
    decide +kernel
  have open_ : openSection removal = some "Raises" := by decide +kernel
  have named : (entryNames (flushLines (raisesLines removal) ++ warning) ++
      fields removal).eraseDups = ["Warning", "errors.Locked"] := by
    rw [field]
    decide +kernel
  have noFieldHere : fields (followed lookup warning) = fields lookup := by decide +kernel
  have closed : openSection lookup = some "Returns" := by decide +kernel
  have before : (read lookup).raises = ["Gone"] := by decide +kernel
  exact ⟨isClosing,
    ⟨noField, open_, by decide +kernel, ((raises_followed isClosing noField).2 open_).trans named⟩,
    noFieldHere, closed, before,
    ((raises_followed isClosing noFieldHere).1 (closed ▸ by decide)).trans before⟩

def shown : String := "Show one user.\n\nRaises:\n    UserNotFound: When no user has this id."

/-- A closing sentence takes the only entry away. -/
theorem entries_lost :
    IsClosing ["See the list.".toList] ∧
      followed shown ["See the list.".toList] = shown ++ "\n\nSee the list." ∧
      fields (followed shown ["See the list.".toList]) = fields shown ∧
      (read shown).raises = ["UserNotFound"] ∧
      (read (followed shown ["See the list.".toList])).raises = [] := by
  decide +kernel

end RouteDocs.Docstring
