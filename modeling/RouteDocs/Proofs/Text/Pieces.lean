import Mathlib.Data.List.Basic
import Mathlib.Data.List.DropRight
import RouteDocs.Text.Blank
import RouteDocs.Text.Cut

/-!
The pieces of a text, which the separator joins to the text again. Texts without blanks around
them stay as they are when they are trimmed.
-/

namespace RouteDocs.Text

theorem splitAt_ne_nil (separator : Char) (s : List Char) : splitAt separator s ≠ [] := by
  cases s with
  | nil => simp [splitAt]
  | cons c rest =>
      rw [splitAt]
      split
      · simp
      · split <;> simp

theorem joinWith_cons {separator piece : List Char} {pieces : List (List Char)}
    (more : pieces ≠ []) :
    joinWith separator (piece :: pieces) = piece ++ separator ++ joinWith separator pieces := by
  obtain ⟨next, rest, rfl⟩ := List.exists_cons_of_ne_nil more
  rfl

theorem map_joinWith (f : Char → Char) (separator : List Char) (pieces : List (List Char)) :
    (joinWith separator pieces).map f =
      joinWith (separator.map f) (pieces.map (List.map f)) := by
  induction pieces using joinWith.induct with
  | case1 => rfl
  | case2 piece => rfl
  | case3 piece next rest induction =>
      simpa only [joinWith, List.map_append, List.map_cons, List.append_right_inj] using induction

theorem exists_of_mem_joinWith {separator : List Char} {pieces : List (List Char)} {c : Char}
    (other : c ∉ separator) (member : c ∈ joinWith separator pieces) :
    ∃ piece ∈ pieces, c ∈ piece := by
  induction pieces using joinWith.induct with
  | case1 => cases member
  | case2 piece => exact ⟨piece, List.mem_singleton_self piece, member⟩
  | case3 piece next rest induction =>
      rw [joinWith, List.mem_append, List.mem_append] at member
      rcases member with (here | here) | later
      · exact ⟨piece, List.mem_cons_self, here⟩
      · exact absurd here other
      · obtain ⟨found, among, within⟩ := induction later
        exact ⟨found, List.mem_cons_of_mem piece among, within⟩

theorem joinWith_cons_append (separator : List Char) (c : Char) (piece : List Char)
    (pieces : List (List Char)) :
    joinWith separator ((c :: piece) :: pieces) = c :: joinWith separator (piece :: pieces) := by
  cases pieces <;> rfl

theorem joinWith_splitAt (separator : Char) (s : List Char) :
    joinWith [separator] (splitAt separator s) = s := by
  induction s with
  | nil => rfl
  | cons c rest induction =>
      rw [splitAt]
      split
      · rename_i same
        rw [joinWith_cons (splitAt_ne_nil separator rest), induction, same]
        rfl
      · cases pieces : splitAt separator rest with
        | nil => exact absurd pieces (splitAt_ne_nil separator rest)
        | cons piece more => rw [joinWith_cons_append, ← pieces, induction]

theorem split_ne_nil (separator : Char) (s : String) : split separator s ≠ [] := by
  simp [split, splitAt_ne_nil]

theorem split_injective (separator : Char) : Function.Injective (split separator) := by
  intro first second same
  have pieces : splitAt separator first.toList = splitAt separator second.toList :=
    List.map_injective_iff.mpr (fun _ _ equal => String.ofList_injective equal) same
  apply String.toList_injective
  rw [← joinWith_splitAt separator first.toList, pieces, joinWith_splitAt]

theorem not_mem_of_mem_splitAt {separator : Char} {s piece : List Char}
    (member : piece ∈ splitAt separator s) : separator ∉ piece := by
  induction s generalizing piece with
  | nil =>
      rw [splitAt, List.mem_singleton] at member
      simp [member]
  | cons c rest induction =>
      rw [splitAt] at member
      split at member
      · rcases List.mem_cons.mp member with rfl | member
        · simp
        · exact induction member
      · rename_i other
        cases pieces : splitAt separator rest with
        | nil => exact absurd pieces (splitAt_ne_nil separator rest)
        | cons first more =>
            rw [pieces] at member
            rcases List.mem_cons.mp member with rfl | member
            · have here := induction (pieces ▸ List.mem_cons_self)
              exact List.not_mem_cons_of_ne_of_not_mem (Ne.symm other) here
            · exact induction (pieces ▸ List.mem_cons_of_mem first member)

theorem mem_of_mem_splitAt {separator c : Char} {s piece : List Char}
    (member : piece ∈ splitAt separator s) (among : c ∈ piece) : c ∈ s := by
  induction s generalizing piece with
  | nil =>
      rw [splitAt, List.mem_singleton] at member
      exact member ▸ among
  | cons head rest induction =>
      rw [splitAt] at member
      split at member
      · rcases List.mem_cons.mp member with rfl | member
        · exact absurd among List.not_mem_nil
        · exact List.mem_cons_of_mem head (induction member among)
      · cases pieces : splitAt separator rest with
        | nil => exact absurd pieces (splitAt_ne_nil separator rest)
        | cons first more =>
            rw [pieces] at member induction
            rcases List.mem_cons.mp member with rfl | member
            · rcases List.mem_cons.mp among with rfl | among
              · exact List.mem_cons_self
              · exact List.mem_cons_of_mem head (induction List.mem_cons_self among)
            · exact List.mem_cons_of_mem head (induction (List.mem_cons_of_mem first member) among)

theorem splitAt_append {separator : Char} {piece : List Char} (without : separator ∉ piece)
    (rest : List Char) :
    splitAt separator (piece ++ separator :: rest) = piece :: splitAt separator rest := by
  induction piece with
  | nil => simp [splitAt]
  | cons c piece induction =>
      obtain ⟨other, without⟩ := not_or.mp (mt List.mem_cons.mpr without)
      rw [List.cons_append, splitAt, if_neg (Ne.symm other), induction without]

theorem splitAt_append_separator (separator : Char) (s t : List Char) :
    splitAt separator (s ++ separator :: t) = splitAt separator s ++ splitAt separator t := by
  induction s with
  | nil => simp [splitAt]
  | cons c s induction =>
      rw [List.cons_append, splitAt, splitAt, induction]
      split
      · rfl
      · cases pieces : splitAt separator s with
        | nil => exact absurd pieces (splitAt_ne_nil separator s)
        | cons piece more => rfl

theorem splitAt_of_not_mem {separator : Char} {piece : List Char} (without : separator ∉ piece) :
    splitAt separator piece = [piece] := by
  induction piece with
  | nil => rfl
  | cons c piece induction =>
      obtain ⟨other, without⟩ := not_or.mp (mt List.mem_cons.mpr without)
      rw [splitAt, if_neg (Ne.symm other), induction without]

theorem splitAt_joinWith {separator : Char} {pieces : List (List Char)} (some_ : pieces ≠ [])
    (without : ∀ piece ∈ pieces, separator ∉ piece) :
    splitAt separator (joinWith [separator] pieces) = pieces := by
  induction pieces using joinWith.induct with
  | case1 => exact absurd rfl some_
  | case2 piece => exact splitAt_of_not_mem (without piece List.mem_cons_self)
  | case3 piece next rest induction =>
      have later := induction (List.cons_ne_nil next rest) fun other member =>
        without other (List.mem_cons_of_mem piece member)
      rw [joinWith, List.append_assoc, List.singleton_append,
        splitAt_append (without piece List.mem_cons_self), later]

theorem append_cons_eq_append_cons_iff {α : Type} {mark : α} {base ending other otherEnding : List α} :
    base ++ mark :: ending = other ++ mark :: otherEnding ↔
      base = other ∧ ending = otherEnding ∨
        (∃ part, base = other ++ mark :: part ∧ otherEnding = part ++ mark :: ending) ∨
        ∃ part, other = base ++ mark :: part ∧ ending = part ++ mark :: otherEnding := by
  rw [List.append_eq_append_iff]
  constructor
  · rintro (⟨rest, longer, shorter⟩ | ⟨rest, longer, shorter⟩)
    · cases rest with
      | nil => exact .inl ⟨by simpa using longer.symm, (List.cons.inj shorter).2⟩
      | cons first part =>
          obtain ⟨rfl, continued⟩ := List.cons.inj shorter
          exact .inr (.inr ⟨part, longer, continued⟩)
    · cases rest with
      | nil => exact .inl ⟨by simpa using longer, (List.cons.inj shorter).2.symm⟩
      | cons first part =>
          obtain ⟨rfl, continued⟩ := List.cons.inj shorter
          exact .inr (.inl ⟨part, longer, continued⟩)
  · rintro (⟨rfl, rfl⟩ | ⟨part, longer, shorter⟩ | ⟨part, longer, shorter⟩)
    · exact .inl ⟨[], by simp⟩
    · exact .inr ⟨mark :: part, longer, by rw [shorter]; rfl⟩
    · exact .inl ⟨mark :: part, longer, by rw [shorter]; rfl⟩

/-- Without the mark in front of it, the mark is found where it stands. -/
theorem append_cons_inj {mark : Char} {front ending other otherEnding : List Char}
    (without : mark ∉ front) (otherWithout : mark ∉ other)
    (same : front ++ mark :: ending = other ++ mark :: otherEnding) :
    front = other ∧ ending = otherEnding := by
  rcases append_cons_eq_append_cons_iff.mp same with equal | ⟨part, rfl, -⟩ | ⟨part, rfl, -⟩
  · exact equal
  · exact absurd (by simp) without
  · exact absurd (by simp) otherWithout

/-! Blanks around a text. -/

theorem sublist_trimChars (s : List Char) : (trimChars s).Sublist s :=
  (List.rdropWhile_prefix isBlank (trimLeft s)).sublist.trans (List.dropWhile_sublist isBlank)

theorem dropWhile_eq_self_iff {α : Type} {p : α → Bool} {s : List α} :
    s.dropWhile p = s ↔ ∀ c ∈ s.head?, p c = false := by
  rw [List.dropWhile_eq_self_iff]
  cases s with
  | nil => simp
  | cons c rest => simp

theorem rdropWhile_eq_self_iff {α : Type} {p : α → Bool} {s : List α} :
    s.rdropWhile p = s ↔ ∀ c ∈ s.getLast?, p c = false := by
  rw [List.rdropWhile_eq_self_iff]
  cases s using List.reverseRecOn with
  | nil => simp
  | append_singleton front c => simp

/-- What stands in front of a text is dropped for good, whatever is dropped behind it. -/
theorem dropWhile_rdropWhile (p : Char → Bool) (s : List Char) :
    ((s.dropWhile p).rdropWhile p).dropWhile p = (s.dropWhile p).rdropWhile p := by
  refine List.dropWhile_eq_self_iff.mpr fun full => ?_
  have front : (s.dropWhile p).rdropWhile p <+: s.dropWhile p := List.rdropWhile_prefix p _
  have start := List.dropWhile_eq_self_iff.mp (List.dropWhile_idempotent p s)
    (Nat.lt_of_lt_of_le full front.length_le)
  rw [front.getElem full]
  exact start

theorem trimLeft_trimChars (s : List Char) : trimLeft (trimChars s) = trimChars s :=
  dropWhile_rdropWhile isBlank s

theorem trimRight_trimChars (s : List Char) : trimRight (trimChars s) = trimChars s :=
  List.rdropWhile_idempotent isBlank (trimLeft s)

theorem trimChars_trimChars (s : List Char) : trimChars (trimChars s) = trimChars s := by
  calc
    trimChars (trimChars s) = trimRight (trimLeft (trimChars s)) := rfl
    _ = trimRight (trimChars s) := by rw [trimLeft_trimChars]
    _ = trimChars s := trimRight_trimChars s

theorem trimRight_append_blank {back : List Char} (blank : isBlankText back = true)
    (s : List Char) : trimRight (s ++ back) = trimRight s := by
  rw [trimRight, List.reverse_append, List.dropWhile_append_of_pos, trimRight]
  simpa [isBlankText] using blank

/-- Whatever blanks stand around a text, they are trimmed. -/
theorem trimChars_between {front back : List Char} (blankFront : isBlankText front = true)
    (blankBack : isBlankText back = true) (s : List Char) :
    trimChars (front ++ s ++ back) = trimChars s := by
  have start : trimLeft (front ++ (s ++ back)) = trimLeft (s ++ back) :=
    List.dropWhile_append_of_pos (by simpa [isBlankText] using blankFront)
  have none_ : back.dropWhile isBlank = [] :=
    List.dropWhile_eq_nil_iff.mpr (by simpa [isBlankText] using blankBack)
  rw [List.append_assoc, trimChars, start, trimLeft, List.dropWhile_append, trimChars, trimLeft]
  split
  · rename_i empty
    rw [none_, List.isEmpty_iff.mp empty]
  · exact trimRight_append_blank blankBack _

theorem trimChars_eq_self_iff {s : List Char} :
    trimChars s = s ↔
      (∀ c ∈ s.head?, isBlank c = false) ∧ ∀ c ∈ s.getLast?, isBlank c = false := by
  rw [← dropWhile_eq_self_iff, ← rdropWhile_eq_self_iff]
  constructor
  · intro same
    exact ⟨same ▸ trimLeft_trimChars s, same ▸ trimRight_trimChars s⟩
  · rintro ⟨front, back⟩
    rw [trimChars, trimLeft, front]
    exact back

theorem trimChars_of_full {s : List Char} (full : ∀ c ∈ s, isBlank c = false) : trimChars s = s :=
  trimChars_eq_self_iff.mpr ⟨fun c first => full c (List.mem_of_mem_head? first),
    fun c last => full c (List.mem_of_mem_getLast? last)⟩

end RouteDocs.Text
