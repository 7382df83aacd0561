import Mathlib.Data.List.TakeWhile
import RouteDocs.Proofs.Calendar.Room
import RouteDocs.Rule.DateFormat

/-!
Formats are rendered piece by piece. Each letter is translated to whole directives, which end where
they end whatever stands behind them; all else is written as it is. So two formats in a row give
what they give apart, unless the first one ends in a backslash that keeps the character behind it.
-/

namespace RouteDocs

namespace Moment

/-- Parts of a second and the time zone are filled into the format, and then it is written as the
text, whatever stands behind it. The text has room. -/
structure Becomes (m : Moment) (format filled text : List Char) : Prop where
  fill : ∀ rest, m.fillFractions (format ++ rest) = filled ++ m.fillFractions rest
  write : ∀ rest, writeFrom m .text (filled ++ rest) = text ++ writeFrom m .text rest
  fits : text.length ≤ 255 * filled.length

def StandsFor (m : Moment) (format text : List Char) : Prop :=
  ∃ filled, m.Becomes format filled text

variable {m : Moment}

theorem standsFor_nil : m.StandsFor [] [] :=
  ⟨[], fun _ => rfl, fun _ => rfl, Nat.zero_le _⟩

theorem StandsFor.append {first second text more : List Char} (stands : m.StandsFor first text)
    (follows : m.StandsFor second more) : m.StandsFor (first ++ second) (text ++ more) := by
  obtain ⟨filled, stands⟩ := stands
  obtain ⟨filledMore, follows⟩ := follows
  refine ⟨filled ++ filledMore, fun rest => ?_, fun rest => ?_, ?_⟩
  · rw [List.append_assoc, stands.fill, follows.fill, List.append_assoc]
  · rw [List.append_assoc, stands.write, follows.write, List.append_assoc]
  · rw [List.length_append, List.length_append, Nat.mul_add]
    exact Nat.add_le_add stands.fits follows.fits

/-- A format without a NUL is written as what it stands for, for there is room. -/
theorem StandsFor.formatChars {format text : List Char} (stands : m.StandsFor format text)
    (plain : '\x00' ∉ format) : m.formatChars format = text := by
  obtain ⟨filled, stands⟩ := stands
  have whole : format.takeWhile (· ≠ '\x00') = format :=
    List.takeWhile_eq_self_iff.mpr fun c member =>
      decide_eq_true (ne_of_mem_of_not_mem member plain)
  have filledAlone : m.fillFractions format = filled := by
    simpa [fillFractions] using stands.fill []
  have written : writeFrom m .text filled = text := by
    simpa [writeFrom] using stands.write []
  rw [Moment.formatChars, writeChars, whole, filledAlone, written]
  exact if_pos (lt_room stands.fits)

theorem writeFrom_plain {text : List Char} (plain : '%' ∉ text) (rest : List Char) :
    writeFrom m .text (text ++ rest) = text ++ writeFrom m .text rest := by
  induction text with
  | nil => rfl
  | cons c text induction =>
      obtain ⟨other, plain⟩ := not_or.mp (mt List.mem_cons.mpr plain)
      rw [List.cons_append, writeFrom, if_neg (by simpa using Ne.symm other), induction plain,
        List.cons_append]

theorem standsFor_char {c : Char} (other : c ≠ '%') : m.StandsFor [c] [c] := by
  refine ⟨[c], fun rest => ?_, writeFrom_plain (by simpa using Ne.symm other), by simp⟩
  simp [fillFractions, other]

theorem standsFor_plain {text : List Char} (plain : '%' ∉ text) : m.StandsFor text text := by
  induction text with
  | nil => exact standsFor_nil
  | cons c text induction =>
      obtain ⟨other, plain⟩ := not_or.mp (mt List.mem_cons.mpr plain)
      exact (standsFor_char (Ne.symm other)).append (induction plain)

/-! Directives. -/

/-- The character ends a directive: it is no flag, no digit of a width and no modifier. Nor does it
stand for a longer format. -/
def EndsDirective (c : Char) : Prop :=
  c.isDigit = false ∧ c ∉ ['_', '-', '^', '#', 'E', 'O'] ∧
    c ∉ ['c', 'D', 'x', 'F', 'r', 'R', 'T', 'X']

instance (c : Char) : Decidable (EndsDirective c) :=
  inferInstanceAs (Decidable (_ ∧ _))

theorem EndsDirective.single {c : Char} (ends : EndsDirective c) {piece : Piece}
    (found : m.piece? c = some piece) (directives : List Char) : piece ≠ .format directives := by
  rintro rfl
  unfold Moment.piece? at found
  split at found
  all_goals cases found
  all_goals exact absurd ends (by decide)

theorem EndsDirective.read {c : Char} (ends : EndsDirective c) (m : Moment) (d : Directive)
    (narrow : d.IsNarrow) :
    ∃ written, readDirective m d c = (.text, written) ∧ written.length ≤ 13 := by
  have single := @ends.single m
  obtain ⟨noDigit, others, -⟩ := ends
  have noZero : c ≠ '0' := by
    rintro rfl
    cases noDigit
  simp only [List.mem_cons, List.not_mem_nil, or_false, not_or] at others
  obtain ⟨blank, minus, caret, hash, modifier, other⟩ := others
  simp only [readDirective, beq_iff_eq, blank, minus, noZero, caret, hash, noDigit, modifier, other,
    Bool.and_eq_true, Bool.or_eq_true, or_self, and_false, if_false, Bool.false_eq_true]
  cases found : d.piece? m c with
  | none => exact ⟨_, rfl, narrow.length_writeUnknown_le c⟩
  | some piece =>
      have known : m.piece? c = some piece := by
        unfold Directive.piece? at found
        split at found
        · exact found
        · cases found
      have short := Piece.isShort_of_piece? known fun directives => single known directives
      exact ⟨_, rfl, short.length_writePiece_le narrow.width narrow.keepsCase m⟩

theorem zoneDistance_plain (m : Moment) : '%' ∉ m.zoneDistance := by
  intro member
  have written : '%' ∈ Iso.writeOffset m.offset := (List.mem_filter.mp member).1
  exact Iso.not_mem_writeOffset rfl (by decide) m.offset written

theorem zoneName_plain (m : Moment) : '%' ∉ m.zoneName := by
  have distance := fun offset => Iso.not_mem_writeOffset (c := '%') rfl (by decide) (some offset)
  unfold zoneName
  split
  · exact List.not_mem_nil
  · split
    · decide
    · simp [distance]

theorem standsFor_filled {c : Char} {text : List Char} (plain : '%' ∉ text)
    (filled : ∀ rest, m.fillFractions ('%' :: c :: rest) = text ++ m.fillFractions rest) :
    m.StandsFor ['%', c] text :=
  ⟨text, filled, writeFrom_plain plain, Nat.le_mul_of_pos_left _ (by decide)⟩

theorem EndsDirective.standsFor {c : Char} (ends : EndsDirective c) (m : Moment) :
    ∃ text, m.StandsFor ['%', c] text := by
  by_cases fraction : c = 'f'
  · subst fraction
    exact ⟨_, standsFor_filled (Iso.not_mem_padded rfl) fun _ => rfl⟩
  by_cases distance : c = 'z'
  · subst distance
    exact ⟨_, standsFor_filled m.zoneDistance_plain fun _ => rfl⟩
  by_cases name : c = 'Z'
  · subst name
    exact ⟨_, standsFor_filled m.zoneName_plain fun _ => rfl⟩
  · obtain ⟨text, read, short⟩ := ends.read m {} ⟨rfl, rfl, by decide⟩
    refine ⟨text, ['%', c], fun rest => by simp [fillFractions], fun rest => ?_, ?_⟩
    · calc
        writeFrom m .text ('%' :: c :: rest) = writeFrom m (.directive {}) (c :: rest) := rfl
        _ = text ++ writeFrom m .text rest := by rw [writeFrom, read]
    · exact short.trans (by simp)

theorem EndsDirective.standsFor_unpadded {c : Char} (ends : EndsDirective c) (other : c ≠ '%')
    (m : Moment) : ∃ text, m.StandsFor ['%', '-', c] text := by
  obtain ⟨text, read, short⟩ :=
    ends.read m { seen := ['-', '%'], flags := { pad := some '-' } } ⟨rfl, rfl, by decide⟩
  refine ⟨text, ['%', '-', c], fun rest => by simp [fillFractions, other], fun rest => ?_, ?_⟩
  · calc
      writeFrom m .text ('%' :: '-' :: c :: rest) =
          writeFrom m (.directive { seen := ['-', '%'], flags := { pad := some '-' } })
            (c :: rest) := rfl
      _ = text ++ writeFrom m .text rest := by rw [writeFrom, read]
  · exact short.trans (by simp)

end Moment

namespace Rule.DateFormat

open Moment

theorem directive?_cases {letter : Char} {text : String} (known : directive? letter = some text) :
    ∃ c, (text.toList = ['%', c] ∨ text.toList = ['%', '-', c]) ∧
      EndsDirective c ∧ c ≠ '%' ∧ c ≠ '\x00' := by
  unfold directive? at known
  split at known
  all_goals cases known
  all_goals first
    | exact ⟨_, .inl rfl, by decide⟩
    | exact ⟨_, .inr rfl, by decide⟩

/-- What a character is translated to, if no backslash keeps it. -/
def translateLetter (c : Char) : List Char :=
  ((directive? c).map String.toList).getD [c]

theorem directives_cons {c : Char} (other : c ≠ '\\') (rest : List Char) :
    directives (c :: rest) = translateLetter c ++ directives rest := by
  rw [directives, translateLetter]
  · cases directive? c <;> rfl
  · exact fun _ _ backslash _ => other backslash
  · exact fun backslash _ => other backslash

/-- The format ends in a backslash that is not kept by another one. It keeps what stands behind. -/
def leavesOpen : List Char → Bool
  | '\\' :: _ :: rest => leavesOpen rest
  | ['\\'] => true
  | _ :: rest => leavesOpen rest
  | [] => false

/-- A format is made of letters and of characters that are kept. -/
theorem induct {motive : List Char → Prop} (nil : motive [])
    (kept : ∀ c rest, motive rest → motive ('\\' :: c :: rest)) (ending : motive ['\\'])
    (letter : ∀ c rest, c ≠ '\\' → motive rest → motive (c :: rest)) (format : List Char) :
    motive format := by
  induction format using directives.induct with
  | case1 c rest induction => exact kept c rest induction
  | case2 => exact ending
  | case3 c rest pair alone induction =>
      refine letter c rest (fun backslash => ?_) induction
      cases rest with
      | nil => exact alone backslash rfl
      | cons next rest => exact pair next rest backslash rfl
  | case4 => exact nil

theorem leavesOpen_cons {c : Char} (other : c ≠ '\\') (rest : List Char) :
    leavesOpen (c :: rest) = leavesOpen rest := by
  rw [leavesOpen]
  · exact fun _ _ backslash _ => other backslash
  · exact fun backslash _ => other backslash

theorem directives_append (a b : List Char) (closed : leavesOpen a = false) :
    directives (a ++ b) = directives a ++ directives b := by
  induction a using induct with
  | nil => rfl
  | kept c rest induction => exact congrArg (c :: ·) (induction closed)
  | ending => cases closed
  | letter c rest other induction =>
      rw [leavesOpen_cons other] at closed
      rw [List.cons_append, directives_cons other, directives_cons other, induction closed,
        List.append_assoc]

/-- A format without directives and without a NUL. -/
structure IsPlain (format : List Char) : Prop where
  noDirective : '%' ∉ format
  noEnd : '\x00' ∉ format

theorem IsPlain.of_cons {c : Char} {rest : List Char} (plain : IsPlain (c :: rest)) :
    c ≠ '%' ∧ IsPlain rest :=
  ⟨fun same => plain.noDirective (same ▸ List.mem_cons_self),
    fun member => plain.noDirective (List.mem_cons_of_mem c member),
    fun member => plain.noEnd (List.mem_cons_of_mem c member)⟩

theorem standsFor_translateLetter {c : Char} (other : c ≠ '%') (m : Moment) :
    ∃ text, m.StandsFor (translateLetter c) text := by
  rw [translateLetter]
  cases known : directive? c with
  | none => exact ⟨[c], standsFor_char other⟩
  | some text =>
      obtain ⟨d, same | same, ends, noPercent, _⟩ := directive?_cases known
      · rw [Option.map_some, Option.getD_some, same]
        exact ends.standsFor m
      · rw [Option.map_some, Option.getD_some, same]
        exact ends.standsFor_unpadded noPercent m

theorem standsFor_directives {format : List Char} (plain : IsPlain format) (m : Moment) :
    ∃ text, m.StandsFor (directives format) text := by
  induction format using induct with
  | nil => exact ⟨[], standsFor_nil⟩
  | kept c rest induction =>
      obtain ⟨other, plain⟩ := plain.of_cons.2.of_cons
      obtain ⟨text, stands⟩ := induction plain
      exact ⟨[c] ++ text, (standsFor_char other).append stands⟩
  | ending => exact ⟨[], standsFor_nil⟩
  | letter c rest other induction =>
      obtain ⟨noPercent, plain⟩ := plain.of_cons
      obtain ⟨first, stands⟩ := standsFor_translateLetter noPercent m
      obtain ⟨text, follows⟩ := induction plain
      rw [directives_cons other]
      exact ⟨first ++ text, stands.append follows⟩

theorem translateLetter_noEnd {c : Char} (other : c ≠ '\x00') : '\x00' ∉ translateLetter c := by
  rw [translateLetter]
  cases known : directive? c with
  | none => simpa using other.symm
  | some text =>
      obtain ⟨d, same | same, _, _, noEnd⟩ := directive?_cases known
      · simpa [same] using noEnd.symm
      · simpa [same] using noEnd.symm

theorem directives_noEnd {format : List Char} (plain : IsPlain format) :
    '\x00' ∉ directives format := by
  induction format using induct with
  | nil => exact List.not_mem_nil
  | kept c rest induction =>
      have here : '\x00' ≠ c := fun same => plain.noEnd (by simp [← same])
      exact List.not_mem_cons_of_ne_of_not_mem here (induction plain.of_cons.2.of_cons.2)
  | ending => exact List.not_mem_nil
  | letter c rest other induction =>
      have here : c ≠ '\x00' := fun same => plain.noEnd (by simp [same])
      rw [directives_cons other, List.mem_append, not_or]
      exact ⟨translateLetter_noEnd here, induction plain.of_cons.2⟩

theorem translateChars_eq {format : List Char} (plain : IsPlain format) :
    translateChars format = directives format := by
  have bare : format.contains '%' = false := by simpa using plain.noDirective
  rw [translateChars, bare, if_neg Bool.false_ne_true]

theorem renderChars_eq {format text : List Char} {m : Moment} (plain : IsPlain format)
    (stands : m.StandsFor (directives format) text) : renderChars format m = text := by
  rw [renderChars, translateChars_eq plain, stands.formatChars (directives_noEnd plain)]

theorem IsPlain.append {a b : List Char} (plain : IsPlain a) (follows : IsPlain b) :
    IsPlain (a ++ b) where
  noDirective := by
    simpa using ⟨plain.noDirective, follows.noDirective⟩
  noEnd := by
    simpa using ⟨plain.noEnd, follows.noEnd⟩

theorem renderChars_append {a b : List Char} (plain : IsPlain a) (follows : IsPlain b)
    (closed : leavesOpen a = false) (m : Moment) :
    renderChars (a ++ b) m = renderChars a m ++ renderChars b m := by
  obtain ⟨text, stands⟩ := standsFor_directives plain m
  obtain ⟨more, stands'⟩ := standsFor_directives follows m
  have both : m.StandsFor (directives (a ++ b)) (text ++ more) := by
    rw [directives_append a b closed]
    exact stands.append stands'
  rw [renderChars_eq (plain.append follows) both, renderChars_eq plain stands,
    renderChars_eq follows stands']

/-- A backslash in front of each character. -/
def keepChars (text : List Char) : List Char :=
  text.flatMap fun c => ['\\', c]

def keep (text : String) : String :=
  String.ofList (keepChars text.toList)

theorem directives_keepChars (text : List Char) : directives (keepChars text) = text := by
  induction text with
  | nil => rfl
  | cons c rest induction => exact congrArg (c :: ·) induction

theorem IsPlain.keepChars {text : List Char} (plain : IsPlain text) : IsPlain (keepChars text) where
  noDirective := by
    simpa [DateFormat.keepChars] using plain.noDirective
  noEnd := by
    simpa [DateFormat.keepChars] using plain.noEnd

theorem renderChars_keepChars {text : List Char} (plain : IsPlain text) (m : Moment) :
    renderChars (DateFormat.keepChars text) m = text := by
  refine renderChars_eq plain.keepChars ?_
  rw [directives_keepChars]
  exact standsFor_plain plain.noDirective

/-- Two formats in a row are translated and rendered one after the other, and a text whose
characters are all kept is rendered as itself. -/
theorem render_in_pieces :
    (∀ a b : String, IsPlain a.toList → IsPlain b.toList → leavesOpen a.toList = false →
      translate (a ++ b) = translate a ++ translate b ∧
        ∀ now, render (a ++ b) now = render a now ++ render b now) ∧
      ∀ text : String, IsPlain text.toList → ∀ now, render (keep text) now = text := by
  refine ⟨fun a b plain follows closed => ⟨?_, fun now => ?_⟩, fun text plain now => ?_⟩
  · rw [translate, translate, translate, String.toList_append,
      translateChars_eq (plain.append follows), translateChars_eq plain, translateChars_eq follows,
      directives_append _ _ closed, String.ofList_append]
  · rw [render, render, render, String.toList_append, renderChars_append plain follows closed,
      String.ofList_append]
  · rw [render, keep, String.toList_ofList, renderChars_keepChars plain, String.ofList_toList]

theorem render_in_pieces_invitation :
    (IsPlain "\\a\\t g".toList ∧ IsPlain "A, l".toList ∧ leavesOpen "\\a\\t g".toList = false ∧
      IsPlain "o'clock".toList) ∧
      translate ("\\a\\t g" ++ "A, l") = translate "\\a\\t g" ++ translate "A, l" ∧
        ∀ now, render ("\\a\\t g" ++ "A, l") now = render "\\a\\t g" now ++ render "A, l" now ∧
          render (keep "o'clock") now = "o'clock" := by
  have first : IsPlain "\\a\\t g".toList := ⟨by decide, by decide⟩
  have second : IsPlain "A, l".toList := ⟨by decide, by decide⟩
  have kept : IsPlain "o'clock".toList := ⟨by decide, by decide⟩
  have closed : leavesOpen "\\a\\t g".toList = false := by decide
  obtain ⟨inRow, itself⟩ := render_in_pieces
  obtain ⟨translated, rendered⟩ := inRow "\\a\\t g" "A, l" first second closed
  exact ⟨⟨first, second, closed, kept⟩, translated,
    fun now => ⟨rendered now, itself "o'clock" kept now⟩⟩

end Rule.DateFormat
end RouteDocs
