import RouteDocs.Calendar.Format
import RouteDocs.Proofs.Calendar.Ordinal
import RouteDocs.Proofs.Calendar.Padded

/-!
The room that a text of a date is given. No part of a date is longer than sixteen characters, and
there are 256 for each character of the format, so that only a width can ask for too many.
-/

namespace RouteDocs

namespace Date

theorem firstMonday_near (year : Nat) :
    (daysBeforeYear year : Int) - 2 ≤ firstMonday year ∧
      firstMonday year ≤ daysBeforeYear year + 4 := by
  unfold firstMonday
  dsimp only
  split <;> constructor <;> omega

theorem yearLength_le (year : Nat) : yearLength year ≤ 366 := by
  unfold yearLength
  split <;> decide

theorem isoWeek_small (d : Date) :
    d.isoWeek.1.natAbs < 10 ^ 12 ∧ d.isoWeek.2.natAbs < 10 ^ 12 := by
  obtain ⟨⟨_, last⟩, _⟩ := d.isDate
  obtain ⟨_, most⟩ := d.ordinal_range
  obtain ⟨after, _⟩ := d.ordinal_bounds
  have before : daysBeforeYear (d.year - 1) ≤ daysBeforeYear d.year :=
    daysBeforeYear_mono (Nat.sub_le _ _)
  have start := firstMonday_near d.year
  have previous := firstMonday_near (d.year - 1)
  unfold isoWeek
  dsimp only
  split
  · split <;> constructor <;> dsimp only <;> omega
  · split <;> constructor <;> dsimp only <;> omega

end Date

namespace Moment

theorem epochSeconds_small (m : Moment) : m.epochSeconds.natAbs < 10 ^ 12 := by
  obtain ⟨hour, minute, second, _⟩ := m.isTime
  obtain ⟨_, last⟩ := m.date.ordinal_range
  unfold epochSeconds epochDay
  omega

/-! Parts of a date. -/

theorem length_getD_le {names : List String} {most : Nat}
    (short : ∀ name ∈ names, name.toList.length ≤ most) (place : Nat) :
    (names.getD place "").toList.length ≤ most := by
  rw [List.getD_eq_getElem?_getD]
  cases found : names[place]? with
  | none => exact Nat.zero_le most
  | some name => exact short name (List.mem_of_getElem? found)

theorem length_weekdayName_le (m : Moment) : m.weekdayName.length ≤ 9 :=
  length_getD_le (by decide) _

theorem length_monthName_le (m : Moment) : m.monthName.length ≤ 9 :=
  length_getD_le (by decide) _

theorem length_toDigits_le {n : Nat} (small : n < 10 ^ 12) : (Nat.toDigits 10 n).length ≤ 12 :=
  (Nat.length_toDigits_le_iff (by decide) (by decide)).mpr small

theorem length_toString_le {n : Int} (small : n.natAbs < 10 ^ 12) :
    (toString n).toList.length ≤ 13 := by
  cases n with
  | ofNat n =>
      have digits := length_toDigits_le (n := n) small
      show (Nat.repr n).toList.length ≤ 13
      rw [Nat.repr, String.toList_ofList]
      omega
  | negSucc n =>
      have digits := length_toDigits_le (n := n + 1) small
      have written : toString (Int.negSucc n) = "-" ++ Nat.repr (n + 1) := rfl
      simp only [written, String.toList_append, Nat.repr, String.toList_ofList, List.length_append]
      exact Nat.add_le_add (Nat.le_refl 1) digits

theorem hour12_le (m : Moment) : m.hour12 ≤ 12 := by
  unfold hour12
  split <;> omega

theorem weekFrom_le (m : Moment) (start : Nat) : m.weekFrom start ≤ 53 := by
  have dayOfYear := m.date.dayOfYear_bounds.2.trans (Date.yearLength_le _)
  unfold weekFrom
  dsimp only
  omega

/-- The piece is one part of a date. -/
def Piece.IsShort : Piece → Prop
  | nothing => True
  | number digits value _ => digits ≤ 3 ∧ value.natAbs < 10 ^ 12
  | name text _ => text.length ≤ 13
  | lowerName text => text.length ≤ 13
  | format _ => False

theorem Piece.isShort_number {digits : Nat} {value : Int} (few : digits ≤ 3)
    (small : value.natAbs < 10 ^ 12) (blank : Bool) : (number digits value blank).IsShort :=
  ⟨few, small⟩

theorem Piece.isShort_of_piece? {m : Moment} {c : Char} {piece : Piece}
    (found : m.piece? c = some piece) (single : ∀ directives, piece ≠ .format directives) :
    piece.IsShort := by
  obtain ⟨⟨_, year⟩, ⟨_, month⟩, _, day⟩ := m.date.isDate
  obtain ⟨hour, minute, second, _⟩ := m.isTime
  have lastDay := Date.monthLength_le m.date.year m.date.month
  have dayOfYear := m.date.dayOfYear_bounds.2.trans (Date.yearLength_le _)
  have weekday : m.date.weekday < 7 := Nat.mod_lt _ (by decide)
  obtain ⟨weekYear, week⟩ := m.date.isoWeek_small
  have hour12 := m.hour12_le
  have fromSunday := m.weekFrom_le 0
  have fromMonday := m.weekFrom_le 1
  have weekdayName := m.length_weekdayName_le
  have monthName := m.length_monthName_le
  have epoch := length_toString_le m.epochSeconds_small
  unfold Moment.piece? at found
  split at found
  all_goals cases found
  all_goals first
    | exact absurd rfl (single _)
    | exact isShort_number (by decide) (by omega) _
    | (simp only [IsShort, List.length_take]; omega)
    | (simp only [IsShort]; split <;> decide)
    | simp [IsShort]

/-! What is written for a part of a date. -/

/-- A directive that asks for no width and no other case, read up to its letter. -/
structure Directive.IsNarrow (d : Directive) : Prop where
  width : d.flags.width = 0
  keepsCase : d.flags.changeCase = false
  short : d.seen.length ≤ 2

theorem length_fill_le {flags : Flags} (narrow : flags.width = 0) (text : List Char) :
    (fill flags text).length ≤ text.length := by
  unfold fill
  split
  · exact Nat.zero_le _
  · simp [narrow]

theorem length_writeNumber_le {flags : Flags} {digits : Nat} {value : Int}
    (narrow : flags.width = 0) (few : digits ≤ 3) (small : value.natAbs < 10 ^ 12) (blank : Bool) :
    (writeNumber flags digits value blank).length ≤ 13 := by
  have text := length_toDigits_le small
  have sign : (if value < 0 then ['-'] else []).length ≤ 1 := by split <;> decide
  unfold writeNumber
  dsimp only
  rw [narrow]
  generalize (if value < 0 then ['-'] else []) = sign at *
  generalize Nat.toDigits 10 value.natAbs = text at *
  generalize (if blank && flags.pad != some '0' && flags.pad != some '-' then some '_'
    else flags.pad) = pad
  split
  · refine (length_fill_le rfl _).trans ?_
    rw [List.length_append]
    omega
  · split <;> (simp only [List.length_append, List.length_replicate]; omega)

theorem Piece.IsShort.length_writePiece_le {piece : Piece} (short : piece.IsShort) {flags : Flags}
    (narrow : flags.width = 0) (keepsCase : flags.changeCase = false) (m : Moment) :
    (m.writePiece flags piece).length ≤ 13 := by
  cases piece with
  | nothing => exact Nat.zero_le _
  | number digits value blank => exact length_writeNumber_le narrow short.1 short.2 blank
  | name text changed =>
      refine (length_fill_le narrow _).trans ?_
      rw [keepsCase, if_neg Bool.false_ne_true]
      split
      · rw [List.length_map]
        exact short
      · exact short
  | lowerName text => exact (length_fill_le narrow text).trans short
  | format directives => exact short.elim

theorem Directive.IsNarrow.length_writeUnknown_le {d : Directive} (narrow : d.IsNarrow) (c : Char) :
    (writeUnknown d.flags (c :: d.seen)).length ≤ 13 := by
  have short := narrow.short
  refine (length_fill_le narrow.width _).trans ?_
  split <;> simp <;> omega

theorem lt_room {length formatLength : Nat} (fits : length ≤ 255 * formatLength) :
    length < room formatLength := by
  have doubled := @Nat.lt_log2_self (256 * formatLength - 1)
  rw [room, Nat.pow_eq]
  omega

end Moment
end RouteDocs
