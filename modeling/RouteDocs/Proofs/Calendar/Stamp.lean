import Mathlib.Data.List.TakeWhile
import RouteDocs.Calendar.Format
import RouteDocs.Proofs.Calendar.Ordinal
import RouteDocs.Proofs.Calendar.Padded

/-!
Dates and times of the form `2024-01-31 08:05:00`. They are what the directives write from the year
1000 on, and they are read back as what they were written from.
-/

namespace RouteDocs.Moment

open Iso (padded)

def dateStamp (m : Moment) : List Char :=
  padded 4 m.date.year ++ '-' :: (padded 2 m.date.month ++ '-' :: padded 2 m.date.day)

def clockStamp (m : Moment) : List Char :=
  padded 2 m.hour ++ ':' :: (padded 2 m.minute ++ ':' :: padded 2 m.second)

/-- The date and the time to the second, without the distance from UTC. -/
def stamp (m : Moment) : List Char :=
  m.dateStamp ++ ' ' :: m.clockStamp

theorem writeNumber_natCast (digits n : Nat) :
    writeNumber {} digits (n : Int) false = padded digits n := by
  have plain : ¬(n : Int) < 0 := Int.not_lt.mpr (Int.natCast_nonneg n)
  simp [writeNumber, plain, padded]

/-- A year of four digits has no zeros in front. -/
theorem padded_year {year : Nat} (late : 1000 ≤ year) : padded 1 year = padded 4 year := by
  have more : ¬(Nat.toDigits 10 year).length ≤ 3 := by
    rw [Nat.length_toDigits_le_iff (by decide) (by decide), not_lt]
    exact late
  rw [Iso.padded_of_long (by omega), Iso.padded_of_long (by omega)]

variable {m : Moment}

/-- From the year 1000 on, the stamp is what the directives write. -/
theorem writeChars_stamp (late : 1000 ≤ m.date.year) :
    m.writeChars "%Y-%m-%d %H:%M:%S".toList = m.stamp := by
  have written : m.writeChars "%Y-%m-%d %H:%M:%S".toList =
      writeNumber {} 1 m.date.year false ++ '-' :: (writeNumber {} 2 m.date.month false ++
        '-' :: (writeNumber {} 2 m.date.day false ++ ' ' :: (writeNumber {} 2 m.hour false ++
          ':' :: (writeNumber {} 2 m.minute false ++ ':' :: (writeNumber {} 2 m.second false ++
            []))))) := rfl
  rw [written]
  simp only [writeNumber_natCast, padded_year late, stamp, dateStamp, clockStamp, List.append_assoc,
    List.cons_append, List.append_nil]

/-! The characters of a stamp. -/

theorem mem_clockStamp {c : Char} (member : c ∈ m.clockStamp) : c.isDigit = true ∨ c = ':' := by
  simp only [clockStamp, List.mem_append, List.mem_cons] at member
  rcases member with hour | colon | minute | colon | second
  · exact .inl (Iso.digits_padded c hour)
  · exact .inr colon
  · exact .inl (Iso.digits_padded c minute)
  · exact .inr colon
  · exact .inl (Iso.digits_padded c second)

theorem mem_dateStamp {c : Char} (member : c ∈ m.dateStamp) : c.isDigit = true ∨ c = '-' := by
  simp only [dateStamp, List.mem_append, List.mem_cons] at member
  rcases member with year | hyphen | month | hyphen | day
  · exact .inl (Iso.digits_padded c year)
  · exact .inr hyphen
  · exact .inl (Iso.digits_padded c month)
  · exact .inr hyphen
  · exact .inl (Iso.digits_padded c day)

theorem mem_stamp {c : Char} (member : c ∈ m.stamp) : c.isDigit = true ∨ c ∈ ['-', ' ', ':'] := by
  rcases List.mem_append.mp member with date | blankOrClock
  · exact (mem_dateStamp date).imp_right fun hyphen => by simp [hyphen]
  · rcases List.mem_cons.mp blankOrClock with blank | clock
    · exact .inr (by simp [blank])
    · exact (mem_clockStamp clock).imp_right fun colon => by simp [colon]

theorem stamp_ne_nil (m : Moment) : m.stamp ≠ [] :=
  List.append_ne_nil_of_right_ne_nil _ (List.cons_ne_nil _ _)

theorem digit_head_stamp (m : Moment) : ∀ c ∈ m.stamp.head?, c.isDigit = true := by
  rw [stamp, dateStamp, List.append_assoc]
  exact Iso.digit_head_padded _

theorem digit_last_stamp (m : Moment) : ∀ c ∈ m.stamp.getLast?, c.isDigit = true := by
  have parted : m.stamp = (m.dateStamp ++ ' ' :: (padded 2 m.hour ++
      ':' :: (padded 2 m.minute ++ [':']))) ++ padded 2 m.second := by
    simp [stamp, clockStamp]
  rw [parted]
  exact Iso.digit_last_padded _

/-! Reading. -/

theorem of?_parts (m : Moment) :
    of? m.date m.hour m.minute m.second m.microsecond m.offset = some m :=
  dif_pos ⟨m.isTime, m.isOffset⟩

/-- A date with hyphens, told from a week by its month. -/
theorem readDate_of_parts {length : Nat} {s rest days after : List Char} {year month day : Nat}
    (readYear : Iso.readDigits 0 4 s = some (year, '-' :: rest))
    (digit : ∀ c ∈ rest.head?, c.isDigit = true)
    (readMonth : Iso.readDigits 0 2 rest = some (month, '-' :: days))
    (readDay : Iso.readDigits 0 2 days = some (day, after)) :
    Iso.readDate length s = Date.of? year month day := by
  cases rest with
  | nil => cases readMonth
  | cons c rest =>
      have other : c ≠ 'W' := by
        rintro rfl
        cases digit 'W' rfl
      simp [Iso.readDate, readYear, other, readMonth, Iso.skip?, readDay]

theorem dateLength_of_parts {s rest : List Char} (long : s.length ≠ 7)
    (parted : s.drop 4 = '-' :: rest) (digit : ∀ c ∈ rest.head?, c.isDigit = true) :
    Iso.dateLength s = 10 := by
  cases rest with
  | nil => simp [Iso.dateLength, long, parted]
  | cons c rest =>
      have other : c ≠ 'W' := by
        rintro rfl
        cases digit 'W' rfl
      simp [Iso.dateLength, long, parted, other]

theorem date_short (m : Moment) :
    m.date.year < 10 ^ 4 ∧ m.date.month < 10 ^ 2 ∧ m.date.day < 10 ^ 2 := by
  obtain ⟨⟨_, year⟩, ⟨_, month⟩, _, day⟩ := m.date.isDate
  have most := Date.monthLength_le m.date.year m.date.month
  omega

theorem length_dateStamp (m : Moment) : m.dateStamp.length = 10 := by
  obtain ⟨year, month, day⟩ := m.date_short
  simp only [dateStamp, List.length_append, List.length_cons, Iso.length_padded _ year,
    Iso.length_padded _ month, Iso.length_padded _ day, Nat.zero_lt_succ]

theorem readDate_stamp (m : Moment) (rest : List Char) :
    Iso.readDate 10 (m.dateStamp ++ rest) = some m.date := by
  obtain ⟨year, month, day⟩ := m.date_short
  simp only [dateStamp, List.append_assoc, List.cons_append]
  rw [← m.date.of?_parts]
  exact readDate_of_parts (Iso.readDigits_padded (by decide) year _) (Iso.digit_head_padded _)
    (Iso.readDigits_padded (by decide) month _) (Iso.readDigits_padded (by decide) day rest)

theorem dateLength_stamp (m : Moment) : Iso.dateLength m.stamp = 10 := by
  obtain ⟨year, month, day⟩ := m.date_short
  have parted : m.stamp.drop 4 = '-' :: (padded 2 m.date.month ++
      '-' :: (padded 2 m.date.day ++ ' ' :: m.clockStamp)) := by
    simp only [stamp, dateStamp, List.append_assoc, List.cons_append]
    exact List.drop_left' (Iso.length_padded (by decide) year)
  refine dateLength_of_parts ?_ parted (Iso.digit_head_padded _)
  rw [stamp, List.length_append, length_dateStamp]
  omega

theorem readClock_stamp (m : Moment) : Iso.readClock m.clockStamp [] =
    some ({ hour := m.hour, minute := m.minute, second := m.second }, false) := by
  obtain ⟨hour, minute, second, _⟩ := m.isTime
  have readHour := @Iso.readDigits_padded 2 m.hour (by decide) (by omega)
  have readMinute := @Iso.readDigits_padded 2 m.minute (by decide) (by omega)
  have readSecond := @Iso.readDigits_padded 2 m.second (by decide) (by omega) []
  rw [List.append_nil] at readSecond
  simp [Iso.readClock, Iso.readParts, clockStamp, readHour, readMinute, readSecond,
    Iso.padded_ne_nil]

theorem readTime_stamp (m : Moment) : Iso.readTime m.clockStamp =
    some ({ hour := m.hour, minute := m.minute, second := m.second }, none) := by
  have unmarked : ∀ c ∈ m.clockStamp, (!(c == '+' || c == '-' || c == 'Z')) = true := by
    intro c member
    rcases mem_clockStamp member with digit | rfl
    · have other : c ≠ '+' ∧ c ≠ '-' ∧ c ≠ 'Z' := by
        refine ⟨?_, ?_, ?_⟩ <;> (rintro rfl; cases digit)
      simp [other]
    · rfl
  have none_ : m.clockStamp.dropWhile (fun c => !(c == '+' || c == '-' || c == 'Z')) = [] :=
    List.dropWhile_eq_nil_iff.mpr unmarked
  unfold Iso.readTime
  dsimp only
  rw [List.takeWhile_eq_self_iff.mpr unmarked, none_, readClock_stamp]
  rfl

theorem length_clockStamp (m : Moment) : m.clockStamp.length = 8 := by
  obtain ⟨hour, minute, second, _⟩ := m.isTime
  have hour := @Iso.length_padded 2 m.hour (by decide) (by omega)
  have minute := @Iso.length_padded 2 m.minute (by decide) (by omega)
  have second := @Iso.length_padded 2 m.second (by decide) (by omega)
  simp only [clockStamp, List.length_append, List.length_cons, hour, minute, second]

theorem formatChars_stamp (late : 1000 ≤ m.date.year) :
    m.formatChars "%Y-%m-%d %H:%M:%S".toList = m.stamp := by
  have short : m.stamp.length < 1024 := by
    rw [stamp, List.length_append, List.length_cons, length_dateStamp, length_clockStamp]
    decide
  rw [formatChars, writeChars_stamp late]
  exact if_pos (short.trans_le (Nat.le_max_left 1024 _))

/-- To the second and without a distance from UTC, nothing is lost. -/
theorem read?_stamp (whole : m.microsecond = 0) (naive : m.offset = none) :
    Iso.read? (String.ofList m.stamp) = some m := by
  have length : m.stamp.length ≥ 7 := by
    rw [stamp, List.length_append, length_dateStamp]
    omega
  have behind : m.stamp.drop 10 = ' ' :: m.clockStamp := List.drop_left' m.length_dateStamp
  have read : Iso.readDate 10 m.stamp = some m.date := m.readDate_stamp _
  have made : of? m.date m.hour m.minute m.second 0 none = some m := by
    rw [← whole, ← naive, of?_parts]
  unfold Iso.read?
  dsimp only
  rw [String.toList_ofList, if_neg (by omega), dateLength_stamp, read, behind]
  simp [readTime_stamp, made]

end RouteDocs.Moment
