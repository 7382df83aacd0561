import Mathlib.Order.Monotone.Basic
import RouteDocs.Calendar.Moment

/-!
Dates and their numbers. Each number from 1 to the last day of the year 9999 belongs to one date,
and dates that are moved by days and back are the same again.
-/

namespace RouteDocs.Date

theorem of?_eq_some {year month day : Nat} (isDate : IsDate year month day) :
    of? year month day = some { year, month, day, isDate } :=
  dif_pos isDate

theorem of?_parts (d : Date) : of? d.year d.month d.day = some d :=
  of?_eq_some d.isDate

/-! Years and months one after the other. -/

def yearLength (year : Nat) : Nat :=
  if isLeap year then 366 else 365

theorem isLeap_iff {year : Nat} :
    isLeap year = true ↔ year % 4 = 0 ∧ (year % 100 ≠ 0 ∨ year % 400 = 0) := by
  simp [isLeap]

theorem daysBeforeYear_eq (year : Nat) :
    daysBeforeYear year =
      (year - 1) * 365 + (year - 1) / 4 - (year - 1) / 100 + (year - 1) / 400 := rfl

theorem daysBeforeYear_succ {year : Nat} (positive : 1 ≤ year) :
    daysBeforeYear (year + 1) = daysBeforeYear year + yearLength year := by
  rw [daysBeforeYear_eq, daysBeforeYear_eq, yearLength, Nat.add_sub_cancel]
  cases leap : isLeap year with
  | true =>
      obtain ⟨byFour, byHundred | byFourHundred⟩ := isLeap_iff.mp leap
      · rw [if_pos rfl]
        omega
      · rw [if_pos rfl]
        omega
  | false =>
      rw [if_neg Bool.false_ne_true]
      by_cases byFour : year % 4 = 0
      · have byHundred : year % 100 = 0 ∧ year % 400 ≠ 0 := by
          simpa [isLeap, byFour] using leap
        omega
      · have four : year / 4 = (year - 1) / 4 := by omega
        have hundred : year / 100 = (year - 1) / 100 := by omega
        have fourHundred : year / 400 = (year - 1) / 400 := by omega
        rw [four, hundred, fourHundred]
        have fewer : (year - 1) / 100 ≤ (year - 1) / 4 := by omega
        omega

theorem daysBeforeYear_mono : Monotone daysBeforeYear := by
  refine monotone_nat_of_le_succ fun year => ?_
  cases year with
  | zero => exact Nat.zero_le _
  | succ year =>
      rw [daysBeforeYear_succ year.succ_pos]
      exact Nat.le_add_right _ _

theorem daysBeforeMonth_succ (year : Nat) {month : Nat} (positive : 1 ≤ month) :
    daysBeforeMonth year (month + 1) = daysBeforeMonth year month + monthLength year month := by
  obtain ⟨month, rfl⟩ := Nat.exists_eq_add_of_le' positive
  rfl

theorem daysBeforeMonth_mono (year : Nat) : Monotone (daysBeforeMonth year) := by
  refine monotone_nat_of_le_succ fun month => ?_
  cases month with
  | zero => exact Nat.zero_le _
  | succ month =>
      rw [daysBeforeMonth_succ year month.succ_pos]
      exact Nat.le_add_right _ _

theorem daysBeforeMonth_thirteen (year : Nat) : daysBeforeMonth year 13 = yearLength year := by
  cases leap : isLeap year <;> simp [daysBeforeMonth, monthLength, yearLength, leap]

theorem monthLength_le (year month : Nat) : monthLength year month ≤ 31 := by
  unfold monthLength
  split
  · split <;> decide
  · split <;> decide

/-! From a date to its number. -/

theorem dayOfYear_bounds (d : Date) : 1 ≤ d.dayOfYear ∧ d.dayOfYear ≤ yearLength d.year := by
  obtain ⟨_, ⟨first, last⟩, positive, within⟩ := d.isDate
  have after := daysBeforeMonth_succ d.year first
  have before : daysBeforeMonth d.year (d.month + 1) ≤ yearLength d.year := by
    rw [← daysBeforeMonth_thirteen]
    exact daysBeforeMonth_mono d.year (Nat.succ_le_succ last)
  unfold dayOfYear
  constructor <;> omega

theorem ordinal_bounds (d : Date) :
    daysBeforeYear d.year < d.ordinal ∧ d.ordinal ≤ daysBeforeYear (d.year + 1) := by
  obtain ⟨⟨positive, _⟩, _⟩ := d.isDate
  obtain ⟨first, last⟩ := d.dayOfYear_bounds
  rw [daysBeforeYear_succ positive]
  unfold ordinal
  constructor <;> omega

theorem ordinal_range (d : Date) : 1 ≤ d.ordinal ∧ d.ordinal ≤ 3652059 := by
  obtain ⟨⟨_, last⟩, _⟩ := d.isDate
  obtain ⟨above, below⟩ := d.ordinal_bounds
  have most : daysBeforeYear (d.year + 1) ≤ daysBeforeYear 10000 :=
    daysBeforeYear_mono (Nat.succ_le_succ last)
  have end_ : daysBeforeYear 10000 = 3652059 := by decide
  constructor <;> omega

variable {d e : Date}

theorem ordinal_lt_of_year (earlier : d.year < e.year) : d.ordinal < e.ordinal :=
  calc
    d.ordinal ≤ daysBeforeYear (d.year + 1) := d.ordinal_bounds.2
    _ ≤ daysBeforeYear e.year := daysBeforeYear_mono earlier
    _ < e.ordinal := e.ordinal_bounds.1

theorem dayOfYear_lt_of_month (sameYear : d.year = e.year) (earlier : d.month < e.month) :
    d.dayOfYear < e.dayOfYear := by
  obtain ⟨_, ⟨first, _⟩, _, within⟩ := d.isDate
  obtain ⟨_, _, positive, _⟩ := e.isDate
  calc
    d.dayOfYear ≤ daysBeforeMonth d.year d.month + monthLength d.year d.month :=
      Nat.add_le_add_left within _
    _ = daysBeforeMonth d.year (d.month + 1) := (daysBeforeMonth_succ d.year first).symm
    _ ≤ daysBeforeMonth d.year e.month := daysBeforeMonth_mono d.year earlier
    _ < e.dayOfYear := by
      rw [sameYear]
      exact Nat.lt_add_of_pos_right positive

theorem ordinal_inj (same : d.ordinal = e.ordinal) : d = e := by
  have year : d.year = e.year := by
    rcases Nat.lt_trichotomy d.year e.year with earlier | equal | later
    · exact absurd same (ordinal_lt_of_year earlier).ne
    · exact equal
    · exact absurd same (ordinal_lt_of_year later).ne'
  have days : d.dayOfYear = e.dayOfYear := by
    unfold ordinal at same
    rw [year] at same
    omega
  have month : d.month = e.month := by
    rcases Nat.lt_trichotomy d.month e.month with earlier | equal | later
    · exact absurd days (dayOfYear_lt_of_month year earlier).ne
    · exact equal
    · exact absurd days (dayOfYear_lt_of_month year.symm later).ne'
  have day : d.day = e.day := by
    unfold dayOfYear at days
    rw [year, month] at days
    omega
  cases d
  cases e
  cases year
  cases month
  cases day
  rfl

/-! From a number to its date. -/

/-- The year that holds a day, counted from January 1 of year 1 as day 0, and the place of the day
in it: cycles of 400, 100, 4 years and one. -/
def yearOf (days : Nat) : Nat × Nat :=
  let era := days / 146097
  let rest := days % 146097
  let century := min (rest / 36524) 3
  let rest := rest - century * 36524
  let cycle := rest / 1461
  let rest := rest % 1461
  let single := min (rest / 365) 3
  (era * 400 + century * 100 + cycle * 4 + single + 1, rest - single * 365)

theorem ofOrdinal?_eq (n : Int) :
    ofOrdinal? n =
      if n < 1 || 3652059 < n then none
      else
        let (year, rest) := yearOf (n.toNat - 1)
        let (month, day) := monthOf year (rest + 1) 1 11
        of? year month day := rfl

theorem daysBeforeYear_cycles {era century cycle single : Nat} (centuries : century ≤ 3)
    (cycles : cycle ≤ 24) (singles : single ≤ 3) :
    daysBeforeYear (era * 400 + century * 100 + cycle * 4 + single + 1) =
      era * 146097 + century * 36524 + cycle * 1461 + single * 365 := by
  rw [daysBeforeYear_eq]
  omega

/-- The last part of a cycle may be a day longer than the others. -/
theorem capped_div {rest size cap : Nat} (positive : 0 < size) (short : rest ≤ (cap + 1) * size) :
    min (rest / size) cap * size + (rest - min (rest / size) cap * size) = rest ∧
      (rest - min (rest / size) cap * size < size ∨
        min (rest / size) cap = cap ∧ rest - min (rest / size) cap * size = size) := by
  have whole := Nat.div_add_mod' rest size
  have part := Nat.mod_lt rest positive
  rcases Nat.lt_or_ge cap (rest / size) with more | under
  · have most : (cap + 1) * size ≤ rest / size * size := Nat.mul_le_mul_right size more
    rw [Nat.min_eq_right more.le]
    rw [Nat.succ_mul] at most short
    omega
  · rw [Nat.min_eq_left under]
    omega

theorem yearOf_spec {days : Nat} (few : days < 3652059) :
    (1 ≤ (yearOf days).1 ∧ (yearOf days).1 ≤ 9999) ∧
      daysBeforeYear (yearOf days).1 + (yearOf days).2 = days ∧
        (yearOf days).2 < yearLength (yearOf days).1 := by
  dsimp only [yearOf]
  have eras : days / 146097 * 146097 + days % 146097 = days := Nat.div_add_mod' days 146097
  have short : days % 146097 < 146097 := Nat.mod_lt days (by decide)
  generalize days / 146097 = era at *
  generalize days % 146097 = rest at *
  have centuries := @capped_div rest 36524 3 (by decide) (by omega)
  have fewCenturies : min (rest / 36524) 3 ≤ 3 := Nat.min_le_right _ _
  generalize min (rest / 36524) 3 = century at *
  generalize rest - century * 36524 = rest₂ at *
  have cycles : rest₂ / 1461 * 1461 + rest₂ % 1461 = rest₂ := Nat.div_add_mod' rest₂ 1461
  have short₂ : rest₂ % 1461 < 1461 := Nat.mod_lt rest₂ (by decide)
  generalize rest₂ / 1461 = cycle at *
  generalize rest₂ % 1461 = rest₃ at *
  have singles := @capped_div rest₃ 365 3 (by decide) (by omega)
  have fewSingles : min (rest₃ / 365) 3 ≤ 3 := Nat.min_le_right _ _
  generalize min (rest₃ / 365) 3 = single at *
  generalize rest₃ - single * 365 = day at *
  have fewCycles : cycle ≤ 24 := by omega
  rw [daysBeforeYear_cycles fewCenturies fewCycles fewSingles, yearLength]
  refine ⟨⟨Nat.le_add_left 1 _, ?_⟩, ?_, ?_⟩
  · omega
  · rw [← eras, ← centuries.1, ← cycles, ← singles.1]
    simp only [Nat.add_assoc]
  split
  · omega
  · rename_i common
    rcases singles.2 with within | ⟨lastYear, leapDay⟩
    · exact within
    · -- A year of 366 days ends a cycle, which ends no century but the fourth one.
      refine absurd (isLeap_iff.mpr ?_) common
      omega

/-- The month is the one that the day lies in, if it lies in one of those that are looked at. -/
theorem monthOf_spec {year day month left : Nat} (first : 1 ≤ month) (positive : 1 ≤ day)
    (within : daysBeforeMonth year month + day ≤ daysBeforeMonth year (month + left + 1)) :
    (month ≤ (monthOf year day month left).1 ∧ (monthOf year day month left).1 ≤ month + left) ∧
      (1 ≤ (monthOf year day month left).2 ∧
        (monthOf year day month left).2 ≤ monthLength year (monthOf year day month left).1) ∧
        daysBeforeMonth year (monthOf year day month left).1 + (monthOf year day month left).2 =
          daysBeforeMonth year month + day := by
  induction left generalizing day month with
  | zero =>
      have next := daysBeforeMonth_succ year first
      rw [Nat.add_zero] at within
      refine ⟨⟨le_rfl, le_rfl⟩, ⟨positive, ?_⟩, rfl⟩
      show day ≤ monthLength year month
      omega
  | succ left induction =>
      have next := daysBeforeMonth_succ year first
      rw [monthOf]
      split
      · rename_i here
        exact ⟨⟨le_rfl, Nat.le_add_right month _⟩, ⟨positive, here⟩, rfl⟩
      · rename_i later
        have far : month + 1 + left + 1 = month + (left + 1) + 1 := by omega
        obtain ⟨⟨least, most⟩, placed, total⟩ :=
          @induction (day - monthLength year month) (month + 1) (by omega) (by omega)
            (by rw [far]; omega)
        refine ⟨⟨by omega, by omega⟩, placed, ?_⟩
        omega

/-! Both ways. -/

theorem exists_ordinal {n : Int} (first : 1 ≤ n) (last : n ≤ 3652059) :
    ∃ d, ofOrdinal? n = some d ∧ (d.ordinal : Int) = n := by
  have inside : ¬(n < 1 || 3652059 < n) = true := by
    simp only [Bool.or_eq_true, decide_eq_true_eq]
    omega
  obtain ⟨years, days, within⟩ := @yearOf_spec (n.toNat - 1) (by omega)
  rw [ofOrdinal?_eq, if_neg inside]
  dsimp only
  generalize (yearOf (n.toNat - 1)).1 = year at *
  generalize (yearOf (n.toNat - 1)).2 = rest at *
  obtain ⟨months, day, total⟩ := @monthOf_spec year (rest + 1) 1 11 le_rfl
    (Nat.succ_pos rest) (by
      show 0 + (rest + 1) ≤ daysBeforeMonth year 13
      rw [daysBeforeMonth_thirteen]
      omega)
  refine ⟨_, of?_eq_some ⟨years, months, day⟩, ?_⟩
  have none_ : daysBeforeMonth year 1 = 0 := rfl
  unfold ordinal dayOfYear
  dsimp only
  omega

theorem ofOrdinal?_eq_none_iff {n : Int} : ofOrdinal? n = none ↔ n < 1 ∨ 3652059 < n := by
  constructor
  · intro missing
    by_contra inside
    obtain ⟨d, found, -⟩ := @exists_ordinal n (by omega) (by omega)
    rw [missing] at found
    cases found
  · intro outside
    rw [ofOrdinal?_eq, if_pos (by simpa using outside)]

theorem ofOrdinal?_eq_some_iff {n : Int} : ofOrdinal? n = some d ↔ (d.ordinal : Int) = n := by
  constructor
  · intro found
    have inside : ¬(n < 1 ∨ 3652059 < n) := by
      rw [← ofOrdinal?_eq_none_iff, found]
      exact Option.some_ne_none d
    obtain ⟨e, same, number⟩ := @exists_ordinal n (by omega) (by omega)
    rw [found] at same
    cases same
    exact number
  · rintro rfl
    obtain ⟨first, last⟩ := d.ordinal_range
    obtain ⟨e, found, same⟩ := @exists_ordinal d.ordinal (by omega) (by omega)
    rw [found, ordinal_inj (Int.ofNat_inj.mp same)]

theorem addDays?_neg {days : Int} (moved : d.addDays? days = some e) :
    e.addDays? (-days) = some d := by
  have number := ofOrdinal?_eq_some_iff.mp moved
  refine ofOrdinal?_eq_some_iff.mpr ?_
  omega

theorem addDays?_zero (d : Date) : d.addDays? 0 = some d :=
  ofOrdinal?_eq_some_iff.mpr (Int.add_zero _).symm

end RouteDocs.Date
