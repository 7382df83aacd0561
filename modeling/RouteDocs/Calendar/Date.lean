/-! Dates of the Gregorian calendar, years 1 to 9999. -/

namespace RouteDocs

namespace Date

def isLeap (year : Nat) : Bool :=
  year % 4 == 0 && (year % 100 != 0 || year % 400 == 0)

def monthLength (year month : Nat) : Nat :=
  if month == 2 then (if isLeap year then 29 else 28)
  else if month == 4 || month == 6 || month == 9 || month == 11 then 30
  else 31

def IsDate (year month day : Nat) : Prop :=
  (1 ≤ year ∧ year ≤ 9999) ∧ (1 ≤ month ∧ month ≤ 12) ∧ 1 ≤ day ∧ day ≤ monthLength year month

instance (year month day : Nat) : Decidable (IsDate year month day) :=
  inferInstanceAs (Decidable (_ ∧ _))

end Date

structure Date where
  year : Nat
  month : Nat
  day : Nat
  isDate : Date.IsDate year month day := by decide
  deriving DecidableEq, Repr

namespace Date

instance : Inhabited Date :=
  ⟨{ year := 1, month := 1, day := 1 }⟩

def of? (year month day : Nat) : Option Date :=
  if isDate : IsDate year month day then some { year, month, day, isDate } else none

def daysBeforeYear (year : Nat) : Nat :=
  let y := year - 1
  y * 365 + y / 4 - y / 100 + y / 400

def daysBeforeMonth (year : Nat) : (month : Nat) → Nat
  | 0 => 0
  | 1 => 0
  | month + 2 => daysBeforeMonth year (month + 1) + monthLength year (month + 1)

def dayOfYear (d : Date) : Nat :=
  daysBeforeMonth d.year d.month + d.day

/-- The number of the day, where January 1 of year 1 is day 1. -/
def ordinal (d : Date) : Nat :=
  daysBeforeYear d.year + d.dayOfYear

/-- Monday is 0. -/
def weekday (d : Date) : Nat :=
  (d.ordinal + 6) % 7

/-- The month that holds the day at the given place of the year. Months from
`month` on are looked at, `left` of them. -/
def monthOf (year day month : Nat) : (left : Nat) → Nat × Nat
  | 0 => (month, day)
  | left + 1 =>
      let length := monthLength year month
      if day ≤ length then (month, day) else monthOf year (day - length) (month + 1) left

def ofOrdinal? (n : Int) : Option Date :=
  if n < 1 || 3652059 < n then none
  else
    let days := n.toNat - 1
    let era := days / 146097
    let rest := days % 146097
    let century := min (rest / 36524) 3
    let rest := rest - century * 36524
    let cycle := rest / 1461
    let rest := rest % 1461
    let single := min (rest / 365) 3
    let rest := rest - single * 365
    let year := era * 400 + century * 100 + cycle * 4 + single + 1
    let (month, day) := monthOf year (rest + 1) 1 11
    of? year month day

def addDays? (d : Date) (days : Int) : Option Date :=
  ofOrdinal? (d.ordinal + days)

/-- The number of the Monday of week 1 of a year: the week of its first
Thursday. -/
def firstMonday (year : Nat) : Int :=
  let first : Int := daysBeforeYear year + 1
  let weekday := (first + 6) % 7
  let monday := first - weekday
  if 3 < weekday then monday + 7 else monday

def isoWeek (d : Date) : Int × Int :=
  let n : Int := d.ordinal
  let year : Int := d.year
  let start := firstMonday d.year
  if n < start then
    let start := if d.year ≤ 1 then start - 364 else firstMonday (d.year - 1)
    (year - 1, (n - start) / 7 + 1)
  else
    let next := firstMonday (d.year + 1)
    if next ≤ n then (year + 1, 1) else (year, (n - start) / 7 + 1)

def ofWeek? (year week day : Nat) : Option Date :=
  let first := daysBeforeYear year % 7
  let long := first == 3 || (first == 2 && isLeap year)
  if week == 0 || 53 < week || (week == 53 && !long) || day == 0 || 7 < day || year == 0 then none
  else ofOrdinal? (firstMonday year + (week - 1) * 7 + day - 1)

end Date
end RouteDocs
