import RouteDocs.Calendar.Date

/-! Dates with a time of day and, where it is known, the distance from UTC. -/

namespace RouteDocs

namespace Moment

def IsTime (hour minute second microsecond : Nat) : Prop :=
  hour ≤ 23 ∧ minute ≤ 59 ∧ second ≤ 59 ∧ microsecond ≤ 999999

instance (hour minute second microsecond : Nat) :
    Decidable (IsTime hour minute second microsecond) :=
  inferInstanceAs (Decidable (_ ∧ _))

def IsOffset (offset : Option Int) : Prop :=
  ∀ microseconds ∈ offset, microseconds.natAbs < 86400000000

instance (offset : Option Int) : Decidable (IsOffset offset) :=
  inferInstanceAs (Decidable (∀ _ ∈ _, _))

end Moment

structure Moment where
  date : Date
  hour : Nat := 0
  minute : Nat := 0
  second : Nat := 0
  microsecond : Nat := 0
  /-- Microseconds ahead of UTC. -/
  offset : Option Int := none
  isTime : Moment.IsTime hour minute second microsecond := by decide
  isOffset : Moment.IsOffset offset := by decide
  deriving DecidableEq, Repr

namespace Moment

def ofDate (date : Date) : Moment :=
  { date }

instance : Inhabited Moment :=
  ⟨ofDate default⟩

theorem isOffset_none : IsOffset none := by decide

def of? (date : Date) (hour minute second microsecond : Nat) (offset : Option Int) :
    Option Moment :=
  if valid : IsTime hour minute second microsecond ∧ IsOffset offset then
    some { date, hour, minute, second, microsecond, offset, isTime := valid.1, isOffset := valid.2 }
  else none

def midnight (m : Moment) : Moment :=
  { m with hour := 0, minute := 0, second := 0, microsecond := 0, isTime := by decide }

def addDays? (m : Moment) (days : Int) : Option Moment :=
  (m.date.addDays? days).map fun date => { m with date }

/-- The number of January 1, 1970. -/
def epochDay : Int := 719163

/-- Seconds from January 1, 1970, the distance from UTC left aside. -/
def epochSeconds (m : Moment) : Int :=
  ((m.date.ordinal : Int) - epochDay) * 86400 + m.hour * 3600 + m.minute * 60 + m.second

def ofEpochSeconds? (seconds : Int) : Option Moment :=
  let inDay := (seconds % 86400).toNat
  (Date.ofOrdinal? (epochDay + seconds / 86400)).map fun date =>
    { date, hour := inDay / 3600, minute := inDay / 60 % 60, second := inDay % 60
      isTime := by unfold IsTime; omega }

end Moment
end RouteDocs
