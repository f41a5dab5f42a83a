/-!
# Instants

A moment in universal time: a day of the proleptic Gregorian calendar, a second
of that day and the nanoseconds within the second.  A leap second is the second
before it with a thousand million nanoseconds more.
-/

namespace Assay

structure Instant where
  /-- Days since the first of January 1970. -/
  day : Int
  second : Nat
  nano : Nat
deriving DecidableEq

/-- A date of the calendar. -/
structure CivilDate where
  year : Int
  month : Nat
  day : Nat
deriving DecidableEq

namespace CivilDate

def isLeapYear (year : Int) : Bool :=
  year % 4 == 0 && (year % 100 != 0 || year % 400 == 0)

def monthLength (year : Int) (month : Nat) : Nat :=
  if month = 2 then (if isLeapYear year then 29 else 28)
  else if month = 4 ∨ month = 6 ∨ month = 9 ∨ month = 11 then 30
  else 31

/-- The years that a date can have. -/
def leastYear : Int := -262143

def greatestYear : Int := 262142

def isValid (date : CivilDate) : Bool :=
  decide (leastYear ≤ date.year) && decide (date.year ≤ greatestYear)
    && 1 ≤ date.month && date.month ≤ 12
    && 1 ≤ date.day && date.day ≤ monthLength date.year date.month

/-- Days since 1970.  Years are counted from March on, so that the leap day ends
them, in eras of four hundred years. -/
def toDays (date : CivilDate) : Int :=
  let year := if date.month ≤ 2 then date.year - 1 else date.year
  let era := year / 400
  let yearOfEra := year % 400
  let dayOfYear : Int := (153 * ((date.month + 9) % 12 : Nat) + 2) / 5 + date.day - 1
  era * 146097 + yearOfEra * 365 + yearOfEra / 4 - yearOfEra / 100 + dayOfYear - 719468

def ofDays (days : Int) : CivilDate :=
  let shifted := days + 719468
  let era := shifted / 146097
  let dayOfEra := shifted % 146097
  let yearOfEra := (dayOfEra - dayOfEra / 1460 + dayOfEra / 36524 - dayOfEra / 146096) / 365
  let dayOfYear := dayOfEra - (365 * yearOfEra + yearOfEra / 4 - yearOfEra / 100)
  let shiftedMonth := (5 * dayOfYear + 2) / 153
  let day := dayOfYear - (153 * shiftedMonth + 2) / 5 + 1
  let month := if shiftedMonth < 10 then shiftedMonth + 3 else shiftedMonth - 9
  let year := yearOfEra + era * 400
  ⟨if month ≤ 2 then year + 1 else year, month.toNat, day.toNat⟩

def leastDay : Int := toDays ⟨leastYear, 1, 1⟩

def greatestDay : Int := toDays ⟨greatestYear, 12, 31⟩

end CivilDate

namespace Instant

def secondsPerDay : Nat := 86400

/-- The instant at which a local clock, ahead of universal time by an offset in
seconds, shows a date and time; nothing when its day has no date. -/
def ofLocal? (date : CivilDate) (second nano : Nat) (offset : Int) : Option Instant :=
  let total : Int := second - offset
  let day := date.toDays + total / secondsPerDay
  if CivilDate.leastDay ≤ day ∧ day ≤ CivilDate.greatestDay then
    some ⟨day, (total % secondsPerDay).toNat, nano⟩
  else none

def notAfter (left right : Instant) : Bool :=
  decide (left.day < right.day)
    || (left.day == right.day
      && (decide (left.second < right.second)
        || (left.second == right.second && decide (left.nano ≤ right.nano))))

end Instant

end Assay
