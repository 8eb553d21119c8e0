/-!
# NarIndex.Time.Calendar

The proleptic Gregorian date of a day counted from 1 January 1970.  Years are counted from
1 March here, so that a leap day is the last day of its year; 400 years are 146097 days.
-/

namespace NarIndex.Time

/-- A date; year 0 is the year before year 1. -/
structure Date where
  year : Int
  month : Nat
  day : Nat
  deriving DecidableEq, Repr

/-- The year, within 400 years, that a day of them falls into. -/
def yearOfEra (dayOfEra : Nat) : Nat :=
  (dayOfEra - dayOfEra / 1460 + dayOfEra / 36524 - dayOfEra / 146096) / 365

/-- A day of 400 years, counted within its year. -/
def dayOfYear (dayOfEra : Nat) : Nat :=
  let year := yearOfEra dayOfEra
  dayOfEra - (365 * year + year / 4 - year / 100)

/-- The month that a day of a year falls into, counted from March. -/
def monthFromMarch (dayOfYear : Nat) : Nat :=
  (5 * dayOfYear + 2) / 153

/-- The month that a day of a year falls into. -/
def monthOfYear (dayOfYear : Nat) : Nat :=
  let fromMarch := monthFromMarch dayOfYear
  if fromMarch < 10 then fromMarch + 3 else fromMarch - 9

/-- The year, counted from January, that a day of 400 years falls into. -/
def calendarYear (dayOfEra : Nat) : Nat :=
  yearOfEra dayOfEra + if monthOfYear (dayOfYear dayOfEra) ≤ 2 then 1 else 0

/-- The date of a day, day 0 being 1 January 1970. -/
def Date.ofDays (days : Int) : Date :=
  let shifted := days + 719468
  let era := Int.fdiv shifted 146097
  let dayOfEra := (Int.fmod shifted 146097).toNat
  let dayOfYear := dayOfYear dayOfEra
  let day := dayOfYear - (153 * monthFromMarch dayOfYear + 2) / 5 + 1
  ⟨era * 400 + calendarYear dayOfEra, monthOfYear dayOfYear, day⟩

example : Date.ofDays 0 = ⟨1970, 1, 1⟩ := by decide
example : Date.ofDays 11016 = ⟨2000, 2, 29⟩ := by decide
example : Date.ofDays (-719529) = ⟨-1, 12, 31⟩ := by decide

end NarIndex.Time
