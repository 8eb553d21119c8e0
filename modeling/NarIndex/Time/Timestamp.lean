import NarIndex.Time.Moment

/-!
# NarIndex.Time.Timestamp

Instants with microsecond precision, the form in which the catalog keeps time: a count of
microseconds from 1 January 1970 UTC, within the years -9999 to 9999.  A clock shows a moment, to
the nanosecond and at some UTC offset; a timestamp drops the digits below the microsecond, which
never moves an instant forward.
-/

namespace NarIndex.Time

/-- The first microsecond of the year -9999. -/
def earliest : Int := -377705116800000000

/-- The last microsecond of the year 9999. -/
def latest : Int := 253402300799999999

/-- An instant in microseconds from 1 January 1970 UTC. -/
structure Timestamp where
  micros : Int
  earliest_le : earliest ≤ micros
  le_latest : micros ≤ latest
  deriving DecidableEq, Repr

namespace Timestamp

/-- The instant that timestamps count from. -/
def epoch : Timestamp :=
  ⟨0, by decide, by decide⟩

/-- The instant of a count of microseconds, if the calendar reaches it. -/
def ofMicros? (micros : Int) : Option Timestamp :=
  if h : earliest ≤ micros ∧ micros ≤ latest then some ⟨micros, h.1, h.2⟩ else none

@[simp] theorem ofMicros?_micros (t : Timestamp) : ofMicros? t.micros = some t := by
  simp [ofMicros?, t.earliest_le, t.le_latest]

theorem micros_of_ofMicros? {m : Int} {t : Timestamp} (h : ofMicros? m = some t) :
    t.micros = m := by
  unfold ofMicros? at h
  split at h
  · simp only [Option.some.injEq] at h; subst h; rfl
  · simp at h

end Timestamp

/-! ## moments on a clock -/

/-- The moment of a timestamp, in UTC. -/
def Timestamp.moment (t : Timestamp) : Moment :=
  .ofNanos (t.micros * 1000) 0

/-- The timestamp of a moment that the calendar reaches: the offset is taken off, the nanosecond
within the second loses its last three digits, and the instant is counted in microseconds. -/
def Timestamp.ofMoment? (m : Moment) : Option Timestamp :=
  if m.InCalendar then ofMicros? m.truncated.micros.toInt else none

/-! ## showing -/

/-- A number in decimal, filled up with zeros in front to a width. -/
def padded (width n : Nat) : String :=
  let digits := Nat.toDigits 10 n
  String.ofList (List.replicate (width - digits.length) '0' ++ digits)

/-- The digits of a fraction of a second given in microseconds: none at the end is a zero, but at
least one is there. -/
def fractionDigits (micros : Nat) : String :=
  match ((padded 6 micros).toList.reverse.dropWhile (· == '0')).reverse with
  | [] => "0"
  | digits => String.ofList digits

/-- A year has at least four digits, behind a sign if it is negative. -/
def yearText (year : Int) : String :=
  (if year < 0 then "-" else "") ++ padded 4 year.natAbs

/-- Date, time of day and offset; the hour is the one number that is not filled up. -/
def Timestamp.text (t : Timestamp) : String :=
  let date := t.moment.date
  let second := t.moment.secondOfDay
  yearText date.year ++ "-" ++ padded 2 date.month ++ "-" ++ padded 2 date.day ++ " "
    ++ toString (second / 3600) ++ ":" ++ padded 2 (second / 60 % 60) ++ ":"
    ++ padded 2 (second % 60) ++ "." ++ fractionDigits (t.moment.nanosecond / 1000) ++ " +00:00:00"

end NarIndex.Time
