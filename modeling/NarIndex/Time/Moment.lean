import NarIndex.Time.Calendar

/-!
# NarIndex.Time.Moment

What a clock shows at some UTC offset, to the nanosecond.  The same instant is shown differently at
different offsets; counted from 1 January 1970 UTC it is one number, and moments come one after the
other as their instants do.
-/

namespace NarIndex.Time

/-- What a clock at a UTC offset shows: its seconds from 1 January 1970 in local time, the
nanosecond within the second, and the offset in seconds. -/
structure Moment where
  localSeconds : Int
  nanosecond : Nat
  offset : Int
  deriving DecidableEq, Repr

namespace Moment

/-! ## the date -/

/-- The date that is shown. -/
def date (m : Moment) : Date :=
  Date.ofDays (m.localSeconds.fdiv 86400)

/-- The second of the day that is shown. -/
def secondOfDay (m : Moment) : Nat :=
  (m.localSeconds.fmod 86400).toNat

/-- The second that a moment falls into, counted in UTC. -/
def second (m : Moment) : Int :=
  m.localSeconds - m.offset

/-- The same instant, shown in UTC. -/
def inUtc (m : Moment) : Moment :=
  ⟨m.second, m.nanosecond, 0⟩

/-- Whether the calendar reaches a moment: it has the years from -9999 to 9999. -/
def InCalendar (m : Moment) : Prop :=
  -9999 ≤ m.inUtc.date.year ∧ m.inUtc.date.year ≤ 9999

instance (m : Moment) : Decidable m.InCalendar :=
  inferInstanceAs (Decidable (_ ∧ _))

/-! ## counting -/

/-- The moment of a count of nanoseconds from 1 January 1970 UTC, shown at an offset. -/
def ofNanos (nanos offset : Int) : Moment :=
  ⟨nanos.fdiv 1000000000 + offset, (nanos.fmod 1000000000).toNat, offset⟩

/-- The nanoseconds from 1 January 1970 UTC to a moment. -/
def nanos (m : Moment) : Int :=
  m.second * 1000000000 + m.nanosecond

/-- The microseconds from 1 January 1970 UTC to a moment, in 64 bits.  A part of a microsecond is
dropped, towards 1970. -/
def micros (m : Moment) : Int64 :=
  Int64.ofInt (m.nanos.tdiv 1000)

/-- A moment in UTC, with the nanosecond within the second without its last three digits. -/
def truncated (m : Moment) : Moment :=
  ⟨m.second, m.nanosecond / 1000 * 1000, 0⟩

/-! ## order -/

/-- One moment is not after another if its second is earlier, or it is the same and the nanosecond
within it is not later. -/
instance : LE Moment where
  le a b := a.second < b.second ∨ a.second = b.second ∧ a.nanosecond ≤ b.nanosecond

theorem le_def {a b : Moment} :
    a ≤ b ↔ a.second < b.second ∨ a.second = b.second ∧ a.nanosecond ≤ b.nanosecond :=
  Iff.rfl

end Moment

end NarIndex.Time
