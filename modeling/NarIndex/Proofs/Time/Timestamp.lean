import NarIndex.Catalog.Value
import NarIndex.Time.Timestamp

/-!
# NarIndex.Proofs.Time.Timestamp

Timestamps are moments without what is below the microsecond.  A moment loses that within its
second, where it goes back in time before and after 1970 alike, so that the count of microseconds,
which is cut off towards 1970, has nothing left to cut off: it is the floor of the count of
nanoseconds, at every offset (`truncated_ofNanos`, `micros_moment`).  The counts are in the order of
the moments (`moment_le_iff`), and the bounds on them are those of the calendar
(`inCalendar_ofNanos_iff`).
-/

namespace NarIndex.Time

/-! ## the years of the calendar -/

/-- January and February are the end of a year that is counted from March. -/
theorem monthOfYear_le_two_iff {n : Nat} (h : n ≤ 366) : monthOfYear n ≤ 2 ↔ 306 ≤ n := by
  rw [monthOfYear]
  by_cases hmarch : monthFromMarch n < 10
  · rw [if_pos hmarch]
    rw [monthFromMarch] at *
    omega
  · rw [if_neg hmarch]
    rw [monthFromMarch] at *
    omega

theorem yearOfEra_eq_zero {d : Nat} (h : d < 365) : yearOfEra d = 0 := by
  rw [yearOfEra]
  omega

theorem yearOfEra_pos {d : Nat} (h : 365 ≤ d) : 0 < yearOfEra d := by
  rw [yearOfEra]
  omega

/-- Before its last year no day of an era is in that. -/
theorem yearOfEra_lt {d : Nat} (h : d < 145731) : yearOfEra d < 399 := by
  rw [yearOfEra]
  omega

/-- The days from there on are in it, the leap day as well. -/
theorem yearOfEra_eq_last {d : Nat} (h : 145731 ≤ d) (hlt : d < 146097) : yearOfEra d = 399 := by
  rw [yearOfEra]
  omega

/-- The first of 400 years begins in March, so that most of its days are in the calendar year of
that number, and the others in the next. -/
theorem calendarYear_pos_iff (d : Nat) : 0 < calendarYear d ↔ 306 ≤ d := by
  rw [calendarYear]
  by_cases h : d < 365
  · have hyear := yearOfEra_eq_zero h
    have hday : dayOfYear d = d := by simp [dayOfYear, hyear]
    have hmonth := monthOfYear_le_two_iff (n := d) (by omega)
    rw [hyear, hday]
    split <;> omega
  · have hyear := yearOfEra_pos (Nat.le_of_not_lt h)
    omega

/-- The last of 400 years ends with two months of the calendar year behind them. -/
theorem calendarYear_lt_iff {d : Nat} (hlt : d < 146097) : calendarYear d < 400 ↔ d < 146037 := by
  rw [calendarYear]
  by_cases h : d < 145731
  · have hyear := yearOfEra_lt h
    split <;> omega
  · have hyear := yearOfEra_eq_last (Nat.le_of_not_lt h) hlt
    have hday : dayOfYear d = d - 145731 := by simp [dayOfYear, hyear]
    have hmonth := monthOfYear_le_two_iff (n := d - 145731) (by omega)
    rw [hyear, hday]
    split <;> omega

/-- No day of an era is later than February of the year 400, with which it ends. -/
theorem calendarYear_le {d : Nat} (hlt : d < 146097) : calendarYear d ≤ 400 := by
  have hyear : yearOfEra d < 400 := by
    rw [yearOfEra]
    omega
  rw [calendarYear]
  split <;> omega

/-- The days of the years from -9999 to 9999. -/
theorem year_ofDays_iff (days : Int) :
    -9999 ≤ (Date.ofDays days).year ∧ (Date.ofDays days).year ≤ 9999 ↔
      -4371587 ≤ days ∧ days ≤ 2932896 := by
  have hnonneg := Int.fmod_nonneg_of_pos (days + 719468) (b := 146097) (by decide)
  have hlt := Int.fmod_lt_of_pos (days + 719468) (b := 146097) (by decide)
  have hdays := Int.fmod_add_mul_fdiv (days + 719468) 146097
  rw [Date.ofDays]
  generalize (days + 719468).fdiv 146097 = era at hdays ⊢
  generalize (days + 719468).fmod 146097 = day at hnonneg hlt hdays ⊢
  have hfirst := calendarYear_pos_iff day.toNat
  have hlast := calendarYear_lt_iff (d := day.toNat) (by omega)
  have hle := calendarYear_le (d := day.toNat) (by omega)
  dsimp only
  omega

/-! ## counting -/

namespace Moment

/-- The count is divided towards the past. -/
theorem ofNanos_eq (nanos offset : Int) :
    ofNanos nanos offset =
      ⟨nanos / 1000000000 + offset, (nanos % 1000000000).toNat, offset⟩ := by
  rw [ofNanos, Int.fdiv_eq_ediv_of_nonneg nanos (by decide),
    Int.fmod_eq_emod_of_nonneg nanos (by decide)]

@[simp] theorem second_ofNanos (nanos offset : Int) :
    (ofNanos nanos offset).second = nanos / 1000000000 := by
  rw [ofNanos_eq]
  exact Int.add_sub_cancel _ _

@[simp] theorem nanosecond_ofNanos (nanos offset : Int) :
    (ofNanos nanos offset).nanosecond = (nanos % 1000000000).toNat := by
  simp [ofNanos_eq]

@[simp] theorem inUtc_ofNanos (nanos offset : Int) :
    (ofNanos nanos offset).inUtc = ofNanos nanos 0 := by
  rw [inUtc, second_ofNanos, nanosecond_ofNanos, ofNanos_eq, Int.add_zero]

@[simp] theorem nanos_ofNanos (nanos offset : Int) : (ofNanos nanos offset).nanos = nanos := by
  rw [Moment.nanos, second_ofNanos, nanosecond_ofNanos]
  omega

/-- Within the second the digits are dropped that go beyond the microsecond before, on either side
of 1970. -/
theorem truncated_ofNanos (nanos offset : Int) :
    (ofNanos nanos offset).truncated = ofNanos (nanos / 1000 * 1000) 0 := by
  rw [truncated, second_ofNanos, nanosecond_ofNanos, ofNanos_eq, Moment.mk.injEq]
  omega

/-- Whole microseconds are counted as they are, if 64 bits hold their number. -/
theorem micros_ofNanos {micros : Int} (hmin : -9223372036854775808 ≤ micros)
    (hmax : micros < 9223372036854775808) (offset : Int) :
    (ofNanos (micros * 1000) offset).micros.toInt = micros := by
  rw [Moment.micros, nanos_ofNanos, Int.mul_tdiv_cancel micros (by decide)]
  exact Int64.toInt_ofInt_of_le hmin hmax

/-- The instants that the calendar reaches. -/
theorem inCalendar_ofNanos_iff {nanos offset : Int} :
    (ofNanos nanos offset).InCalendar ↔ earliest ≤ nanos / 1000 ∧ nanos / 1000 ≤ latest := by
  have hday : (ofNanos nanos 0).localSeconds.fdiv 86400 = nanos / 86400000000000 := by
    rw [ofNanos_eq, Int.fdiv_eq_ediv_of_nonneg _ (by decide)]
    dsimp only
    omega
  rw [InCalendar, inUtc_ofNanos, date, hday, year_ofDays_iff, earliest, latest]
  omega

/-- Moments come one after the other as their instants do. -/
theorem ofNanos_le_iff {m n offset offset' : Int} :
    ofNanos m offset ≤ ofNanos n offset' ↔ m ≤ n := by
  simp only [le_def, second_ofNanos, nanosecond_ofNanos]
  omega

end Moment

/-! ## timestamps -/

namespace Timestamp

/-- A count is a timestamp just if the calendar reaches it. -/
theorem exists_ofMicros?_iff {micros : Int} :
    (∃ t, ofMicros? micros = some t) ↔ earliest ≤ micros ∧ micros ≤ latest := by
  rw [ofMicros?]
  split <;> simp_all

/-- What is stored of a timestamp is the count of its moment. -/
@[simp] theorem micros_moment (t : Timestamp) : t.moment.micros.toInt = t.micros := by
  have hmin := t.earliest_le
  have hmax := t.le_latest
  rw [earliest] at hmin
  rw [latest] at hmax
  exact Moment.micros_ofNanos (by omega) (by omega) 0

/-- The moments of timestamps come one after the other as the counts do. -/
theorem moment_le_iff {a b : Timestamp} : a.moment ≤ b.moment ↔ a.micros ≤ b.micros := by
  rw [moment, moment, Moment.ofNanos_le_iff]
  omega

/-- A moment is counted in whole microseconds, whatever the offset is that it is shown at. -/
theorem exists_ofMoment? {nanos offset : Int} (h : (Moment.ofNanos nanos offset).InCalendar) :
    ∃ t, ofMoment? (.ofNanos nanos offset) = some t ∧ t.micros = nanos / 1000 := by
  have hbounds := Moment.inCalendar_ofNanos_iff.1 h
  obtain ⟨t, ht⟩ := exists_ofMicros?_iff.2 hbounds
  rw [earliest, latest] at hbounds
  refine ⟨t, ?_, micros_of_ofMicros? ht⟩
  rw [ofMoment?, if_pos h, Moment.truncated_ofNanos,
    Moment.micros_ofNanos (by omega) (by omega), ht]

/-- Timestamps are floors, and in order.  An instant is counted in whole microseconds, at whatever
offset it is shown, and the timestamp is the moment without what is below them.  What is stored of a
timestamp leads back to it, and every count of 64 bits to a timestamp that is counted so, if the
calendar reaches it.  Timestamps are in the order of their counts, which is that of the values
stored. -/
theorem floors_in_order :
    (∀ nanos offset : Int, (Moment.ofNanos nanos offset).InCalendar →
      ∃ t, ofMoment? (.ofNanos nanos offset) = some t ∧
        t.moment = (Moment.ofNanos nanos offset).truncated ∧
        t.moment.micros.toInt = nanos.fdiv 1000) ∧
    (∀ t : Timestamp, t.moment.micros.toInt = t.micros ∧
      ofMicros? t.moment.micros.toInt = some t) ∧
    (∀ m : Int64, (∀ t, ofMicros? m.toInt = some t → t.moment.micros = m) ∧
      ((∃ t, ofMicros? m.toInt = some t) ↔ (Moment.ofNanos (m.toInt * 1000) 0).InCalendar)) ∧
    ∀ a b : Timestamp, (a.moment ≤ b.moment ↔ a.moment.micros ≤ b.moment.micros) ∧
      (a.moment ≤ b.moment ↔ (Catalog.Value.integer a.micros).le (.integer b.micros)) := by
  refine ⟨fun nanos offset h => ?_, fun t => ?_, fun m => ⟨fun t ht => ?_, ?_⟩, fun a b => ⟨?_, ?_⟩⟩
  · obtain ⟨t, ht, hmicros⟩ := exists_ofMoment? h
    refine ⟨t, ht, ?_, ?_⟩
    · rw [moment, hmicros, Moment.truncated_ofNanos]
    · rw [micros_moment, hmicros, Int.fdiv_eq_ediv_of_nonneg nanos (by decide)]
  · rw [micros_moment, ofMicros?_micros]
    exact ⟨rfl, rfl⟩
  · rw [← Int64.toInt_inj, micros_moment, micros_of_ofMicros? ht]
  · rw [exists_ofMicros?_iff, Moment.inCalendar_ofNanos_iff,
      Int.mul_ediv_cancel m.toInt (by decide)]
  · rw [moment_le_iff, Int64.le_iff_toInt_le, micros_moment, micros_moment]
  · rw [moment_le_iff, Catalog.Value.le_integer, decide_eq_true_iff]

/-- The last nanosecond before 1970, where dropping digits and going back in time are not the same,
at an offset of five and a half hours. -/
theorem floors_in_order_before_1970 :
    (Moment.ofNanos (-1) 19800).InCalendar ∧
      ∃ t, ofMoment? (.ofNanos (-1) 19800) = some t ∧ t.moment.micros.toInt = -1 := by
  have h : (Moment.ofNanos (-1) 19800).InCalendar := by decide
  obtain ⟨t, ht, -, hmicros⟩ := floors_in_order.1 (-1) 19800 h
  exact ⟨h, t, ht, hmicros⟩

end Timestamp

end NarIndex.Time
