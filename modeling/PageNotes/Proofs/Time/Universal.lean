import PageNotes.Proofs.Time.Calendar

/-!
Moments in universal time. A moment is an instant, counted in microseconds by the calendar and by
its clock; in universal time it is shown as the same instant, if its year has dates there.

* `Moment.instant`: the microseconds from the start of the year zero;
* `Moment.IsUniversal`, `Moment.IsUniversal.startOf_le_iff`: what a clock in universal time shows,
  and how its years follow each other;
* `Moment.IsDated.toUniversal?`: a moment is shown in universal time as the same instant.
-/

namespace PageNotes

/-! ### Instants -/

lemma TimeSpan.microseconds_zero : (0 : TimeSpan).microseconds = 0 := rfl

namespace Moment

/-- The microseconds in universal time from the start of the year zero to a moment; a clock without
offset shows universal time. -/
def instant (m : Moment) : ℤ :=
  (((m.date.dayNumber * 24 + m.hour) * 60 + m.minute) * 60 + m.second) * 1000000 + m.microsecond
    - (m.offset.getD 0).microseconds

/-- The start of a year in universal time. -/
def startOf (year : ℤ) : Moment := ⟨⟨year, 1, 1⟩, 0, 0, 0, 0, some 0⟩

/-- A moment on a date of the calendar, which lies in the years that have dates in universal time
too. -/
structure IsDated (m : Moment) : Prop where
  date : m.date.IsValid
  year_nonneg : 0 ≤ m.date.year
  start_le : (startOf firstYear).instant ≤ m.instant
  lt_end : m.instant < (startOf (lastYear + 1)).instant

/-- A moment as a clock in universal time shows it. -/
structure IsUniversal (u : Moment) : Prop where
  date : u.date.IsValid
  year_nonneg : 0 ≤ u.date.year
  hour_lt : u.hour < 24
  minute_lt : u.minute < 60
  second_lt : u.second < 60
  microsecond_lt : u.microsecond < 1000000
  offset : u.offset = some 0

variable {m m' u : Moment}

/-- Both counts differ by the days from the start of the year zero to the first of March. -/
lemma instant_eq (hdate : m.date.IsValid) (hyear : 0 ≤ m.date.year) :
    m.instant = m.ticks + 60 * 86400000000 := by
  have hday := daysOf_eq_dayNumber hdate hyear
  simp only [instant, ticks, seconds, microsecondsPerSecond]
  omega

/-- Instants are compared as the formula for the number of a day counts them. -/
lemma instant_le_iff (hdate : m.date.IsValid) (hyear : 0 ≤ m.date.year) (hdate' : m'.date.IsValid)
    (hyear' : 0 ≤ m'.date.year) : m.instant ≤ m'.instant ↔ m.ticks ≤ m'.ticks := by
  rw [instant_eq hdate hyear, instant_eq hdate' hyear']
  omega

lemma startOf_instant (year : ℤ) :
    (startOf year).instant = daysBeforeYear year * 86400000000 := by
  simp only [instant, startOf, Date.dayNumber_yearStart, Option.getD_some,
    TimeSpan.microseconds_zero]
  omega

namespace IsUniversal

lemma instant_eq (hu : u.IsUniversal) : u.instant
    = (((u.date.dayNumber * 24 + u.hour) * 60 + u.minute) * 60 + u.second) * 1000000
      + u.microsecond := by
  rw [instant, hu.offset, Option.getD_some, TimeSpan.microseconds_zero, sub_zero]

/-- A moment lies behind the start of a year when its own year does not come before it. -/
lemma startOf_le_iff (hu : u.IsUniversal) (year : ℤ) :
    (startOf year).instant ≤ u.instant ↔ year ≤ u.date.year := by
  have hinstant := hu.instant_eq
  have hstart := startOf_instant year
  have hhour := hu.hour_lt
  have hminute := hu.minute_lt
  have hsecond := hu.second_lt
  have hmicrosecond := hu.microsecond_lt
  constructor
  · intro h
    by_contra hlt
    have hbefore : u.date.Before ⟨year, 1, 1⟩ := Or.inl (not_le.mp hlt)
    have hday := hbefore.dayNumber_lt hu.date (Date.isValid_yearStart year) hu.year_nonneg
    rw [Date.dayNumber_yearStart] at hday
    omega
  · intro h
    have hyears := daysBeforeYear_mono h
    have hday : u.date.dayNumber = daysBeforeYear u.date.year
      + daysBeforeMonth u.date.year u.date.month + u.date.day - 1 := rfl
    have hpos := hu.date.one_le_day
    omega

end IsUniversal

/-! ### Universal time -/

lemma atSeconds_hour_lt (s : ℤ) (microsecond : ℕ) : (atSeconds s microsecond).hour < 24 := by
  simp only [atSeconds, Int.fdiv_eq_ediv_of_nonneg _ (show (0 : ℤ) ≤ 86400 by omega)]
  omega

/-- The date and the time of day make up the number of microseconds. -/
lemma ticks_atTicks (t : ℤ) : (atTicks t).ticks = t := by
  simp only [atTicks, atSeconds, ticks, seconds, daysOf_dateOf, microsecondsPerSecond,
    Option.getD_some, TimeSpan.microseconds_zero,
    Int.fdiv_eq_ediv_of_nonneg _ (show (0 : ℤ) ≤ 86400 by omega),
    Int.fdiv_eq_ediv_of_nonneg _ (show (0 : ℤ) ≤ (1000000 : ℕ) by omega)]
  omega

lemma atTicks_isUniversal {t : ℤ} (h : 0 ≤ t) : (atTicks t).IsUniversal where
  date := dateOf_isValid _
  year_nonneg := by
    refine dateOf_year_nonneg ?_
    simp only [Int.fdiv_eq_ediv_of_nonneg _ (show (0 : ℤ) ≤ 86400 by omega), microsecondsPerSecond,
      Int.fdiv_eq_ediv_of_nonneg _ (show (0 : ℤ) ≤ (1000000 : ℕ) by omega)]
    omega
  hour_lt := atSeconds_hour_lt _ _
  minute_lt := Nat.mod_lt _ (by omega)
  second_lt := Nat.mod_lt _ (by omega)
  microsecond_lt := by
    simp only [atTicks, atSeconds, microsecondsPerSecond,
      Int.fdiv_eq_ediv_of_nonneg _ (show (0 : ℤ) ≤ (1000000 : ℕ) by omega)]
    omega
  offset := rfl

lemma daysBeforeYear_firstYear : daysBeforeYear firstYear = 366 := rfl

/-- A moment that lies in the years that have dates is shown in universal time, and is the same
instant there. -/
theorem IsDated.toUniversal? (hm : m.IsDated) : ∃ u, m.toUniversal? = some u ∧ u.IsUniversal ∧
    u.instant = m.instant ∧ firstYear ≤ u.date.year ∧ u.date.year ≤ lastYear := by
  have hstart := hm.start_le
  have hend := hm.lt_end
  have hticks := instant_eq hm.date hm.year_nonneg
  have hnonneg : 0 ≤ m.ticks := by
    rw [startOf_instant, daysBeforeYear_firstYear] at hstart
    omega
  have hu := atTicks_isUniversal hnonneg
  have hinstant : (atTicks m.ticks).instant = m.instant := by
    rw [Moment.instant_eq hu.date hu.year_nonneg, ticks_atTicks, hticks]
  rw [← hinstant] at hstart hend
  have hfirst := (hu.startOf_le_iff _).mp hstart
  have hlast : (atTicks m.ticks).date.year ≤ lastYear := by
    by_contra hlt
    exact not_le.mpr hend ((hu.startOf_le_iff _).mpr (not_le.mp hlt))
  exact ⟨atTicks m.ticks, if_pos ⟨hfirst, hlast⟩, hu, hinstant, hfirst, hlast⟩

end Moment

end PageNotes
