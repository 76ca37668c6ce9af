import Mathlib.Algebra.BigOperators.Intervals
import Mathlib.Algebra.Order.BigOperators.Group.Finset
import Mathlib.Data.Int.Interval
import Mathlib.Tactic.Common
import Mathlib.Tactic.IntervalCases
import PageNotes.Time.Moment

/-!
The calendar. The number of a day is found by one formula and the date of a number by another; here
the days are counted one year and one month after the other, and both formulas agree with the
count.

* `Date.dayNumber`: the days before a date, counted by the lengths of years and months;
* `daysOf_eq_dayNumber`: the formula for the number of a day counts from the first of March of the
  year zero;
* `IsCycleDay`, `exists_isCycleDay`, `cycleYear_eq`: the days of a cycle of 400 years;
* `dateOf_isValid`, `daysOf_dateOf`: every number of a day has its date;
* `dayNumber_lt_of_before`: days are counted in the order of the calendar.
-/

namespace PageNotes

/-! ### Counting days -/

/-- The number of days of a year. -/
def yearLength (year : ℤ) : ℕ := if isLeapYear year then 366 else 365

/-- The days of the years from the year zero up to a year. -/
def daysBeforeYear (year : ℤ) : ℕ := ∑ y ∈ Finset.range year.toNat, yearLength y

/-- The days of the months of a year up to a month. -/
def daysBeforeMonth (year : ℤ) (month : ℕ) : ℕ := ∑ m ∈ Finset.Ico 1 month, monthLength year m

namespace Date

/-- The days from the start of the year zero to a date. -/
def dayNumber (d : Date) : ℤ :=
  daysBeforeYear d.year + daysBeforeMonth d.year d.month + d.day - 1

/-- A date that the calendar has. -/
structure IsValid (d : Date) : Prop where
  one_le_month : 1 ≤ d.month
  month_le : d.month ≤ 12
  one_le_day : 1 ≤ d.day
  day_le : d.day ≤ monthLength d.year d.month

end Date

variable {year : ℤ} {month day : ℕ}

lemma isLeapYear_iff :
    isLeapYear year = true ↔ year % 4 = 0 ∧ (year % 100 ≠ 0 ∨ year % 400 = 0) := by
  simp only [isLeapYear, Bool.and_eq_true, Bool.or_eq_true, decide_eq_true_eq]

lemma monthLength_le (year : ℤ) (month : ℕ) : monthLength year month ≤ 31 := by
  rw [monthLength]
  split_ifs <;> omega

lemma daysBeforeYear_succ (h : 0 ≤ year) :
    daysBeforeYear (year + 1) = daysBeforeYear year + yearLength year := by
  rw [daysBeforeYear, daysBeforeYear, Int.toNat_add h (by omega), Int.toNat_one,
    Finset.sum_range_succ, Int.toNat_of_nonneg h]

lemma daysBeforeMonth_succ (h : 1 ≤ month) :
    daysBeforeMonth year (month + 1) = daysBeforeMonth year month + monthLength year month :=
  Finset.sum_Ico_succ_top h _

/-- The months make up their year. -/
lemma daysBeforeMonth_thirteen (year : ℤ) : daysBeforeMonth year 13 = yearLength year := by
  simp only [daysBeforeMonth, Finset.sum_Ico_succ_top, Finset.Ico_self, Finset.sum_empty,
    Nat.reduceLeDiff, monthLength, yearLength]
  cases isLeapYear year <;> rfl

/-! ### The number of a day -/

/-- The number of a day by the years and months since the first of March of the year zero. -/
lemma daysOf_eq {y : ℤ} {m : ℕ} (hyear : y = if month ≤ 2 then year - 1 else year)
    (hmonth : m = (month + 9) % 12) :
    daysOf ⟨year, month, day⟩
      = 365 * y + y / 4 - y / 100 + y / 400 + (153 * m + 2) / 5 + day - 1 := by
  subst hmonth
  simp only [daysOf, ← hyear, Int.fdiv_eq_ediv_of_nonneg _ (show (0 : ℤ) ≤ 400 by omega)]
  push_cast
  omega

/-- The leap days up to a year that begins in March. -/
lemma leapDays_eq (year : ℤ) :
    year / 4 - year / 100 + year / 400 = (year - 1) / 4 - (year - 1) / 100 + (year - 1) / 400
      + if isLeapYear year then 1 else 0 := by
  have hfour : year / 4 = (year - 1) / 4 + if year % 4 = 0 then 1 else 0 := by split_ifs <;> omega
  have hhundred : year / 100 = (year - 1) / 100 + if year % 100 = 0 then 1 else 0 := by
    split_ifs <;> omega
  have hcycle : year / 400 = (year - 1) / 400 + if year % 400 = 0 then 1 else 0 := by
    split_ifs <;> omega
  rw [hfour, hhundred, hcycle]
  simp only [isLeapYear_iff]
  split_ifs <;> omega

/-- A year on, the number has grown by the length of the year. -/
lemma daysOf_nextYear (year : ℤ) :
    daysOf ⟨year + 1, 1, 1⟩ = daysOf ⟨year, 1, 1⟩ + yearLength year := by
  have hleap := leapDays_eq year
  rw [daysOf_eq (y := year) (m := 10) (by simp) rfl,
    daysOf_eq (y := year - 1) (m := 10) (by simp) rfl, yearLength]
  split_ifs at hleap ⊢ <;> push_cast <;> omega

/-- A month on, the number has grown by the length of the month. -/
lemma daysOf_nextMonth (hpos : 1 ≤ month) (hlt : month < 12) :
    daysOf ⟨year, month + 1, 1⟩ = daysOf ⟨year, month, 1⟩ + monthLength year month := by
  -- between February and March the formula goes over to the next year
  by_cases hfebruary : month = 2
  · subst hfebruary
    have hleap := leapDays_eq year
    rw [daysOf_eq (y := year) (m := 0) (by simp) rfl,
      daysOf_eq (y := year - 1) (m := 11) (by simp) rfl, monthLength, if_pos rfl]
    split_ifs at hleap ⊢ <;> push_cast <;> omega
  · rw [daysOf_eq rfl rfl, daysOf_eq rfl rfl]
    interval_cases month <;> simp [monthLength] at hfebruary ⊢ <;> omega

lemma daysOf_day (year : ℤ) (month day : ℕ) :
    daysOf ⟨year, month, day⟩ = daysOf ⟨year, month, 1⟩ + day - 1 := by
  rw [daysOf_eq rfl rfl, daysOf_eq rfl rfl]
  push_cast
  omega

lemma daysOf_yearStart (n : ℕ) : daysOf ⟨n, 1, 1⟩ = daysBeforeYear n - 60 := by
  induction n with
  | zero => rfl
  | succ n ih =>
      have hnext := daysOf_nextYear n
      have hcount := daysBeforeYear_succ (Int.natCast_nonneg n)
      push_cast at hnext hcount ⊢
      rw [hnext, hcount, ih]
      push_cast
      omega

lemma daysOf_monthStart (year : ℤ) (hpos : 1 ≤ month) (hle : month ≤ 12) :
    daysOf ⟨year, month, 1⟩ = daysOf ⟨year, 1, 1⟩ + daysBeforeMonth year month := by
  induction month, hpos using Nat.le_induction with
  | base => simp [daysBeforeMonth]
  | succ month hpos ih =>
      rw [daysOf_nextMonth hpos (by omega), ih (by omega), daysBeforeMonth_succ hpos]
      push_cast
      omega

namespace Date

lemma isValid_yearStart (year : ℤ) : IsValid ⟨year, 1, 1⟩ :=
  ⟨Nat.le_refl 1, by simp, Nat.le_refl 1, by simp [monthLength]⟩

lemma dayNumber_yearStart (year : ℤ) : dayNumber ⟨year, 1, 1⟩ = daysBeforeYear year := by
  simp [dayNumber, daysBeforeMonth]

end Date

/-- The formula for the number of a day counts from the first of March of the year zero. -/
theorem daysOf_eq_dayNumber {d : Date} (hd : d.IsValid) (hyear : 0 ≤ d.year) :
    daysOf d = d.dayNumber - 60 := by
  obtain ⟨n, hn⟩ := Int.eq_ofNat_of_zero_le hyear
  have hstart := daysOf_yearStart n
  have hmonth := daysOf_monthStart d.year hd.one_le_month hd.month_le
  have hday := daysOf_day d.year d.month d.day
  rw [← hn] at hstart
  rw [Date.dayNumber, hday, hmonth, hstart]
  omega

/-! ### The order of days -/

namespace Date

/-- A date comes before another in the calendar. -/
def Before (d d' : Date) : Prop :=
  d.year < d'.year ∨ d.year = d'.year ∧
    (d.month < d'.month ∨ d.month = d'.month ∧ d.day < d'.day)

end Date

lemma daysBeforeYear_mono {year' : ℤ} (h : year ≤ year') :
    daysBeforeYear year ≤ daysBeforeYear year' :=
  Finset.sum_le_sum_of_subset (Finset.range_subset_range.mpr (Int.toNat_le_toNat h))

lemma daysBeforeMonth_mono {month' : ℕ} (year : ℤ) (h : month ≤ month') :
    daysBeforeMonth year month ≤ daysBeforeMonth year month' :=
  Finset.sum_le_sum_of_subset (Finset.Ico_subset_Ico_right h)

/-- The days of a month come before those of the next. -/
lemma Date.IsValid.daysBeforeMonth_add_le {d : Date} (hd : d.IsValid) {month' : ℕ}
    (h : d.month < month') :
    daysBeforeMonth d.year d.month + d.day ≤ daysBeforeMonth d.year month' :=
  calc daysBeforeMonth d.year d.month + d.day
      ≤ daysBeforeMonth d.year d.month + monthLength d.year d.month :=
        Nat.add_le_add_left hd.day_le _
    _ = daysBeforeMonth d.year (d.month + 1) := (daysBeforeMonth_succ hd.one_le_month).symm
    _ ≤ daysBeforeMonth d.year month' := daysBeforeMonth_mono _ h

/-- Days are counted in the order of the calendar. -/
theorem Date.Before.dayNumber_lt {d d' : Date} (h : d.Before d') (hd : d.IsValid)
    (hd' : d'.IsValid) (hyear : 0 ≤ d.year) : d.dayNumber < d'.dayNumber := by
  have hday' := hd'.one_le_day
  rw [dayNumber, dayNumber]
  rcases h with hlt | ⟨heq, hlt | ⟨hmonth, hday⟩⟩
  · have hmonths := hd.daysBeforeMonth_add_le (Nat.lt_succ_of_le hd.month_le)
    have hsucc := daysBeforeYear_succ hyear
    have hyears := daysBeforeYear_mono (show d.year + 1 ≤ d'.year by omega)
    rw [daysBeforeMonth_thirteen] at hmonths
    omega
  · have hmonths := hd.daysBeforeMonth_add_le hlt
    rw [heq] at hmonths ⊢
    omega
  · rw [heq, hmonth]
    omega

/-! ### The date of a day -/

/-- A day of a cycle of 400 years, as a year of the cycle and a day of this year; here years begin
in March, and their last day may be a leap day. -/
structure IsCycleDay (day year dayOfYear : ℤ) : Prop where
  year_nonneg : 0 ≤ year
  year_lt : year < 400
  day_nonneg : 0 ≤ dayOfYear
  day_le : dayOfYear ≤ 365
  leap : dayOfYear = 365 → isLeapYear (year + 1) = true
  eq : day = 365 * year + year / 4 - year / 100 + dayOfYear

/-- The leap days up to a year of a cycle, from its centuries, times of four years and years. -/
lemma cycleYear_ediv (century : ℤ) {four single : ℤ} (hfour : 0 ≤ four ∧ four < 25)
    (hsingle : 0 ≤ single ∧ single < 4) :
    (100 * century + 4 * four + single) / 4 = 25 * century + four ∧
      (100 * century + 4 * four + single) / 100 = century := by
  constructor <;> omega

/-- A cycle has four centuries of 25 times four years, but the last day of a century or of four
years may be missing. -/
lemma exists_isCycleDay (day : ℤ) (hnonneg : 0 ≤ day) (hlt : day < 146097) :
    ∃ year dayOfYear, IsCycleDay day year dayOfYear := by
  obtain ⟨century, ofCentury, hcentury, hday⟩ : ∃ c r : ℤ, (0 ≤ c ∧ c < 4) ∧
      day = 36524 * c + r ∧ 0 ≤ r ∧ (r < 36524 ∨ r = 36524 ∧ c = 3) :=
    ⟨min (day / 36524) 3, day - 36524 * min (day / 36524) 3, by omega, by omega⟩
  obtain ⟨four, ofFour, hfour, hofCentury⟩ : ∃ b r : ℤ, (0 ≤ b ∧ b < 25) ∧
      ofCentury = 1461 * b + r ∧ 0 ≤ r ∧ r < 1461 :=
    ⟨ofCentury / 1461, ofCentury % 1461, by omega, by omega⟩
  obtain ⟨single, ofYear, hsingle, hofFour⟩ : ∃ a r : ℤ, (0 ≤ a ∧ a < 4) ∧
      ofFour = 365 * a + r ∧ 0 ≤ r ∧ (r < 365 ∨ r = 365 ∧ a = 3) :=
    ⟨min (ofFour / 365) 3, ofFour - 365 * min (ofFour / 365) 3, by omega, by omega⟩
  have hleapDays := cycleYear_ediv century hfour hsingle
  refine ⟨100 * century + 4 * four + single, ofYear, by omega, by omega, by omega, by omega,
    fun hlast => ?_, by omega⟩
  rw [isLeapYear_iff]
  -- the last day of a year in March years is the leap day of the next
  obtain rfl : single = 3 := by omega
  by_cases hlastFour : four = 24
  · obtain rfl : century = 3 := by omega
    omega
  · omega

/-- The formula for the year of a cycle's day. -/
def cycleYear (day : ℤ) : ℤ := (day - day / 1460 + day / 36524 - day / 146096) / 365

lemma IsCycleDay.cycleYear_eq {day dayOfYear : ℤ} (h : IsCycleDay day year dayOfYear) :
    cycleYear day = year := by
  obtain ⟨hnonneg, hlt, hday, hle, hleap, heq⟩ := h
  rw [isLeapYear_iff] at hleap
  obtain ⟨century, four, single, rfl, hc, hf, hs⟩ : ∃ c b a : ℤ, year = 100 * c + 4 * b + a ∧
      (0 ≤ c ∧ c < 4) ∧ (0 ≤ b ∧ b < 25) ∧ (0 ≤ a ∧ a < 4) :=
    ⟨year / 100, year % 100 / 4, year % 4, by omega, by omega, by omega, by omega⟩
  have hleapDays := cycleYear_ediv century hf hs
  have hcount : day = 36524 * century + 1461 * four + 365 * single + dayOfYear := by omega
  have hlast : dayOfYear = 365 → single = 3 ∧ (four = 24 → century = 3) := by omega
  have hcentury : day / 36524 - day / 146096 = century := by
    have hc : century = 0 ∨ century = 1 ∨ century = 2 ∨ century = 3 := by omega
    rcases hc with rfl | rfl | rfl | rfl <;> omega
  have hfours : day / 1460 = 25 * century + four ∧ dayOfYear < 365 ∨
      day / 1460 = 25 * century + four + 1 ∧ 1 ≤ dayOfYear := by omega
  rw [cycleYear]
  omega

/-- The date of a day in a year that begins in March. -/
def marchDate (year dayOfYear : ℤ) : Date :=
  let month := (5 * dayOfYear + 2) / 153
  let day := dayOfYear - (153 * month + 2) / 5 + 1
  if month < 10 then ⟨year, (month + 3).toNat, day.toNat⟩
  else ⟨year + 1, (month - 9).toNat, day.toNat⟩

lemma IsCycleDay.dateOf_eq {day dayOfYear : ℤ} (h : IsCycleDay day year dayOfYear) (cycle : ℤ) :
    dateOf (146097 * cycle + day) = marchDate (400 * cycle + year) dayOfYear := by
  have hyear := h.cycleYear_eq
  obtain ⟨hnonneg, hlt, hday, hle, -, heq⟩ := h
  have hcycle : Int.fdiv (146097 * cycle + day) 146097 = cycle := by
    rw [Int.fdiv_eq_ediv_of_nonneg _ (by omega)]
    omega
  have hofCycle : 146097 * cycle + day - cycle * 146097 = day := by omega
  rw [cycleYear] at hyear
  simp only [dateOf, marchDate, hcycle, hofCycle, hyear]
  rw [show day - (365 * year + year / 4 - year / 100) = dayOfYear by omega,
    show year + cycle * 400 = 400 * cycle + year by omega]

section MarchDate

variable {dayOfYear : ℤ}

lemma daysOf_marchDate (year : ℤ) (hnonneg : 0 ≤ dayOfYear) (hle : dayOfYear ≤ 365) :
    daysOf (marchDate year dayOfYear)
      = 365 * year + year / 4 - year / 100 + year / 400 + dayOfYear := by
  obtain ⟨month, hmonth⟩ : ∃ m : ℕ, (5 * dayOfYear + 2) / 153 = m :=
    ⟨((5 * dayOfYear + 2) / 153).toNat, by omega⟩
  simp only [marchDate, hmonth]
  split_ifs with hlt
  · rw [daysOf_eq (y := year) (m := month) (by split_ifs <;> omega) (by omega)]
    omega
  · rw [daysOf_eq (y := year) (m := month) (by split_ifs <;> omega) (by omega)]
    omega

lemma marchDate_isValid (hnonneg : 0 ≤ dayOfYear) (hle : dayOfYear ≤ 365)
    (hleap : dayOfYear = 365 → isLeapYear (year + 1) = true) :
    (marchDate year dayOfYear).IsValid := by
  obtain ⟨month, hmonth⟩ : ∃ m : ℕ, (5 * dayOfYear + 2) / 153 = m :=
    ⟨((5 * dayOfYear + 2) / 153).toNat, by omega⟩
  have hlast : month < 12 := by omega
  simp only [marchDate, hmonth]
  split_ifs with hlt
  · refine ⟨by dsimp only; omega, by dsimp only; omega, by dsimp only; omega, ?_⟩
    dsimp only
    interval_cases month <;> simp [monthLength] at hlt ⊢ <;> omega
  · refine ⟨by dsimp only; omega, by dsimp only; omega, by dsimp only; omega, ?_⟩
    dsimp only
    obtain rfl | rfl : month = 10 ∨ month = 11 := by omega
    · show (dayOfYear - (153 * (10 : ℕ) + 2) / 5 + 1).toNat ≤ 31
      omega
    · show (dayOfYear - (153 * (11 : ℕ) + 2) / 5 + 1).toNat ≤ monthLength (year + 1) 2
      rw [monthLength, if_pos rfl]
      split_ifs with hyear
      · omega
      · have hne : dayOfYear ≠ 365 := fun h => hyear (hleap h)
        omega

end MarchDate

/-- A day has its date in a year that begins in March. -/
lemma exists_marchDate (n : ℤ) : ∃ year dayOfYear, dateOf n = marchDate year dayOfYear ∧
    n = 365 * year + year / 4 - year / 100 + year / 400 + dayOfYear ∧
    0 ≤ dayOfYear ∧ dayOfYear ≤ 365 ∧ (dayOfYear = 365 → isLeapYear (year + 1) = true) := by
  obtain ⟨year, dayOfYear, h⟩ := exists_isCycleDay (n % 146097) (by omega) (by omega)
  have heq := h.eq
  have hyear : (400 * (n / 146097) + year) / 400 = n / 146097 := by
    have hnonneg := h.year_nonneg
    have hlt := h.year_lt
    omega
  have hfour : (400 * (n / 146097) + year) / 4 = 100 * (n / 146097) + year / 4 := by omega
  have hhundred : (400 * (n / 146097) + year) / 100 = 4 * (n / 146097) + year / 100 := by omega
  refine ⟨400 * (n / 146097) + year, dayOfYear, ?_, by omega, h.day_nonneg, h.day_le,
    fun hlast => ?_⟩
  · rw [← h.dateOf_eq, Int.mul_ediv_add_emod]
  · have hleap := h.leap hlast
    rw [isLeapYear_iff] at hleap ⊢
    omega

theorem dateOf_isValid (n : ℤ) : (dateOf n).IsValid := by
  obtain ⟨year, dayOfYear, hdate, -, hnonneg, hle, hleap⟩ := exists_marchDate n
  rw [hdate]
  exact marchDate_isValid hnonneg hle hleap

lemma dateOf_year_nonneg {n : ℤ} (h : 0 ≤ n) : 0 ≤ (dateOf n).year := by
  obtain ⟨year, dayOfYear, hdate, hn, -, hle, -⟩ := exists_marchDate n
  have hyear : 0 ≤ year := by
    by_contra hneg
    have hleapDays : year / 4 ≤ year / 100 := by omega
    omega
  rw [hdate, marchDate]
  split_ifs
  · exact hyear
  · exact Int.add_nonneg hyear (by decide)

/-- The date of a day falls on this day. -/
theorem daysOf_dateOf (n : ℤ) : daysOf (dateOf n) = n := by
  obtain ⟨year, dayOfYear, hdate, hn, hnonneg, hle, -⟩ := exists_marchDate n
  rw [hdate, daysOf_marchDate year hnonneg hle, ← hn]

end PageNotes
