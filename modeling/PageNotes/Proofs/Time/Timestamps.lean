import Mathlib.Data.List.TakeWhile
import PageNotes.Proofs.Text.Numerals
import PageNotes.Proofs.Time.Universal
import PageNotes.Yaml.Value

/-!
Timestamps. The text of a moment is read back as the instant, cut to the millisecond, and a later
moment has no smaller text, as long as the year has four digits. The year is written without zeros
before it, so the first thousand years are written in another form and sorted by other rules.

* `Stamps`: a text has the form of timestamps and is read as a moment at some instant;
* `Moment.behindYear`: what stands behind the year, with its form, order and reading
  (`Moment.HasTwoDigits.form_behindYear`, `Moment.IsUniversal.le_behindYear`,
  `Yaml.readTimestamp_behindYear`);
* `Moment.timestamps_sortable`: which timestamps can be read and sorted.
-/

namespace PageNotes

namespace Moment

variable {m u : Moment}

/-! ### The text of a timestamp -/

/-- The text of a timestamp behind the year and its dash. -/
def behindYear (u : Moment) : Text :=
  Text.padded 2 u.date.month ++ '-' :: (Text.padded 2 u.date.day ++ 'T' ::
    (Text.padded 2 u.hour ++ ':' :: (Text.padded 2 u.minute ++ ':' ::
      (Text.padded 2 u.second ++ '.' :: (Text.padded 3 (u.microsecond / 1000) ++ ['Z'])))))

lemma timestamp?_eq_some (h : m.toUniversal? = some u) (hyear : 0 ≤ u.date.year) :
    m.timestamp? = some (Text.ofNat u.date.year.toNat ++ '-' :: u.behindYear) := by
  have hyearText : Text.ofInt u.date.year = Text.ofNat u.date.year.toNat := by
    rw [Text.ofInt, if_neg (not_lt.mpr hyear)]
    exact congrArg Text.ofNat (by omega)
  rw [timestamp?, h, Option.map_some, Date.toText, hyearText, clockText, behindYear]
  simp only [List.append_assoc, List.cons_append]

end Moment

/-! ### The form of timestamps -/

/-- The form of timestamps, with a zero in the place of every digit. -/
def stampForm : Text := "0000-00-00T00:00:00.000Z".toList

/-- A text with a zero in the place of every digit. -/
def Text.form (t : Text) : Text := t.map fun c => if isAsciiDigit c then '0' else c

/-- A text with zeros before it up to the length of timestamps. -/
def zeroFilled (t : Text) : Text := List.replicate (stampForm.length - t.length) '0' ++ t

/-- A text has the form of timestamps, and the moment that is read from it is at an instant. -/
structure Stamps (t : Text) (instant : ℤ) : Prop where
  form : t.form = stampForm
  reading : ∃ r, Yaml.readTimestamp t = .ok (.moment r) ∧ r.instant = instant

namespace Text

lemma form_append (s t : Text) : form (s ++ t) = form s ++ form t := List.map_append

lemma form_cons (c : Char) (t : Text) :
    form (c :: t) = (if isAsciiDigit c then '0' else c) :: form t := rfl

lemma form_digits {t : Text} (h : ∀ c ∈ t, isAsciiDigit c = true) :
    form t = List.replicate t.length '0' := by
  rw [List.eq_replicate_iff]
  refine ⟨List.length_map _, fun c hc => ?_⟩
  obtain ⟨d, hd, rfl⟩ := List.mem_map.mp hc
  exact if_pos (h d hd)

lemma form_padded {width n : ℕ} (hwidth : 0 < width) (h : n < 10 ^ width) :
    form (padded width n) = List.replicate width '0' := by
  rw [form_digits fun _ => isAsciiDigit_of_mem_padded, length_padded hwidth h]

end Text

namespace Moment

variable {m m' u u' : Moment}

/-- A date and a time of day have two digits each. -/
structure HasTwoDigits (u : Moment) : Prop where
  month_lt : u.date.month < 10 ^ 2
  day_lt : u.date.day < 10 ^ 2
  hour_lt : u.hour < 10 ^ 2
  minute_lt : u.minute < 10 ^ 2
  second_lt : u.second < 10 ^ 2
  millisecond_lt : u.microsecond / 1000 < 10 ^ 3

lemma IsUniversal.hasTwoDigits (hu : u.IsUniversal) : u.HasTwoDigits where
  month_lt := by have := hu.date.month_le; omega
  day_lt := by
    have := hu.date.day_le
    have := monthLength_le u.date.year u.date.month
    omega
  hour_lt := by have := hu.hour_lt; omega
  minute_lt := by have := hu.minute_lt; omega
  second_lt := by have := hu.second_lt; omega
  millisecond_lt := by have := hu.microsecond_lt; omega

namespace HasTwoDigits

lemma form_behindYear (h : u.HasTwoDigits) :
    u.behindYear.form = "00-00T00:00:00.000Z".toList := by
  simp only [behindYear, Text.form_append, Text.form_cons, Text.form_padded two_pos h.month_lt,
    Text.form_padded two_pos h.day_lt, Text.form_padded two_pos h.hour_lt,
    Text.form_padded two_pos h.minute_lt, Text.form_padded two_pos h.second_lt,
    Text.form_padded three_pos h.millisecond_lt]
  rfl

/-- Behind the year, timestamps are ordered by their numbers from the month on. -/
lemma le_behindYear (h : u.HasTwoDigits) (h' : u'.HasTwoDigits) :
    Text.le u.behindYear u'.behindYear = true ↔
      u.date.month < u'.date.month ∨ u.date.month = u'.date.month ∧
      (u.date.day < u'.date.day ∨ u.date.day = u'.date.day ∧
      (u.hour < u'.hour ∨ u.hour = u'.hour ∧
      (u.minute < u'.minute ∨ u.minute = u'.minute ∧
      (u.second < u'.second ∨ u.second = u'.second ∧
        u.microsecond / 1000 ≤ u'.microsecond / 1000)))) := by
  rw [behindYear, behindYear, Text.le_padded_append two_pos h.month_lt h'.month_lt,
    Text.le_cons, Text.le_padded_append two_pos h.day_lt h'.day_lt,
    Text.le_cons, Text.le_padded_append two_pos h.hour_lt h'.hour_lt,
    Text.le_cons, Text.le_padded_append two_pos h.minute_lt h'.minute_lt,
    Text.le_cons, Text.le_padded_append two_pos h.second_lt h'.second_lt,
    Text.le_cons, Text.le_padded_append three_pos h.millisecond_lt h'.millisecond_lt,
    Text.le_self]
  simp only [and_true, ← Nat.le_iff_lt_or_eq]

end HasTwoDigits

/-! ### Reading -/

/-- The moment as a timestamp shows it, with the microseconds beyond its millisecond cut. -/
def cut (u : Moment) : Moment := { u with microsecond := u.microsecond / 1000 * 1000 }

lemma IsUniversal.cut_instant (hu : u.IsUniversal) :
    u.cut.instant = u.instant / 1000 * 1000 := by
  have hinstant := hu.instant_eq
  have hcut : u.cut.instant = u.instant - u.microsecond + (u.microsecond / 1000 * 1000 : ℕ) := by
    simp only [instant, cut]
    omega
  omega

end Moment

namespace Yaml

variable {least width n : ℕ} {u : Moment}

lemma takeNumber?_padded (hleast : least ≤ width) (hwidth : 0 < width) (h : n < 10 ^ width)
    (rest : Text) : takeNumber? least width (Text.padded width n ++ rest) = some (n, rest) := by
  have hlength := Text.length_padded hwidth h
  have htake : (Text.padded width n ++ rest).take width = Text.padded width n :=
    List.take_left' hlength
  have hdigits : (Text.padded width n).takeWhile isAsciiDigit = Text.padded width n :=
    List.takeWhile_eq_self_iff.mpr fun _ => Text.isAsciiDigit_of_mem_padded
  rw [takeNumber?, htake, hdigits, hlength, if_neg (by omega), List.drop_left' hlength]
  exact congrArg (fun k => some (k, rest)) (Text.number_padded width n)

lemma takeNumberBehind?_padded (sign : Char) (hleast : least ≤ width) (hwidth : 0 < width)
    (h : n < 10 ^ width) (rest : Text) :
    takeNumberBehind? sign least width (sign :: (Text.padded width n ++ rest))
      = some (n, rest) := by
  rw [takeNumberBehind?, if_pos rfl, takeNumber?_padded hleast hwidth h]

/-- Three digits behind the point are milliseconds. -/
lemma microseconds_padded (h : n < 10 ^ 3) : microseconds (Text.padded 3 n) = n * 1000 := by
  have hdigits : (Text.padded 3 n ++ List.replicate 6 '0').take 6
      = Text.padded 3 n ++ ['0'] ++ ['0'] ++ ['0'] := by
    rw [List.take_append, Text.length_padded three_pos h, List.take_of_length_le]
    · simp [List.replicate]
    · rw [Text.length_padded three_pos h]; omega
  have hnumber := Text.number_padded 3 n
  rw [microseconds, hdigits]
  show Text.number (Text.padded 3 n ++ ['0'] ++ ['0'] ++ ['0']) = n * 1000
  rw [Text.number_concat, Text.number_concat, Text.number_concat, hnumber]
  simp
  omega

/-- A time of day to the millisecond in universal time is read. -/
lemma readClock?_padded {hour minute second : ℕ} (hhour : hour < 10 ^ 2)
    (hminute : minute < 10 ^ 2) (hsecond : second < 10 ^ 2) (millisecond : ℕ) :
    readClock? (Text.padded 2 hour ++ ':' :: (Text.padded 2 minute ++ ':' ::
      (Text.padded 2 second ++ '.' :: (Text.padded 3 millisecond ++ ['Z']))))
      = some ⟨hour, minute, second, Text.padded 3 millisecond, some (false, 0, 0)⟩ := by
  have hfraction : (Text.padded 3 millisecond ++ ['Z']).takeWhile isAsciiDigit
      = Text.padded 3 millisecond := by
    rw [List.takeWhile_append_of_pos fun _ => Text.isAsciiDigit_of_mem_padded]
    simp [isAsciiDigit]
  rw [readClock?, takeNumber?_padded one_le_two two_pos hhour]
  dsimp only
  rw [takeNumberBehind?_padded ':' le_rfl two_pos hminute]
  dsimp only
  rw [takeNumberBehind?_padded ':' le_rfl two_pos hsecond]
  dsimp only
  rw [List.head?_cons, if_pos rfl, if_pos rfl, List.drop_succ_cons, List.drop_zero, hfraction,
    List.drop_succ_cons, List.drop_left]
  rfl

lemma readTimestamp?_behindYear {year : ℕ} (hyear : year < 10 ^ 4) (h : u.HasTwoDigits) :
    readTimestamp? (Text.padded 4 year ++ '-' :: u.behindYear)
      = some ⟨year, u.date.month, u.date.day, some ⟨u.hour, u.minute, u.second,
        Text.padded 3 (u.microsecond / 1000), some (false, 0, 0)⟩⟩ := by
  rw [Moment.behindYear, readTimestamp?, takeNumber?_padded le_rfl four_pos hyear]
  dsimp only
  rw [takeNumberBehind?_padded '-' one_le_two two_pos h.month_lt]
  dsimp only
  rw [takeNumberBehind?_padded '-' one_le_two two_pos h.day_lt]
  dsimp only
  rw [if_pos (by decide), readClock?_padded h.hour_lt h.minute_lt h.second_lt _]
  rfl

/-- The date with the parts of a date. -/
lemma dateOfParts_date {d : Date} (hd : d.IsValid) (hpos : 0 < d.year) (clock : Option ClockParts) :
    dateOfParts ⟨d.year.toNat, d.month, d.day, clock⟩ = .ok d := by
  have hyear : ((d.year.toNat : ℕ) : ℤ) = d.year := Int.toNat_of_nonneg hpos.le
  have hmonth := hd.one_le_month
  have hmonthLe := hd.month_le
  have hday := hd.one_le_day
  have hdayLe := hd.day_le
  have hmonths : ¬(decide (d.month = 0) || decide (12 < d.month)) = true := by
    simp only [Bool.or_eq_true, decide_eq_true_eq]
    omega
  have hdays : ¬(decide (d.day = 0) || decide (monthLength d.year d.month < d.day)) = true := by
    simp only [Bool.or_eq_true, decide_eq_true_eq]
    omega
  rw [dateOfParts, if_neg (show d.year.toNat ≠ 0 by omega), if_neg hmonths]
  dsimp only
  rw [hyear, if_neg hdays]

/-- A timestamp with a year of four digits is read as the moment that it shows. -/
theorem readTimestamp_behindYear (hu : u.IsUniversal) (hpos : 0 < u.date.year)
    (hlt : u.date.year < 10 ^ 4) :
    readTimestamp (Text.padded 4 u.date.year.toNat ++ '-' :: u.behindYear)
      = .ok (.moment u.cut) := by
  have hhour := hu.hour_lt
  have hminute := hu.minute_lt
  have hsecond := hu.second_lt
  have hfraction := microseconds_padded hu.hasTwoDigits.millisecond_lt
  rw [readTimestamp, readTimestamp?_behindYear (by omega) hu.hasTwoDigits]
  dsimp only
  rw [momentOfParts, dateOfParts_date hu.date hpos]
  show (if 23 < u.hour then .error .noHour else if 59 < u.minute then .error .noMinute
    else if 59 < u.second then .error .noSecond else .ok _ : Except Fault Moment).map Value.moment
      = _
  rw [if_neg (by omega), if_neg (by omega), if_neg (by omega), hfraction, Moment.cut, hu.offset]
  rfl

end Yaml

/-! ### Timestamps of moments -/

namespace Moment

variable {m m' u u' : Moment}

lemma length_behindYear (h : u.HasTwoDigits) : u.behindYear.length = 19 := by
  have hform := congrArg List.length h.form_behindYear
  rwa [Text.form, List.length_map] at hform

/-- Behind a year of four digits, a timestamp stamps its moment, cut to the millisecond. -/
lemma IsUniversal.stamps (hu : u.IsUniversal) (hpos : 0 < u.date.year)
    (hlt : u.date.year < 10 ^ 4) :
    Stamps (Text.padded 4 u.date.year.toNat ++ '-' :: u.behindYear) (u.instant / 1000 * 1000) where
  form := by
    rw [Text.form_append, Text.form_padded four_pos (by omega), Text.form_cons,
      hu.hasTwoDigits.form_behindYear]
    rfl
  reading := ⟨u.cut, Yaml.readTimestamp_behindYear hu hpos hlt, hu.cut_instant⟩

lemma padded_of_le {n : ℕ} (h : 10 ^ 3 ≤ n) : Text.padded 4 n = Text.ofNat n := by
  have hlength := mt (Text.length_ofNat_le_iff (n := n) three_pos).mp (by omega)
  rw [Text.padded, Nat.sub_eq_zero_of_le (by omega), List.replicate_zero, List.nil_append]

lemma zeroFilled_behindYear (h : u.HasTwoDigits) {n : ℕ} :
    zeroFilled (Text.ofNat n ++ '-' :: u.behindYear) = Text.padded 4 n ++ '-' :: u.behindYear := by
  have hfill : stampForm.length - (Text.ofNat n ++ '-' :: u.behindYear).length
      = 4 - (Text.ofNat n).length := by
    rw [List.length_append, List.length_cons, length_behindYear h]
    show 24 - _ = _
    omega
  rw [zeroFilled, hfill, Text.padded, List.append_assoc]

/-- A text that has the form of timestamps has a year of four digits. -/
lemma le_of_form (h : u.HasTwoDigits) {n : ℕ}
    (hform : (Text.ofNat n ++ '-' :: u.behindYear).form = stampForm) : 10 ^ 3 ≤ n := by
  have hlength := congrArg List.length hform
  rw [Text.form, List.length_map, List.length_append, List.length_cons,
    length_behindYear h] at hlength
  have hdigits : (Text.ofNat n).length = 4 := Nat.add_right_cancel hlength
  by_contra hlt
  have hle := (Text.length_ofNat_le_iff three_pos).mpr (not_le.mp hlt)
  omega

/-- Of two moments in one year, the later one has the greater text behind the year. -/
lemma IsUniversal.le_behindYear (hu : u.IsUniversal) (hu' : u'.IsUniversal)
    (hyear : u.date.year = u'.date.year) (h : u.instant ≤ u'.instant) :
    Text.le u.behindYear u'.behindYear = true := by
  have hinstant := hu.instant_eq
  have hinstant' := hu'.instant_eq
  have htwo := hu.hasTwoDigits
  have htwo' := hu'.hasTwoDigits
  have hminute := hu.minute_lt
  have hminute' := hu'.minute_lt
  have hsecond := hu.second_lt
  have hsecond' := hu'.second_lt
  have hhour := hu.hour_lt
  have hhour' := hu'.hour_lt
  have hmicrosecond := hu.microsecond_lt
  have hmicrosecond' := hu'.microsecond_lt
  have hnot : ¬u'.date.Before u.date := fun hbefore => by
    have hday := hbefore.dayNumber_lt hu'.date hu.date hu'.year_nonneg
    omega
  rw [htwo.le_behindYear htwo']
  rw [Date.Before] at hnot
  by_cases hsame : u.date.month = u'.date.month ∧ u.date.day = u'.date.day
  · have hday : u.date.dayNumber = u'.date.dayNumber := by
      rw [Date.dayNumber, Date.dayNumber, hyear, hsame.1, hsame.2]
    omega
  · omega

/-- The year of a later moment is not the smaller one. -/
lemma IsUniversal.year_le (hu : u.IsUniversal) (hu' : u'.IsUniversal)
    (h : u.instant ≤ u'.instant) : u.date.year ≤ u'.date.year :=
  (hu'.startOf_le_iff _).mp (((hu.startOf_le_iff _).mpr le_rfl).trans h)

/-- The text of the year in a timestamp. -/
def yearText (t : Text) : Text := t.takeWhile isAsciiDigit

lemma yearText_ofNat (n : ℕ) (t : Text) : yearText (Text.ofNat n ++ '-' :: t) = Text.ofNat n := by
  rw [yearText, List.takeWhile_append_of_pos fun _ => Text.isAsciiDigit_of_mem_ofNat]
  simp [isAsciiDigit]

/-- A later moment has the greater timestamp when its year has the greater text. -/
lemma IsUniversal.le_iff (hu : u.IsUniversal) (hu' : u'.IsUniversal)
    (h : u.instant ≤ u'.instant) :
    Text.le (Text.ofNat u.date.year.toNat ++ '-' :: u.behindYear)
      (Text.ofNat u'.date.year.toNat ++ '-' :: u'.behindYear) = true ↔
      Text.le (Text.ofNat u.date.year.toNat) (Text.ofNat u'.date.year.toNat) = true := by
  by_cases hyear : u.date.year = u'.date.year
  · rw [hyear, Text.le_append_append rfl, if_pos rfl, Text.le_cons, hu.le_behindYear hu' hyear h,
      Text.le_self]
  · have hne : Text.ofNat u.date.year.toNat ≠ Text.ofNat u'.date.year.toNat := fun heq => by
      have hnumber := congrArg Text.number heq
      rw [Text.number_ofNat, Text.number_ofNat] at hnumber
      have hnonneg := hu.year_nonneg
      have hnonneg' := hu'.year_nonneg
      omega
    rw [Text.le_digits_append (fun _ => Text.isAsciiDigit_of_mem_ofNat)
      (fun _ => Text.isAsciiDigit_of_mem_ofNat) hne (by decide)]

/-- With years of four digits, a later moment has the greater timestamp. -/
lemma IsUniversal.le_padded (hu : u.IsUniversal) (hu' : u'.IsUniversal)
    (hlt : u.date.year < 10 ^ 4) (hlt' : u'.date.year < 10 ^ 4) (h : u.instant ≤ u'.instant) :
    Text.le (Text.padded 4 u.date.year.toNat ++ '-' :: u.behindYear)
      (Text.padded 4 u'.date.year.toNat ++ '-' :: u'.behindYear) = true := by
  have hnonneg := hu.year_nonneg
  have hyear := hu.year_le hu' h
  rw [Text.le_padded_append four_pos (by omega) (by omega), Text.le_cons]
  rcases hyear.lt_or_eq with hless | heq
  · exact Or.inl (by omega)
  · exact Or.inr ⟨by rw [heq], hu.le_behindYear hu' heq h⟩

/-- The timestamp of a moment, with zeros before it where its year has less than four digits, has
the form of timestamps, is read back as the instant of the moment rounded down to the millisecond,
and is not greater than that of a later moment. The timestamp itself has the form and is read back
just when the moment lies in the year 1000 or later, and from there on it is sorted so too; of any
two moments the later one has the greater timestamp just when its year has the greater text. -/
theorem timestamps_sortable (hm : m.IsDated) (hm' : m'.IsDated) :
    ∃ t t', m.timestamp? = some t ∧ m'.timestamp? = some t' ∧
      (Stamps t (m.instant / 1000 * 1000) ↔ (startOf 1000).instant ≤ m.instant) ∧
      Stamps (zeroFilled t) (m.instant / 1000 * 1000) ∧
      (m.instant ≤ m'.instant →
        ((startOf 1000).instant ≤ m.instant → Text.le t t' = true) ∧
        Text.le (zeroFilled t) (zeroFilled t') = true ∧
        (Text.le t t' = true ↔ Text.le (yearText t) (yearText t') = true)) := by
  obtain ⟨u, huniversal, hu, hinstant, hfirst, hlast⟩ := hm.toUniversal?
  obtain ⟨u', huniversal', hu', hinstant', hfirst', hlast'⟩ := hm'.toUniversal?
  have hpos : 0 < u.date.year := hfirst
  have hlt : u.date.year < 10 ^ 4 := Int.lt_of_le_of_lt hlast (by decide)
  have hlt' : u'.date.year < 10 ^ 4 := Int.lt_of_le_of_lt hlast' (by decide)
  have hstamps := hu.stamps hpos hlt
  refine ⟨_, _, timestamp?_eq_some huniversal hu.year_nonneg,
    timestamp?_eq_some huniversal' hu'.year_nonneg, ?_⟩
  rw [← hinstant, ← hinstant', hu.startOf_le_iff, zeroFilled_behindYear hu.hasTwoDigits,
    zeroFilled_behindYear hu'.hasTwoDigits, yearText_ofNat, yearText_ofNat]
  refine ⟨⟨fun h => ?_, fun h => ?_⟩, hstamps, fun h => ⟨fun hthousand => ?_, ?_, ?_⟩⟩
  · have hyear := le_of_form hu.hasTwoDigits h.form
    omega
  · rwa [padded_of_le (by omega)] at hstamps
  · have hyear := hu.year_le hu' h
    have hle := hu.le_padded hu' hlt hlt' h
    rwa [padded_of_le (by omega), padded_of_le (by omega)] at hle
  · exact hu.le_padded hu' hlt hlt' h
  · exact hu.le_iff hu' h

/-- The end of the year 999, on a clock without offset. -/
def endOf999 : Moment := ⟨⟨999, 12, 31⟩, 23, 59, 59, 999999, none⟩

/-- The evening of a leap day, on a clock that is behind by an hour and a part of a second. -/
def leapEvening : Moment := ⟨⟨2024, 2, 29⟩, 23, 30, 0, 500499, some ⟨-3600000123⟩⟩

theorem timestamps_sortable_leapEvening :
    (endOf999.IsDated ∧ leapEvening.IsDated ∧ endOf999.instant ≤ leapEvening.instant ∧
      (startOf 1000).instant ≤ leapEvening.instant) ∧
    (endOf999.timestamp? = some "999-12-31T23:59:59.999Z".toList ∧
      ¬Stamps "999-12-31T23:59:59.999Z".toList (endOf999.instant / 1000 * 1000) ∧
      Stamps "0999-12-31T23:59:59.999Z".toList (endOf999.instant / 1000 * 1000)) ∧
    (leapEvening.timestamp? = some "2024-03-01T00:30:00.500Z".toList ∧
      Stamps "2024-03-01T00:30:00.500Z".toList (leapEvening.instant / 1000 * 1000)) ∧
    Text.le "0999-12-31T23:59:59.999Z".toList "2024-03-01T00:30:00.500Z".toList = true ∧
    Text.le "999-12-31T23:59:59.999Z".toList "2024-03-01T00:30:00.500Z".toList = false := by
  have hdate : endOf999.date.IsValid := ⟨by decide, by decide, by decide, by decide⟩
  have hdate' : leapEvening.date.IsValid := ⟨by decide, by decide, by decide, by decide⟩
  have hstart (year : ℤ) : (startOf year).date.IsValid := Date.isValid_yearStart year
  have hend : endOf999.IsDated := ⟨hdate, by decide,
    (instant_le_iff (hstart _) (by decide) hdate (by decide)).mpr (by decide),
    not_le.mp (mt (instant_le_iff (hstart _) (by decide) hdate (by decide)).mp (by decide))⟩
  have hleap : leapEvening.IsDated := ⟨hdate', by decide,
    (instant_le_iff (hstart _) (by decide) hdate' (by decide)).mpr (by decide),
    not_le.mp (mt (instant_le_iff (hstart _) (by decide) hdate' (by decide)).mp (by decide))⟩
  have hle : endOf999.instant ≤ leapEvening.instant :=
    (instant_le_iff hdate (by decide) hdate' (by decide)).mpr (by decide)
  have hbefore : ¬(startOf 1000).instant ≤ endOf999.instant :=
    mt (instant_le_iff (hstart _) (by decide) hdate (by decide)).mp (by decide)
  have hbehind : (startOf 1000).instant ≤ leapEvening.instant :=
    (instant_le_iff (hstart _) (by decide) hdate' (by decide)).mpr (by decide)
  have htext : endOf999.timestamp? = some "999-12-31T23:59:59.999Z".toList := by decide
  have htext' : leapEvening.timestamp? = some "2024-03-01T00:30:00.500Z".toList := by decide
  obtain ⟨t, t', ht, ht', hstamps, hfilled, horder⟩ := timestamps_sortable hend hleap
  obtain ⟨s, -, hs, -, hstamps', -⟩ := timestamps_sortable hleap hend
  obtain ⟨-, hsorted, hyears⟩ := horder hle
  obtain rfl := Option.some.inj (ht.symm.trans htext)
  obtain rfl := Option.some.inj (ht'.symm.trans htext')
  obtain rfl := Option.some.inj (hs.symm.trans htext')
  refine ⟨⟨hend, hleap, hle, hbehind⟩, ⟨htext, mt hstamps.mp hbefore, hfilled⟩,
    ⟨htext', hstamps'.mpr hbehind⟩, hsorted, ?_⟩
  rw [Bool.eq_false_iff, ne_eq, hyears]
  decide

end Moment

end PageNotes
