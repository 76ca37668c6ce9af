import PageNotes.Proofs.Numeric.Exact
import PageNotes.Proofs.Path.Names
import PageNotes.Proofs.Text.Numerals
import PageNotes.Time.Duration

/-!
Lengths of time as a reader takes them in. The text of a length of time is read back, and what is
read is compared with the exact number of seconds.

* `readDuration?`: hours, minutes and seconds from a text;
* `ShownDuration.IsCanonical`: seconds and minutes are carried into the next unit;
* `exists_shown_long`, `exists_shown_short`: both forms of the text are read back;
* `Displays`: what the text of a length of time displays;
* `Seconds.displays_of_nonneg`: every length of time is displayed, but for hours too long.
-/

namespace PageNotes

/-! ### What is displayed -/

/-- A length of time as it is displayed: hours and minutes if they are shown, and seconds. -/
structure ShownDuration where
  hours : Option ℚ
  minutes : Option ℚ
  seconds : ℚ

namespace ShownDuration

/-- The whole length in seconds. -/
def total (d : ShownDuration) : ℚ := 3600 * d.hours.getD 0 + 60 * d.minutes.getD 0 + d.seconds

/-- Seconds and minutes are less than the next unit, and a unit is shown just when the whole length
reaches one of it. -/
structure IsCanonical (d : ShownDuration) : Prop where
  seconds_lt : d.seconds < 60
  minutes_lt : ∀ m ∈ d.minutes, m < 60
  minutes_iff : d.minutes.isSome = true ↔ 60 ≤ d.total
  hours_iff : d.hours.isSome = true ↔ 3600 ≤ d.total

lemma total_seconds (s : ℚ) : (⟨none, none, s⟩ : ShownDuration).total = s := by simp [total]

/-- Seconds alone are canonical below a minute. -/
lemma isCanonical_seconds_iff {s : ℚ} : (⟨none, none, s⟩ : ShownDuration).IsCanonical ↔ s < 60 := by
  constructor
  · exact IsCanonical.seconds_lt
  · intro h
    refine ⟨h, fun m hm => (Option.not_mem_none m hm).elim, ?_, ?_⟩
    · rw [total_seconds]
      exact iff_of_false (by simp) (not_le.mpr h)
    · rw [total_seconds]
      exact iff_of_false (by simp) (by linarith)

end ShownDuration

/-! ### Reading -/

namespace Text

/-- The number that a word of digits denotes. -/
def whole? (t : Text) : Option ℚ :=
  if t ≠ [] ∧ t.all isAsciiDigit = true then some (number t) else none

/-- The number that digits denote, with a point among them or without. -/
def decimal? (t : Text) : Option ℚ :=
  match cut '.' t with
  | (whole, none) => whole? whole
  | (whole, some fraction) => (whole? whole).bind fun w =>
      (whole? fraction).map fun f => w + f / 10 ^ fraction.length

/-- A number with a minus sign before it or without. -/
def signedDecimal? : Text → Option ℚ
  | '-' :: t => (decimal? t).map fun n => -n
  | t => decimal? t

/-- The number before the letter of a unit. -/
def amount? (unit : Char) (t : Text) : Option ℚ :=
  if t.getLast? = some unit then signedDecimal? t.dropLast else none

end Text

/-- A length of time from its text: seconds, minutes and seconds, or hours, minutes and seconds. -/
def readDuration? (t : Text) : Option ShownDuration :=
  match Text.split ' ' t with
  | [s] => (Text.amount? 's' s).map fun s => ⟨none, none, s⟩
  | [m, s] => (Text.amount? 'm' m).bind fun m => (Text.amount? 's' s).map fun s => ⟨none, some m, s⟩
  | [h, m, s] => (Text.amount? 'h' h).bind fun h => (Text.amount? 'm' m).bind fun m =>
      (Text.amount? 's' s).map fun s => ⟨some h, some m, s⟩
  | _ => none

namespace Text

lemma whole?_ofNat (n : ℕ) : whole? (Text.ofNat n) = some (n : ℚ) := by
  have hdigits : (Text.ofNat n).all isAsciiDigit = true :=
    List.all_eq_true.mpr fun _ => isAsciiDigit_of_mem_ofNat
  rw [whole?, if_pos ⟨ofNat_ne_nil n, hdigits⟩, number_ofNat]

lemma decimal?_ofNat (n : ℕ) : decimal? (Text.ofNat n) = some (n : ℚ) := by
  rw [decimal?, cut_of_notMem (notMem_ofNat (by decide))]
  exact whole?_ofNat n

lemma decimal?_tenths (a : ℕ) {b : ℕ} (hb : b < 10) :
    decimal? (Text.ofNat a ++ '.' :: Text.ofNat b) = some (a + b / 10 : ℚ) := by
  rw [decimal?, cut_append_cons (notMem_ofNat (by decide))]
  show ((whole? (Text.ofNat a)).bind fun w => (whole? (Text.ofNat b)).map fun f =>
    w + f / 10 ^ (Text.ofNat b).length) = some (a + b / 10 : ℚ)
  rw [whole?_ofNat, whole?_ofNat, ofNat_of_lt hb]
  simp

/-- A number that begins with a digit has no sign. -/
lemma signedDecimal?_ofNat_append (n : ℕ) (t : Text) :
    signedDecimal? (Text.ofNat n ++ t) = decimal? (Text.ofNat n ++ t) := by
  obtain ⟨c, digits, hcons, hdigit⟩ := ofNat_eq_cons n
  have hc : c ≠ '-' := by
    rintro rfl
    exact absurd hdigit (by decide)
  rw [hcons, List.cons_append, signedDecimal?]
  rintro u h
  exact hc (List.cons.inj h).1

lemma amount?_concat (unit : Char) (t : Text) : amount? unit (t ++ [unit]) = signedDecimal? t := by
  rw [amount?, if_pos List.getLast?_concat, List.dropLast_concat]

lemma amount?_ofNat (unit : Char) (n : ℕ) :
    amount? unit (Text.ofNat n ++ [unit]) = some (n : ℚ) := by
  rw [amount?_concat, ← List.append_nil (Text.ofNat n), signedDecimal?_ofNat_append,
    List.append_nil, decimal?_ofNat]

end Text

/-! ### From a minute on -/

lemma split_amount {unit : Char} (hunit : ' ' ≠ unit) (n : ℕ) :
    Text.split ' ' (Text.ofNat n ++ [unit]) = [Text.ofNat n ++ [unit]] := by
  refine Text.split_of_notMem ?_
  rw [List.mem_append, List.mem_singleton, not_or]
  exact ⟨Text.notMem_ofNat (by decide), hunit⟩

lemma split_amount_append {unit : Char} (hunit : ' ' ≠ unit) (n : ℕ) (t : Text) :
    Text.split ' ' (Text.ofNat n ++ unit :: ' ' :: t)
      = (Text.ofNat n ++ [unit]) :: Text.split ' ' t := by
  rw [List.append_cons, Text.split_append_cons, split_amount hunit, List.singleton_append]

/-- Whole seconds below an hour are read back as minutes and seconds. -/
lemma readDuration?_minutes {n : ℕ} (h : n < 3600) :
    readDuration? (longDuration n) = some ⟨none, some (n / 60 : ℕ), (n % 60 : ℕ)⟩ := by
  have htext : longDuration n
      = Text.ofNat (n / 60) ++ 'm' :: ' ' :: (Text.ofNat (n % 60) ++ ['s']) :=
    if_pos (show n / 60 / 60 = 0 by omega)
  rw [readDuration?, htext, split_amount_append (by decide), split_amount (by decide)]
  dsimp only
  rw [Text.amount?_ofNat, Text.amount?_ofNat]
  rfl

/-- Whole seconds from an hour on are read back as hours, minutes and seconds. -/
lemma readDuration?_hours {n : ℕ} (h : 3600 ≤ n) : readDuration? (longDuration n)
    = some ⟨some (n / 60 / 60 : ℕ), some (n / 60 % 60 : ℕ), (n % 60 : ℕ)⟩ := by
  have htext : longDuration n = Text.ofNat (n / 60 / 60) ++ 'h' :: ' ' ::
      (Text.ofNat (n / 60 % 60) ++ 'm' :: ' ' :: (Text.ofNat (n % 60) ++ ['s'])) :=
    if_neg (show ¬n / 60 / 60 = 0 by omega)
  rw [readDuration?, htext, split_amount_append (by decide), split_amount_append (by decide),
    split_amount (by decide)]
  dsimp only
  rw [Text.amount?_ofNat, Text.amount?_ofNat, Text.amount?_ofNat]
  rfl

/-- From a minute on, whole seconds are displayed in canonical units and without loss. -/
theorem exists_shown_long {n : ℕ} (h : 60 ≤ n) : ∃ shown : ShownDuration,
    readDuration? (longDuration n) = some shown ∧ shown.IsCanonical ∧ shown.total = n := by
  have hseconds : ((n % 60 : ℕ) : ℚ) < 60 := by exact_mod_cast Nat.mod_lt n (by omega)
  have hminute : (60 : ℚ) ≤ n := by exact_mod_cast h
  by_cases hhours : n < 3600
  · have htotal : (⟨none, some (n / 60 : ℕ), (n % 60 : ℕ)⟩ : ShownDuration).total = n := by
      show (3600 * 0 + 60 * (n / 60 : ℕ) + (n % 60 : ℕ) : ℚ) = n
      exact_mod_cast (by omega : 3600 * 0 + 60 * (n / 60) + n % 60 = n)
    refine ⟨_, readDuration?_minutes hhours, ⟨hseconds, ?_, ?_, ?_⟩, htotal⟩
    · rintro m ⟨rfl⟩
      exact_mod_cast (by omega : n / 60 < 60)
    · rw [htotal]
      exact iff_of_true rfl hminute
    · rw [htotal]
      exact iff_of_false (by simp) (not_le.mpr (by exact_mod_cast hhours))
  · have htotal : (⟨some (n / 60 / 60 : ℕ), some (n / 60 % 60 : ℕ), (n % 60 : ℕ)⟩
        : ShownDuration).total = n := by
      show (3600 * (n / 60 / 60 : ℕ) + 60 * (n / 60 % 60 : ℕ) + (n % 60 : ℕ) : ℚ) = n
      exact_mod_cast (by omega : 3600 * (n / 60 / 60) + 60 * (n / 60 % 60) + n % 60 = n)
    refine ⟨_, readDuration?_hours (not_lt.mp hhours), ⟨hseconds, ?_, ?_, ?_⟩, htotal⟩
    · rintro m ⟨rfl⟩
      exact_mod_cast Nat.mod_lt (n / 60) (by omega)
    · rw [htotal]
      exact iff_of_true rfl hminute
    · rw [htotal]
      exact iff_of_true rfl (by exact_mod_cast not_lt.mp hhours)

/-! ### Below a minute -/

/-- Tenths of a second are read back. -/
lemma readDuration?_tenths (t : ℕ) (sign : Text) (hsign : sign = [] ∨ sign = ['-'] ∧ t = 0) :
    readDuration? (sign ++ (Text.ofNat (t / 10) ++ '.' :: Text.ofNat (t % 10)) ++ ['s'])
      = some ⟨none, none, t / 10⟩ := by
  have hdecimal := Text.decimal?_tenths (t / 10) (Nat.mod_lt t (show 0 < 10 by omega))
  have hvalue : ((t / 10 : ℕ) + (t % 10 : ℕ) / 10 : ℚ) = t / 10 := by
    have hdiv : ((10 * (t / 10) + t % 10 : ℕ) : ℚ) = t := by rw [Nat.div_add_mod]
    push_cast at hdiv
    linarith
  have hspace : ' ' ∉ sign ++ (Text.ofNat (t / 10) ++ '.' :: Text.ofNat (t % 10)) ++ ['s'] := by
    have hdigits (n : ℕ) : ' ' ∉ Text.ofNat n := Text.notMem_ofNat (by decide)
    have hsign' : ' ' ∉ sign := by rcases hsign with rfl | ⟨rfl, -⟩ <;> decide
    simp [hdigits, hsign']
  rw [readDuration?, Text.split_of_notMem hspace]
  dsimp only
  rw [Text.amount?_concat]
  rcases hsign with rfl | ⟨rfl, rfl⟩
  · rw [List.nil_append, Text.signedDecimal?_ofNat_append, hdecimal, hvalue]
    rfl
  · show ((Text.decimal? (Text.ofNat (0 / 10) ++ '.' :: Text.ofNat (0 % 10))).map fun n => -n).map _
      = _
    rw [hdecimal, hvalue]
    simp

/-- Below a minute, seconds are displayed to the nearest tenth, and a tie goes to the minute. -/
theorem exists_shown_short {x : Binary64} {v : ℚ} (hx : x.value? = some v) (hnonneg : 0 ≤ v) :
    ∃ tenths : ℕ, readDuration? (shortDuration x) = some ⟨none, none, tenths / 10⟩ ∧
      |(tenths / 10 : ℚ) - v| ≤ 1 / 20 ∧ (600 ≤ tenths ↔ 1199 / 20 ≤ v) := by
  obtain ⟨negative, m, e, rfl, hzero, rfl⟩ := Binary64.exists_of_nonneg hx hnonneg
  set n := (Binary64.ratio m e).1 with hn
  set d := (Binary64.ratio m e).2 with hd
  have hden : 0 < d := Binary64.ratio_pos m e
  have hscale : ((10 * n : ℕ) : ℚ) / d = 10 * (n / d) := by
    push_cast
    ring
  refine ⟨roundHalfEven (10 * n) d, ?_, ?_, ?_⟩
  · have htext : shortDuration (.finite negative m e) = (if negative then ['-'] else []) ++
        (Text.ofNat (roundHalfEven (10 * n) d / 10) ++
          '.' :: Text.ofNat (roundHalfEven (10 * n) d % 10)) ++ ['s'] := by
      cases negative <;> rfl
    rw [htext]
    refine readDuration?_tenths _ _ ?_
    cases negative with
    | false => exact .inl rfl
    | true =>
        have hn_zero : n = 0 := by rw [hn, hzero rfl, Binary64.ratio_zero]
        exact .inr ⟨rfl, by rw [hn_zero, roundHalfEven_zero hden]⟩
  · have hnear := abs_le.mp (abs_roundHalfEven_sub_le (10 * n) hden)
    rw [hscale] at hnear
    rw [abs_le]
    constructor <;> linarith
  · rw [le_roundHalfEven_iff (10 * n) hden (show 600 % 2 = 0 by decide), hscale]
    constructor
    · intro h
      push_cast at h
      linarith
    · intro h
      push_cast
      linarith

/-! ### Every length of time -/

/-- The last twentieth of a second before a minute, which is rounded up to it. -/
def BeforeMinute (v : ℚ) : Prop := 1199 / 20 ≤ v ∧ v < 60

/-- A text from which whole seconds are read from a minute on, and below it a number of seconds that
is less than a second off, in canonical units unless it was rounded up to the minute. -/
def Displays (t : Text) (v : ℚ) : Prop :=
  ∃ shown, readDuration? t = some shown ∧ |shown.total - v| < 1 ∧ (60 ≤ v → shown.total = ⌊v⌋) ∧
    (shown.IsCanonical ↔ ¬BeforeMinute v) ∧ (BeforeMinute v → shown = ⟨none, none, 60⟩)

lemma shortDuration_displays {x : Binary64} {v : ℚ} (hx : x.value? = some v) (hnonneg : 0 ≤ v)
    (hlt : v < 60) : Displays (shortDuration x) v := by
  obtain ⟨tenths, hread, hnear, hreach⟩ := exists_shown_short hx hnonneg
  have hcanonical : (tenths / 10 : ℚ) < 60 ↔ ¬BeforeMinute v := by
    rw [BeforeMinute, and_iff_left hlt, ← hreach, not_le, div_lt_iff₀ (by norm_num),
      show (60 * 10 : ℚ) = (600 : ℕ) by norm_num, Nat.cast_lt]
  refine ⟨_, hread, ?_, ?_, ?_, ?_⟩
  · rw [ShownDuration.total_seconds]
    linarith
  · intro hminute
    linarith
  · exact ShownDuration.isCanonical_seconds_iff.trans hcanonical
  · intro hbefore
    have hle : 600 ≤ tenths := hreach.mpr hbefore.1
    have hge : (tenths : ℚ) < 601 := by linarith [(abs_le.mp hnear).2]
    have htenths : tenths = 600 := by
      have hge' : tenths < 601 := by exact_mod_cast hge
      omega
    rw [htenths]
    norm_num

lemma longDuration_displays {v : ℚ} (h : 60 ≤ v) : Displays (longDuration ⌊v⌋.toNat) v := by
  have hfloor : 60 ≤ ⌊v⌋ := Int.le_floor.mpr (by exact_mod_cast h)
  have hcast : ((⌊v⌋.toNat : ℕ) : ℚ) = ⌊v⌋ := by
    exact_mod_cast congrArg (Int.cast (R := ℚ)) (Int.toNat_of_nonneg (show 0 ≤ ⌊v⌋ by omega))
  obtain ⟨shown, hread, hcanonical, htotal⟩ := exists_shown_long (n := ⌊v⌋.toNat) (by omega)
  rw [hcast] at htotal
  have hbefore : ¬BeforeMinute v := fun hbefore => absurd hbefore.2 (not_lt.mpr h)
  refine ⟨shown, hread, ?_, fun _ => htotal, iff_of_true hcanonical hbefore,
    fun hb => absurd hb hbefore⟩
  rw [htotal, abs_sub_lt_iff]
  constructor
  · linarith [Int.floor_le v]
  · linarith [Int.lt_floor_add_one v]

namespace Seconds

/-- The exact number of seconds. -/
def value? : Seconds → Option ℚ
  | .whole n => some n
  | .floating x => x.value?

/-- Whole seconds whose hours have more digits than an integer may have to be turned into text. -/
def HasLongHours (s : Seconds) : Prop :=
  ∃ n, s = .whole n ∧ 3600 * 10 ^ integerDigitLimit ≤ n

lemma isLongInteger_iff {n : ℤ} (hn : 0 ≤ n) :
    isLongInteger (n / 60 / 60) = true ↔ 3600 * 10 ^ integerDigitLimit ≤ n := by
  have hcast : ((10 ^ integerDigitLimit : ℕ) : ℤ) = 10 ^ integerDigitLimit := by push_cast; rfl
  rw [isLongInteger, decide_eq_true_iff, ← hcast, Nat.pow_eq]
  generalize 10 ^ integerDigitLimit = limit
  omega

variable {s : Seconds} {v : ℚ}

/-- Whole seconds are displayed unless their hours are too long. -/
lemma display_whole {n : ℤ} (hn : 0 ≤ n) (hlong : ¬3600 * 10 ^ integerDigitLimit ≤ n) :
    ∃ t, (whole n).display = .ok t ∧ Displays t n := by
  have hnonneg : (0 : ℚ) ≤ n := by exact_mod_cast hn
  by_cases hlt : n < 60
  · obtain ⟨x, hx, hvalue⟩ := Binary64.ofInt?_exact (n := n) (by omega)
    have htext : (whole n).display = .ok (shortDuration x) := by
      rw [display, if_neg (show ¬(unitSize : ℤ) ≤ n from not_le.mpr hlt), hx]
    exact ⟨_, htext, shortDuration_displays hvalue hnonneg (by exact_mod_cast hlt)⟩
  · have hshort : ¬isLongInteger (n / 60 / 60) = true :=
      fun h => hlong ((isLongInteger_iff hn).mp h)
    have htext : (whole n).display = .ok (longDuration n.toNat) := by
      rw [display, if_pos (show (unitSize : ℤ) ≤ n from not_lt.mp hlt)]
      exact if_neg hshort
    have hdisplays : Displays (longDuration ⌊(n : ℚ)⌋.toNat) n :=
      longDuration_displays (by exact_mod_cast not_lt.mp hlt)
    rw [Int.floor_intCast] at hdisplays
    exact ⟨_, htext, hdisplays⟩

/-- Whole seconds are not displayed if their hours are too long. -/
lemma display_longHours (hlong : s.HasLongHours) : s.display = .error .longInteger := by
  obtain ⟨n, rfl, hle⟩ := hlong
  have hpos : (1 : ℤ) ≤ 10 ^ integerDigitLimit := one_le_pow₀ (by norm_num)
  rw [display, if_pos (show (unitSize : ℤ) ≤ n by rw [unitSize]; omega)]
  exact if_pos ((isLongInteger_iff (by omega)).mpr hle)

/-- Floating-point seconds are displayed. -/
lemma display_floating {x : Binary64} (hx : x.value? = some v) (hnonneg : 0 ≤ v) :
    ∃ t, (floating x).display = .ok t ∧ Displays t v := by
  obtain ⟨negative, m, e, rfl, -, -⟩ := Binary64.exists_of_nonneg hx hnonneg
  have hltNat := Binary64.ltNat_iff (n := unitSize) hx hnonneg
  by_cases hlt : v < 60
  · exact ⟨_, if_pos (hltNat.mpr hlt), shortDuration_displays hx hnonneg hlt⟩
  · have htext : (floating (.finite negative m e)).display = .ok (longDuration ⌊v⌋.toNat) := by
      refine (if_neg fun h => hlt (hltNat.mp h)).trans ?_
      show Except.ok (longDuration ((Binary64.finite negative m e).truncate?.getD 0).toNat) = _
      rw [Binary64.truncate?_eq_floor hx hnonneg]
      rfl
    exact ⟨_, htext, longDuration_displays (not_lt.mp hlt)⟩

/-- A length of time is displayed to within a second, in canonical units just if it does not lie in
the last twentieth of a second before a minute. Only hours with too many digits have no text. -/
theorem displays_of_nonneg (hv : s.value? = some v) (hnonneg : 0 ≤ v) :
    s.HasLongHours ∧ s.display = .error .longInteger ∨
      ¬s.HasLongHours ∧ ∃ t, s.display = .ok t ∧ Displays t v := by
  by_cases hlong : s.HasLongHours
  · exact .inl ⟨hlong, display_longHours hlong⟩
  · refine .inr ⟨hlong, ?_⟩
    cases s with
    | whole n =>
        obtain rfl : (n : ℚ) = v := Option.some.inj hv
        exact display_whole (by exact_mod_cast hnonneg) fun hle => hlong ⟨n, rfl, hle⟩
    | floating x => exact display_floating hv hnonneg

/-- Some 59.96 seconds are displayed as sixty seconds. -/
theorem displays_of_nonneg_nearMinute :
    (floating (.finite false 8438619801785467 (-47))).display = .ok "60.0s".toList ∧
      ∃ shown, readDuration? "60.0s".toList = some shown ∧ ¬shown.IsCanonical := by
  have htext : (floating (.finite false 8438619801785467 (-47))).display = .ok "60.0s".toList := by
    decide
  have hvalue : (floating (.finite false 8438619801785467 (-47))).value?
      = some (8438619801785467 * 2 ^ (-47 : ℤ)) := by
    simp [value?, Binary64.value?]
  refine ⟨htext, ?_⟩
  rcases displays_of_nonneg hvalue (by norm_num) with ⟨⟨n, h, -⟩, -⟩ | ⟨-, t, ht, hdisplays⟩
  · cases h
  · obtain rfl : "60.0s".toList = t := Except.ok.inj (htext.symm.trans ht)
    obtain ⟨shown, hread, -, -, hcanonical, -⟩ := hdisplays
    exact ⟨shown, hread, fun h => hcanonical.mp h ⟨by norm_num, by norm_num⟩⟩

end Seconds

end PageNotes
