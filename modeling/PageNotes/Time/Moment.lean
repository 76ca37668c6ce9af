import PageNotes.Text.Basic

/-!
Moments in time: a date of the calendar and a time of day, with the offset of the clock from
universal time if it is known. Days are counted from the first of March of the year zero, so that
leap days come last.

* `TimeSpan`: a length of time to the microsecond;
* `daysOf`, `dateOf`: the number of a day and the date of a number;
* `Moment.toUniversal?`: the same moment in universal time, if its year has a date;
* `Moment.timestamp?`: its text, to the millisecond.
-/

namespace PageNotes

/-- A date of the calendar. -/
structure Date where
  year : Int
  month : Nat
  day : Nat
  deriving DecidableEq, Repr

/-- A length of time to the microsecond; a negative one leads back. -/
structure TimeSpan where
  microseconds : Int
  deriving DecidableEq, Repr

/-- The microseconds of a second. -/
def microsecondsPerSecond : Nat := 1000000

/-- A length of whole seconds. -/
def TimeSpan.ofSeconds (n : Int) : TimeSpan := ⟨n * microsecondsPerSecond⟩

instance : OfNat TimeSpan 0 := ⟨⟨0⟩⟩

/-- A date, a time of day, and the time by which the clock is ahead of universal time. -/
structure Moment where
  date : Date
  hour : Nat
  minute : Nat
  second : Nat
  microsecond : Nat
  offset : Option TimeSpan
  deriving DecidableEq, Repr

/-! ### Days -/

/-- The number of the day on which a date falls. -/
def daysOf (d : Date) : Int :=
  let year := if d.month ≤ 2 then d.year - 1 else d.year
  let month : Int := (d.month + 9) % 12
  let cycle := Int.fdiv year 400
  let yearOfCycle := year - cycle * 400
  let dayOfYear := (153 * month + 2) / 5 + d.day - 1
  cycle * 146097 + yearOfCycle * 365 + yearOfCycle / 4 - yearOfCycle / 100 + dayOfYear

/-- The date of a day. -/
def dateOf (days : Int) : Date :=
  let cycle := Int.fdiv days 146097
  let dayOfCycle := days - cycle * 146097
  let yearOfCycle :=
    (dayOfCycle - dayOfCycle / 1460 + dayOfCycle / 36524 - dayOfCycle / 146096) / 365
  let dayOfYear := dayOfCycle - (365 * yearOfCycle + yearOfCycle / 4 - yearOfCycle / 100)
  let month := (5 * dayOfYear + 2) / 153
  let day := dayOfYear - (153 * month + 2) / 5 + 1
  let year := yearOfCycle + cycle * 400
  if month < 10 then ⟨year, (month + 3).toNat, day.toNat⟩
  else ⟨year + 1, (month - 9).toNat, day.toNat⟩

/-- Whether a year has a leap day. -/
def isLeapYear (year : Int) : Bool := year % 4 = 0 && (year % 100 ≠ 0 || year % 400 = 0)

/-- The number of days of a month. -/
def monthLength (year : Int) (month : Nat) : Nat :=
  if month = 2 then (if isLeapYear year then 29 else 28)
  else if month = 4 || month = 6 || month = 9 || month = 11 then 30 else 31

/-- The first year that has dates. -/
def firstYear : Int := 1

/-- The last year that has dates. -/
def lastYear : Int := 9999

/-! ### Universal time -/

/-- The seconds of a moment from the start of day zero, by its own clock. -/
def Moment.seconds (m : Moment) : Int :=
  daysOf m.date * 86400 + m.hour * 3600 + m.minute * 60 + m.second

/-- The microseconds of a moment from the start of day zero in universal time; a clock without
offset runs in universal time. -/
def Moment.ticks (m : Moment) : Int :=
  m.seconds * microsecondsPerSecond + m.microsecond - (m.offset.getD 0).microseconds

/-- The moment in universal time at some seconds after the start of day zero. -/
def Moment.atSeconds (seconds : Int) (microsecond : Nat) : Moment :=
  let days := Int.fdiv seconds 86400
  let rest := (seconds - days * 86400).toNat
  ⟨dateOf days, rest / 3600, rest / 60 % 60, rest % 60, microsecond, some 0⟩

/-- The moment in universal time at some microseconds after the start of day zero. -/
def Moment.atTicks (ticks : Int) : Moment :=
  let seconds := Int.fdiv ticks microsecondsPerSecond
  .atSeconds seconds (ticks - seconds * microsecondsPerSecond).toNat

/-- The moment in universal time, if its year has dates. -/
def Moment.toUniversal? (m : Moment) : Option Moment :=
  let u := Moment.atTicks m.ticks
  if firstYear ≤ u.date.year ∧ u.date.year ≤ lastYear then some u else none

/-- The day from which clocks count seconds. -/
def epoch : Date := ⟨1970, 1, 1⟩

/-- The moment in universal time at some seconds after the start of the epoch. -/
def Moment.afterEpoch (seconds : Int) (microsecond : Nat) : Moment :=
  .atSeconds (daysOf epoch * 86400 + seconds) microsecond

/-! ### Text -/

/-- A number with zeros before it up to a width. -/
def Text.padded (width n : Nat) : Text :=
  let digits := Text.ofNat n
  List.replicate (width - digits.length) '0' ++ digits

/-- A date: the year, the month and the day. -/
def Date.toText (d : Date) : Text :=
  Text.ofInt d.year ++ '-' :: Text.padded 2 d.month ++ '-' :: Text.padded 2 d.day

/-- A time of day in hours, minutes and seconds. -/
def Moment.clockText (m : Moment) : Text :=
  Text.padded 2 m.hour ++ ':' :: Text.padded 2 m.minute ++ ':' :: Text.padded 2 m.second

/-- The moment in universal time to the millisecond, which is cut and not rounded. -/
def Moment.timestamp? (m : Moment) : Option Text :=
  m.toUniversal?.map fun u =>
    u.date.toText ++ 'T' :: u.clockText ++ '.' :: Text.padded 3 (u.microsecond / 1000) ++ ['Z']

end PageNotes
