import PageNotes.Numeric.NumberText
import PageNotes.Numeric.Reading

/-!
Lengths of time as a reader takes them in: seconds with one decimal below a minute, and minutes or
hours with whole seconds from there on.

* `Seconds.display`: the text of a length of time, or why there is none.
-/

namespace PageNotes

/-- A length of time in seconds: a whole number, or a floating-point number. -/
inductive Seconds where
  | whole (n : Int)
  | floating (x : Binary64)
  deriving DecidableEq, Repr

/-- Why a length of time has no text. -/
inductive DurationError where
  | notANumber
  | infinite
  | tooLarge
  /-- Its hours have too many digits for a text. -/
  | longInteger
  deriving DecidableEq, Repr

/-- The words for the reason. -/
def DurationError.message : DurationError → String
  | .notANumber => "cannot convert float NaN to integer"
  | .infinite => "cannot convert float infinity to integer"
  | .tooLarge => "int too large to convert to float"
  | .longInteger => longIntegerMessage

/-- The seconds in a minute, and the minutes in an hour. -/
def unitSize : Nat := 60

/-- Whole seconds from a minute on: hours if there are any, minutes, seconds. -/
def longDuration (n : Nat) : Text :=
  let seconds := Text.ofNat (n % unitSize) ++ ['s']
  let minutes := n / unitSize
  let hours := minutes / unitSize
  if hours = 0 then Text.ofNat minutes ++ 'm' :: ' ' :: seconds
  else Text.ofNat hours ++ 'h' :: ' ' :: (Text.ofNat (minutes % unitSize) ++ 'm' :: ' ' :: seconds)

/-- Seconds with one decimal. -/
def shortDuration (x : Binary64) : Text := x.tenths ++ ['s']

/-- The text of a length of time. -/
def Seconds.display : Seconds → Except DurationError Text
  | .whole n =>
    if unitSize ≤ n then
      if isLongInteger (n / unitSize / unitSize) then .error .longInteger
      else .ok (longDuration n.toNat)
    else match Binary64.ofInt? n with
      | some x => .ok (shortDuration x)
      | none => .error .tooLarge
  | .floating x =>
    if x.ltNat unitSize then .ok (shortDuration x)
    else match x with
      | .nan => .error .notANumber
      | .infinite _ => .error .infinite
      | x => .ok (longDuration (x.truncate?.getD 0).toNat)

end PageNotes
