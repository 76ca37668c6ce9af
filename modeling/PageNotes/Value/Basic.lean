import PageNotes.Numeric.NumberText
import PageNotes.Numeric.Reading
import PageNotes.Text.Quoted
import PageNotes.Time.Moment

/-!
Values of settings: scalars, lists and mappings with their members in order, as a settings file, an
environment or a command line gives them.

* `Value.display`: a value as text;
* `Value.quoted`: a value as messages show it, which tells texts from other scalars;
* `Value.hasLongInteger`: when a value cannot be shown, as an integer in it is too long;
* `Value.sameKey`: when two keys of a mapping are one, numbers being compared by value.
-/

namespace PageNotes

/-- A value of a setting. -/
inductive Value where
  | null
  | bool (b : Bool)
  | int (n : Int)
  | float (x : Binary64)
  | text (t : Text)
  | date (d : Date)
  | moment (m : Moment)
  | list (items : List Value)
  | mapping (members : List (Value × Value))
  deriving Repr, Inhabited

/-- Named settings. -/
abbrev Members := List (Value × Value)

/-! ### Dates and moments -/

/-- A date with a year of four digits. -/
def Date.display (d : Date) : Text :=
  Text.padded 4 d.year.natAbs ++ '-' :: Text.padded 2 d.month ++ '-' :: Text.padded 2 d.day

/-- The microseconds of a moment behind a point, if there are any. -/
def fractionText (microsecond : Nat) : Text :=
  if microsecond = 0 then [] else '.' :: Text.padded 6 microsecond

/-- The offset of a clock in hours and minutes, and seconds if there are any. -/
def offsetText (offset : TimeSpan) : Text :=
  let ticks := offset.microseconds.natAbs
  let n := ticks / microsecondsPerSecond
  let fraction := fractionText (ticks % microsecondsPerSecond)
  let rest := if n % 60 = 0 ∧ fraction = [] then [] else ':' :: (Text.padded 2 (n % 60) ++ fraction)
  (if offset.microseconds < 0 then '-' else '+') :: (Text.padded 2 (n / 3600) ++ ':' ::
    (Text.padded 2 (n / 60 % 60) ++ rest))

/-- A moment: date, time, and the offset of its clock if it has one. -/
def Moment.display (m : Moment) : Text :=
  let offset := match m.offset with
    | some offset => offsetText offset
    | none => []
  m.date.display ++ ' ' :: (m.clockText ++ fractionText m.microsecond ++ offset)

/-- Numbers between parentheses behind a word. -/
def callText (word : String) (parts : List Text) : Text :=
  word.toList ++ '(' :: (Text.join [',', ' '] parts ++ [')'])

/-- A date in a message. -/
def Date.quoted (d : Date) : Text :=
  callText "datetime.date" [Text.ofInt d.year, Text.ofNat d.month, Text.ofNat d.day]

/-- A length of time in a message: days, the seconds beyond them, and the microseconds beyond
these. -/
def TimeSpan.quoted (span : TimeSpan) : Text :=
  let seconds := Int.fdiv span.microseconds microsecondsPerSecond
  let days := Int.fdiv seconds 86400
  let part (name : String) (n : Int) : List Text :=
    if n = 0 then [] else [name.toList ++ '=' :: Text.ofInt n]
  let parts := part "days" days ++ part "seconds" (seconds - days * 86400)
    ++ part "microseconds" (span.microseconds - seconds * microsecondsPerSecond)
  callText "datetime.timedelta" (if parts = [] then [['0']] else parts)

/-- The offset of a clock in a message. -/
def quotedOffset (offset : TimeSpan) : Text :=
  if offset = 0 then "datetime.timezone.utc".toList
  else callText "datetime.timezone" [offset.quoted]

/-- A moment in a message. -/
def Moment.quoted (m : Moment) : Text :=
  let micro := if m.microsecond = 0 then [] else [Text.ofNat m.microsecond]
  let second := if m.second = 0 && m.microsecond = 0 then [] else [Text.ofNat m.second]
  let offset := match m.offset with
    | some offset => ["tzinfo=".toList ++ quotedOffset offset]
    | none => []
  callText "datetime.datetime" ([Text.ofInt m.date.year, Text.ofNat m.date.month,
    Text.ofNat m.date.day, Text.ofNat m.hour, Text.ofNat m.minute] ++ second ++ micro ++ offset)

/-! ### Values as text -/

/-- A truth value as text. -/
def boolText (b : Bool) : Text := if b then "True".toList else "False".toList

namespace Value

mutual
/-- A value as messages show it. -/
def quoted : Value → Text
  | null => "None".toList
  | bool b => boolText b
  | int n => Text.ofInt n
  | float x => x.shortest
  | text t => Text.quoted t
  | date d => d.quoted
  | moment m => m.quoted
  | list items => '[' :: (Text.join [',', ' '] (quotedAll items) ++ [']'])
  | mapping members => '\x7b' :: (Text.join [',', ' '] (quotedMembers members) ++ ['\x7d'])

/-- Values as messages show them. -/
def quotedAll : List Value → List Text
  | [] => []
  | item :: rest => quoted item :: quotedAll rest

/-- Members of a mapping as messages show them. -/
def quotedMembers : List (Value × Value) → List Text
  | [] => []
  | (key, value) :: rest => (quoted key ++ ':' :: ' ' :: quoted value) :: quotedMembers rest
end

/-- A value as text: texts, dates and moments plain, all else as messages show it. -/
def display : Value → Text
  | text t => t
  | date d => d.display
  | moment m => m.display
  | value => value.quoted

mutual
/-- Whether a value has an integer in it that is too long for a text. -/
def hasLongInteger : Value → Bool
  | int n => isLongInteger n
  | list items => anyLongInteger items
  | mapping members => anyLongMember members
  | _ => false

/-- Whether one of some values has an integer in it that is too long for a text. -/
def anyLongInteger : List Value → Bool
  | [] => false
  | item :: rest => hasLongInteger item || anyLongInteger rest

/-- Whether one of some members has an integer in it that is too long for a text. -/
def anyLongMember : List (Value × Value) → Bool
  | [] => false
  | (key, value) :: rest => hasLongInteger key || hasLongInteger value || anyLongMember rest
end

/-- Whether a value is a text. -/
def isText : Value → Bool
  | text _ => true
  | _ => false

/-! ### Keys -/

/-- The number that a key stands for in units of the least positive number. -/
def keyUnits? : Value → Option Int
  | bool b => some (if b then Nat.pow 2 1074 else 0)
  | int n => some (n * Nat.pow 2 1074)
  | float x => x.units?
  | _ => none

/-- Whether two keys are one. -/
def sameKey (a b : Value) : Bool :=
  match a.keyUnits?, b.keyUnits? with
  | some m, some n => m = n
  | some _, none => false
  | none, some _ => false
  | none, none =>
    match a, b with
    | null, null => true
    | text s, text t => s = t
    | date c, date d => c = d
    | moment l, moment m => l = m
    | float x, float y => x = y && x ≠ .nan
    | _, _ => false

/-- Whether a value may be a key. -/
def isScalar : Value → Bool
  | list _ => false
  | mapping _ => false
  | _ => true

end Value

/-- The member with a key. -/
def Members.get? (members : Members) (key : Value) : Option Value :=
  (members.find? fun (k, _) => k.sameKey key).map (·.2)

/-- Gives a key a value, in its place if it is there already. -/
def Members.set (members : Members) (key value : Value) : Members :=
  match members with
  | [] => [(key, value)]
  | (k, old) :: rest =>
    if k.sameKey key then (k, value) :: rest else (k, old) :: Members.set rest key value

/-- The member with a name. -/
def Members.named? (members : Members) (name : String) : Option Value :=
  members.get? (.text name.toList)

/-- The members of one mapping put over those of another. -/
def Members.update (members new : Members) : Members :=
  new.foldl (fun members (key, value) => members.set key value) members

end PageNotes
