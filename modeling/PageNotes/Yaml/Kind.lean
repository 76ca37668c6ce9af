import PageNotes.Yaml.Token
import PageNotes.Time.Moment

/-!
What kind of value a node holds, as its tag says or, for a plain scalar without a tag, as it is
written.

* `Yaml.Kind.ofTag`: the kind that a tag names;
* `Yaml.Kind.ofPlain`: the kind of a plain scalar by its form;
* `Yaml.readTimestamp?`: the parts of a date or a moment.
-/

namespace PageNotes.Yaml

/-- What kind of value a node holds. -/
inductive Kind where
  | text
  | bool
  | int
  | float
  | null
  | timestamp
  | list
  | mapping
  /-- The key whose value is a mapping to take members from. -/
  | merge
  /-- The key of the value that stands for a whole mapping. -/
  | default
  /-- A kind that settings do not have. -/
  | unknown
  deriving DecidableEq, Repr

/-- What the tags of the kinds begin with. -/
def tagStart : Text := "tag:yaml.org,2002:".toList

/-- The kinds by the ends of their tags. -/
def kindNames : List (String × Kind) := [
  ("str", .text), ("bool", .bool), ("int", .int), ("float", .float), ("null", .null),
  ("timestamp", .timestamp), ("seq", .list), ("map", .mapping), ("merge", .merge),
  ("value", .default)]

/-- The kind that a tag names. -/
def Kind.ofTag (tag : Text) : Kind :=
  match Text.dropPrefix? tagStart tag with
  | some name => (kindNames.lookup (String.ofList name)).getD .unknown
  | none => .unknown

/-! ### Numbers -/

/-- A text without its sign. -/
def unsigned (t : Text) : Text :=
  match t with
  | '+' :: rest => rest
  | '-' :: rest => rest
  | _ => t

/-- A digit, or an underscore between digits. -/
def isNumberChar (c : Char) : Bool := isAsciiDigit c || c = '_'

/-- Whether a text begins with a digit and goes on with digits and underscores. -/
def isDigits (t : Text) : Bool := t.head?.any isAsciiDigit && t.all isNumberChar

/-- Whether a text is a number that does not begin with a zero. -/
def isCount (t : Text) : Bool := isDigits t && t.head? ≠ some '0'

/-- A part of a number in base sixty: a number below sixty. -/
def isSixtieth : Text → Bool
  | [a] => isAsciiDigit a
  | [a, b] => '0' ≤ a && a ≤ '5' && isAsciiDigit b
  | _ => false

/-- Whether there are characters and all are of a class. -/
def isRun (p : Char → Bool) (t : Text) : Bool := !t.isEmpty && t.all p

/-- Whether a text without sign is an integer: in base two, eight, sixteen, ten or sixty. -/
def isUnsignedInt (t : Text) : Bool :=
  match t with
  | '0' :: 'b' :: rest => isRun (fun c => c = '0' || c = '1' || c = '_') rest
  | '0' :: 'x' :: rest => isRun (fun c => (hexRange c) || c = '_') rest
  | ['0'] => true
  | '0' :: rest => isRun (fun c => '0' ≤ c && c ≤ '7' || c = '_') rest
  | _ =>
    match Text.split ':' t with
    | first :: rest => isCount first && rest.all isSixtieth
    | [] => false
where
  /-- A hexadecimal digit. -/
  hexRange (c : Char) : Bool := isAsciiDigit c || 'a' ≤ c && c ≤ 'f' || 'A' ≤ c && c ≤ 'F'

/-- Whether a text is an exponent with its sign. -/
def isExponent : Text → Bool
  | e :: sign :: rest =>
    (e = 'e' || e = 'E') && (sign = '+' || sign = '-') && isRun isAsciiDigit rest
  | _ => false

/-- Whether a text is digits, and an exponent behind them if there is any. -/
def isFraction (t : Text) : Bool :=
  let exponent := t.dropWhile isNumberChar
  exponent.isEmpty || isExponent exponent

/-- Whether a text is one of some words. -/
def isAmong (words : List String) (t : Text) : Bool := words.contains (String.ofList t)

/-- Whether a text is a number with a point, in base ten or sixty, or one of the values that are no
number. -/
def isFloat (t : Text) : Bool :=
  let size := unsigned t
  match Text.cut '.' size with
  | ([], some fraction) =>
    isAmong [".inf", ".Inf", ".INF"] size || isAmong [".nan", ".NaN", ".NAN"] t
      || t.head? = some '.' && fraction.head?.any isAsciiDigit && isFraction fraction
  | (whole, some fraction) =>
    match Text.split ':' whole with
    | [whole] => isDigits whole && isFraction fraction
    | first :: rest => isDigits first && rest.all isSixtieth && fraction.all isNumberChar
    | [] => false
  | (_, none) => false

/-! ### Dates and moments -/

/-- The time of day of a moment, and the offset of its clock: its sign, hours and minutes. -/
structure ClockParts where
  hour : Nat
  minute : Nat
  second : Nat
  fraction : Text
  offset : Option (Bool × Nat × Nat)

/-- A date, and the time of day if it is a moment. -/
structure TimestampParts where
  year : Nat
  month : Nat
  day : Nat
  clock : Option ClockParts

/-- A number of at least some and at most some digits, and what follows it. -/
def takeNumber? (least most : Nat) (t : Text) : Option (Nat × Text) :=
  let digits := (t.take most).takeWhile isAsciiDigit
  if digits.length < least then none
  else some (digits.foldl (fun n d => n * 10 + (d.toNat - 0x30)) 0, t.drop digits.length)

/-- A number behind a sign. -/
def takeNumberBehind? (sign : Char) (least most : Nat) (t : Text) : Option (Nat × Text) :=
  match t with
  | c :: rest => if c = sign then takeNumber? least most rest else none
  | [] => none

/-- Spaces and tabulators. -/
def isGap (c : Char) : Bool := c = ' ' || c = '\t'

/-- The offset of a clock at the end of a moment: none, universal time, or hours and minutes. -/
def readOffset? (t : Text) : Option (Option (Bool × Nat × Nat)) :=
  match t.dropWhile isGap with
  | [] => if t.isEmpty then some none else none
  | ['Z'] => some (some (false, 0, 0))
  | sign :: rest =>
    if sign = '+' || sign = '-' then
      match takeNumber? 1 2 rest with
      | some (hours, []) => some (some (sign = '-', hours, 0))
      | some (hours, rest) =>
        match takeNumberBehind? ':' 2 2 rest with
        | some (minutes, []) => some (some (sign = '-', hours, minutes))
        | _ => none
      | none => none
    else none

/-- The time of day and what follows it. -/
def readClock? (t : Text) : Option ClockParts :=
  match takeNumber? 1 2 t with
  | none => none
  | some (hour, t) =>
    match takeNumberBehind? ':' 2 2 t with
    | none => none
    | some (minute, t) =>
      match takeNumberBehind? ':' 2 2 t with
      | none => none
      | some (second, t) =>
        let fraction := if t.head? = some '.' then (t.drop 1).takeWhile isAsciiDigit else []
        let behind := if t.head? = some '.' then t.drop (fraction.length + 1) else t
        (readOffset? behind).map fun offset => ⟨hour, minute, second, fraction, offset⟩

/-- The parts of a date or a moment. -/
def readTimestamp? (t : Text) : Option TimestampParts :=
  match takeNumber? 4 4 t with
  | none => none
  | some (year, t) =>
    match takeNumberBehind? '-' 1 2 t with
    | none => none
    | some (month, t) =>
      match takeNumberBehind? '-' 1 2 t with
      | none => none
      | some (day, []) => some ⟨year, month, day, none⟩
      | some (day, c :: t) =>
        let clock := if c = 'T' || c = 't' then readClock? t
          else if isGap c then readClock? (t.dropWhile isGap) else none
        clock.map fun clock => ⟨year, month, day, some clock⟩

/-- Whether a plain scalar is a date or a moment; a date has two digits for month and day. -/
def isTimestamp (t : Text) : Bool :=
  match readTimestamp? t with
  | some parts => parts.clock.isSome || t.length = 10
  | none => false

/-! ### Plain scalars -/

/-- The words for truth. -/
def trueWords : List String := ["yes", "Yes", "YES", "true", "True", "TRUE", "on", "On", "ON"]

/-- The words for untruth. -/
def falseWords : List String := ["no", "No", "NO", "false", "False", "FALSE", "off", "Off", "OFF"]

/-- The kind of a plain scalar by its form; the first form that fits counts. -/
def Kind.ofPlain (t : Text) : Kind :=
  if isAmong trueWords t || isAmong falseWords t then .bool
  else if isFloat t then .float
  else if isUnsignedInt (unsigned t) then .int
  else if isAmong ["<<"] t then .merge
  else if isAmong ["", "~", "null", "Null", "NULL"] t then .null
  else if isTimestamp t then .timestamp
  else if isAmong ["="] t then .default
  else .text

end PageNotes.Yaml
