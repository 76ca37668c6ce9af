import PageNotes.Log.Level
import PageNotes.Text.Digit
import PageNotes.Value.Basic

/-!
The layout of log lines: a pattern with fields for the time, the channel, the level and the
message, and a pattern for the time. On a console a line has the colour of its level.

* `LogLayout.line?`: the line of an entry, none if the pattern asks for an unknown field;
* `LogLayout.consoleLine?`: the line between the marks of its colour.
-/

namespace PageNotes

/-- The patterns of lines and of the time in them; without one for the time it has milliseconds. -/
structure LogLayout where
  line : Text
  time : Option Text
  deriving DecidableEq, Repr

/-- The layout unless another is asked for. -/
def LogLayout.standard : LogLayout where
  line := "%(asctime)s - %(name)s - %(levelname)s - %(message)s".toList
  time := some "%Y-%m-%d %H:%M:%S".toList

/-! ### Time -/

/-- The days of the week from Monday, and the months. -/
def dayNames : List String :=
  ["Monday", "Tuesday", "Wednesday", "Thursday", "Friday", "Saturday", "Sunday"]

/-- The months. -/
def monthNames : List String := ["January", "February", "March", "April", "May", "June", "July",
  "August", "September", "October", "November", "December"]

/-- The number of a day in its week, from Monday; day zero was a Wednesday. -/
def weekday (d : Date) : Nat := ((daysOf d + 2) % 7).toNat

/-- The hour on a dial. -/
def dialHour (hour : Nat) : Nat := if hour % 12 = 0 then 12 else hour % 12

/-- What a letter of a time pattern stands for, by a clock in universal time. -/
def timeField (m : Moment) (letter : Char) : Text :=
  let named (names : List String) (i : Nat) : Text := (names.getD i "").toList
  let spaced (n : Nat) : Text := if n < 10 then ' ' :: Text.ofNat n else Text.ofNat n
  match letter with
  | 'Y' => Text.ofInt m.date.year
  | 'y' => Text.padded 2 (m.date.year % 100).toNat
  | 'm' => Text.padded 2 m.date.month
  | 'd' => Text.padded 2 m.date.day
  | 'H' => Text.padded 2 m.hour
  | 'I' => Text.padded 2 (dialHour m.hour)
  | 'M' => Text.padded 2 m.minute
  | 'S' => Text.padded 2 m.second
  | 'p' => if m.hour < 12 then "AM".toList else "PM".toList
  | 'B' => named monthNames (m.date.month - 1)
  | 'b' => (named monthNames (m.date.month - 1)).take 3
  | 'A' => named dayNames (weekday m.date)
  | 'a' => (named dayNames (weekday m.date)).take 3
  | 'j' => Text.padded 3 (daysOf m.date - daysOf ⟨m.date.year, 1, 1⟩ + 1).toNat
  | 'F' => m.date.toText
  | 'T' | 'X' => m.clockText
  | 'R' => m.clockText.take 5
  | 'D' | 'x' => Text.padded 2 m.date.month ++ '/' :: (Text.padded 2 m.date.day
      ++ '/' :: Text.padded 2 (m.date.year % 100).toNat)
  | 'e' => spaced m.date.day
  | 'h' => (named monthNames (m.date.month - 1)).take 3
  | 'c' => (named dayNames (weekday m.date)).take 3
      ++ ' ' :: ((named monthNames (m.date.month - 1)).take 3
      ++ ' ' :: (spaced m.date.day ++ ' ' :: (m.clockText ++ ' ' :: Text.ofInt m.date.year)))
  | 'u' => Text.ofNat (weekday m.date + 1)
  | 'w' => Text.ofNat ((weekday m.date + 1) % 7)
  | 'z' => "+0000".toList
  | 'Z' => "UTC".toList
  | 'n' => ['\n']
  | 't' => ['\t']
  | '%' => ['%']
  | letter => ['%', letter]

/-- A moment by a pattern in which a percent sign stands before each letter of a field. -/
def timeText (m : Moment) : Text → Text
  | '%' :: letter :: rest => timeField m letter ++ timeText m rest
  | c :: rest => c :: timeText m rest
  | [] => []

/-- The time of a log line. -/
def LogLayout.timeOf (layout : LogLayout) (m : Moment) : Text :=
  match layout.time with
  | none | some [] =>
    m.date.toText ++ ' ' :: (m.clockText ++ ',' :: Text.padded 3 (m.microsecond / 1000))
  | some pattern => timeText m pattern

/-! ### Fields of lines -/

/-- A field in the pattern of lines: its name, and how what it stands for is written. -/
structure LineField where
  name : Text
  flags : Text
  width : Nat
  /-- The most characters of a text, or the fewest digits of a number. -/
  precision : Option Nat
  letter : Char
  /-- The number of characters that the field takes up. -/
  length : Nat

/-- The number at the start of a text, and the number of its digits. -/
def leadingNumber (t : Text) : Nat × Nat :=
  let digits := t.takeWhile isAsciiDigit
  (digits.foldl (fun n c => n * 10 + (c.toNat - 0x30)) 0, digits.length)

/-- The field whose name the text begins with. -/
def lineFieldAt? (t : Text) : Option LineField :=
  let name := t.takeWhile (· ≠ ')')
  let shape := t.drop (name.length + 1)
  let flags := shape.takeWhile fun c => "#0+- ".toList.contains c
  let (width, widthLength) := leadingNumber (shape.drop flags.length)
  let rest := shape.drop (flags.length + widthLength)
  let (precision, precisionLength) := match rest with
    | '.' :: rest =>
      let (precision, length) := leadingNumber rest
      (some precision, length + 1)
    | _ => (none, 0)
  (rest.drop precisionLength).head?.map fun letter =>
    ⟨name, flags, width, precision, letter,
      name.length + 1 + flags.length + widthLength + precisionLength + 1⟩

/-- A number with its sign, brought to a width with zeros if the flags ask for it. -/
def LineField.number (f : LineField) (n : Int) : Text :=
  let sign := if n < 0 then ['-'] else if f.flags.contains '+' then ['+']
    else if f.flags.contains ' ' then [' '] else []
  let digits := Text.padded (f.precision.getD 0) n.natAbs
  let zeros := if f.flags.contains '0' && !f.flags.contains '-' then
      List.replicate (f.width - sign.length - digits.length) '0'
    else []
  sign ++ zeros ++ digits

/-- What a field stands for, as its letter asks: a text, a message form, or an integer. -/
def LineField.content? (f : LineField) (value : Value) : Option Text :=
  let cut (t : Text) : Text := match f.precision with
    | some n => t.take n
    | none => t
  match f.letter with
  | 's' => some (cut value.display)
  | 'r' => some (cut value.quoted)
  | 'd' | 'i' | 'u' =>
    match value with
    | .int n => some (f.number n)
    | .float x => x.truncate?.map f.number
    | _ => none
  | _ => none

/-- A field written out, brought to its width with spaces. -/
def LineField.text? (f : LineField) (value : Value) : Option Text :=
  (f.content? value).map fun content =>
    let spaces := List.replicate (f.width - content.length) ' '
    if f.flags.contains '-' then content ++ spaces else spaces ++ content

/-! ### Lines -/

/-- What a name in the pattern of lines stands for. -/
def lineValue? (layout : LogLayout) (m : Moment) (entry : LogEntry) (name : String) :
    Option Value :=
  match name with
  | "asctime" => some (.text (layout.timeOf m))
  | "name" => some (.text entry.channel.toList)
  | "levelname" => some (.text (Level.name entry.level).toList)
  | "levelno" => some (.int entry.level)
  | "message" | "msg" => some (.text entry.message.toList)
  | "msecs" => (Binary64.ofInt? (m.microsecond / 1000)).map .float
  | "threadName" => some (.text "MainThread".toList)
  | "processName" => some (.text "MainProcess".toList)
  | _ => none

/-- A line by a pattern, of which `skip` characters belong to the field before. There is none if the
pattern asks for what is not there. -/
def patternLine? (value? : String → Option Value) (skip : Nat) : Text → Option Text
  | [] => some []
  | c :: t =>
    match skip with
    | skip + 1 => patternLine? value? skip t
    | 0 =>
      match c, t with
      | '%', '%' :: _ => (patternLine? value? 1 t).map ('%' :: ·)
      | '%', '(' :: rest =>
        match lineFieldAt? rest with
        | none => none
        | some f =>
          match (value? (String.ofList f.name)).bind f.text? with
          | none => none
          | some text => (patternLine? value? (f.length + 1) t).map (text ++ ·)
      | '%', _ => none
      | c, _ => (patternLine? value? 0 t).map (c :: ·)

namespace LogLayout

/-- The pattern of lines without colours: if none is given, the message alone. -/
def plainPattern (layout : LogLayout) : Text :=
  if layout.line.isEmpty then "%(message)s".toList else layout.line

/-- The line of an entry that is logged at a moment. -/
def line? (layout : LogLayout) (m : Moment) (entry : LogEntry) : Option Text :=
  patternLine? (lineValue? layout m entry) 0 layout.plainPattern

/-- The letters that may end a field. -/
def fieldLetters : Text := "diouxefgcrsa%".toList

/-- Whether a text begins with a field. -/
def startsWithField : Text → Bool
  | '%' :: '(' :: t =>
    match lineFieldAt? t with
    | some f => !f.name.isEmpty && f.name.all isWord && fieldLetters.contains f.letter.toLower
    | none => false
  | _ => false

/-- Whether a pattern has a field. -/
def patternHasField : Text → Bool
  | [] => false
  | c :: t => startsWithField (c :: t) || patternHasField t

/-- Whether the pattern of lines has a field. -/
def hasField (layout : LogLayout) : Bool := patternHasField layout.plainPattern

/-! ### Colours -/

/-- A mark that changes the colour of a console. -/
def colourMark (code : String) : Text := '\x1b' :: '[' :: code.toList ++ ['m']

/-- The marks of the colour of a level. -/
def levelColour (level : Level) : Text :=
  if level = .debug then colourMark "36"
  else if level = .info then colourMark "32"
  else if level = .warning then colourMark "33"
  else if level = .error then colourMark "31"
  else if level = .critical then colourMark "31" ++ colourMark "47"
  else []

/-- The mark that ends all colours. -/
def colourEnd : Text := colourMark "0"

/-- What a name stands for on a console, where colours have names as well. -/
def consoleValue? (layout : LogLayout) (m : Moment) (entry : LogEntry) (name : String) :
    Option Value :=
  match name with
  | "log_color" => some (.text (levelColour entry.level))
  | "reset" => some (.text colourEnd)
  | name => lineValue? layout m entry name

/-- The line of an entry in the colour of its level. -/
def consoleLine? (layout : LogLayout) (m : Moment) (entry : LogEntry) : Option Text :=
  (patternLine? (consoleValue? layout m entry) 0 layout.line).map fun line =>
    let line := levelColour entry.level ++ line
    if line.endsWith colourEnd then line else line ++ colourEnd

end LogLayout

end PageNotes
