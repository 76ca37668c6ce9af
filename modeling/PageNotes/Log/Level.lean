import PageNotes.Text.LetterCase

/-!
The levels of log entries: numbers, some of which have names.

* `Level.name`: the name of a level;
* `Level.named?`: the level with a name;
* `Level.resolve`: the level that an explicit name or a count of requests for detail selects.
-/

namespace PageNotes

/-- How important a log entry is. -/
abbrev Level := Int

namespace Level

/-- Details for finding faults. -/
def debug : Level := 10

/-- The course of the work. -/
def info : Level := 20

/-- Something to look at. -/
def warning : Level := 30

/-- A failure. -/
def error : Level := 40

/-- A failure that ends the work. -/
def critical : Level := 50

/-- No level of its own. -/
def unset : Level := 0

/-- The name of a level. -/
def name (level : Level) : String :=
  if level = critical then "CRITICAL"
  else if level = error then "ERROR"
  else if level = warning then "WARNING"
  else if level = info then "INFO"
  else if level = debug then "DEBUG"
  else if level = unset then "NOTSET"
  else s!"Level {level}"

/-- The level with a name in capitals; two levels have a second name. -/
def named? : String → Option Level
  | "CRITICAL" | "FATAL" => some critical
  | "ERROR" => some error
  | "WARNING" | "WARN" => some warning
  | "INFO" => some info
  | "DEBUG" => some debug
  | "NOTSET" => some unset
  | _ => none

/-- The level for a count of requests for detail. -/
def ofVerbosity (count : Int) : Level :=
  if count ≤ 0 then warning else if count = 1 then info else debug

/-- The level that a name selects, or without one the count. The error is the unknown name. -/
def resolve (count : Int) (name : Option Text) : Except Text Level :=
  match name with
  | none | some [] => .ok (ofVerbosity count)
  | some name =>
    match named? (String.ofList name.upper) with
    | some level => .ok level
    | none => .error name

end Level

/-- One entry of a log: its level, the channel that it is written to, and the message. -/
structure LogEntry where
  level : Level
  channel : String
  message : String
  deriving DecidableEq, Repr

end PageNotes
