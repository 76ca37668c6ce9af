import PageNotes.Value.Basic

/-!
Values as JSON text: members and items on lines of their own, two more spaces before those of an
inner value, and every character beyond ASCII as an escape.

* `Value.json`: the text of a value;
* `Text.json`: the text of a text.
-/

namespace PageNotes

/-- The escape of a number below `2 ^ 16`. -/
def unitEscape (n : Nat) : Text := '\\' :: 'u' :: Text.ofHex 4 n

/-- One character inside quotes; those beyond the first plane as two halves. -/
def jsonChar (c : Char) : Text :=
  if c = '"' || c = '\\' then ['\\', c]
  else if c = '\n' then ['\\', 'n']
  else if c = '\r' then ['\\', 'r']
  else if c = '\t' then ['\\', 't']
  else if c = '\x08' then ['\\', 'b']
  else if c = '\x0c' then ['\\', 'f']
  else
    let n := c.toNat
    if 0x20 ≤ n && n < 0x7F then [c]
    else if n < 0x10000 then unitEscape n
    else unitEscape (0xD800 + (n - 0x10000) / 0x400) ++ unitEscape (0xDC00 + (n - 0x10000) % 0x400)

/-- A text between quotes. -/
def Text.json (t : Text) : Text := '"' :: (t.flatMap jsonChar ++ ['"'])

/-- A line end with the spaces of the next line. -/
def jsonBreak (depth : Nat) : Text := '\n' :: List.replicate (2 * depth) ' '

/-- Parts between brackets, each on a line of its own. -/
def jsonBlock (depth : Nat) (opening closing : Char) (parts : List Text) : Text :=
  if parts.isEmpty then [opening, closing]
  else opening :: (jsonBreak (depth + 1) ++ Text.join (',' :: jsonBreak (depth + 1)) parts ++
    jsonBreak depth ++ [closing])

namespace Value

mutual
/-- The text of a value inside `depth` others. -/
def jsonAt (depth : Nat) : Value → Text
  | null => "null".toList
  | bool b => if b then "true".toList else "false".toList
  | int n => Text.ofInt n
  | float x => x.shortest
  | text t => Text.json t
  | date d => Text.json d.display
  | moment m => Text.json m.display
  | list items => jsonBlock depth '[' ']' (jsonItems (depth + 1) items)
  | mapping members => jsonBlock depth '\x7b' '\x7d' (jsonMembers (depth + 1) members)

/-- The texts of values inside `depth` others. -/
def jsonItems (depth : Nat) : List Value → List Text
  | [] => []
  | item :: rest => jsonAt depth item :: jsonItems depth rest

/-- The texts of members inside `depth` values. -/
def jsonMembers (depth : Nat) : List (Value × Value) → List Text
  | [] => []
  | (key, value) :: rest =>
    (Text.json key.display ++ ':' :: ' ' :: jsonAt depth value) :: jsonMembers depth rest
end

/-- The text of a value. -/
def json (value : Value) : Text := value.jsonAt 0

/-- A mapping with names as keys. -/
def record (members : List (String × Value)) : Value :=
  mapping (members.map fun (name, value) => (text name.toList, value))

/-- A text, or nothing. -/
def textOrNull : Option Text → Value
  | some t => text t
  | none => null

end Value

end PageNotes
