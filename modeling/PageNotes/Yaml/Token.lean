import PageNotes.Text.Digit
import PageNotes.Text.Utf8

/-!
The tokens of YAML text and the places in the text where they begin.

* `Yaml.Token`: the tokens;
* `Yaml.Cursor`: the rest of a text with the line and the column where it begins;
* `Yaml.isAllowed`: the characters that YAML text may hold.
-/

namespace PageNotes.Yaml

/-- A token. Blocks have a begin and an end of their own, which follow from how lines are
indented. -/
inductive Token where
  | blockSequence
  | blockMapping
  | blockEnd
  | openSequence
  | closeSequence
  | openMapping
  | closeMapping
  | dash
  | comma
  | key
  | value
  | alias (name : Text)
  | anchor (name : Text)
  /-- A tag: the handle that stands for its begin, and the rest. -/
  | tag (handle : Option Text) (suffix : Text)
  /-- A scalar, plain or between quotes or in a block. -/
  | scalar (plain : Bool) (content : Text)
  | documentStart
  | documentEnd
  | version (major : Nat)
  | tagHandle (handle uri : Text)
  | otherDirective
  | finish
  deriving DecidableEq, Repr

/-! ### Characters -/

/-- A line end. -/
def isBreak (c : Char) : Bool :=
  c = '\n' || c = '\r' || c = '\x85' || c = '\u2028' || c = '\u2029'

/-- A space, a tabulator or a line end. -/
def isSpace (c : Char) : Bool := c = ' ' || c = '\t' || isBreak c

/-- Whether a word ends before a text. -/
def endsBefore (t : Text) : Bool := t.head?.all isSpace

/-- Whether a line ends before a text. -/
def lineEndsBefore (t : Text) : Bool := t.head?.all isBreak

/-- A character of names. -/
def isNameChar (c : Char) : Bool := isAsciiLetter c || isAsciiDigit c || c = '-' || c = '_'

/-- A character that the text may hold. -/
def isAllowed (c : Char) : Bool :=
  let n := c.toNat
  n = 0x9 || n = 0xA || n = 0xD || (0x20 ≤ n && n ≤ 0x7E) || n = 0x85 || (0xA0 ≤ n && n ≤ 0xD7FF)
    || (0xE000 ≤ n && n ≤ 0xFFFD) || 0x10000 ≤ n

/-! ### Places -/

/-- The rest of a text, with the number of characters before it and its line and column. -/
structure Cursor where
  rest : Text
  index : Nat
  line : Nat
  column : Nat

namespace Cursor

/-- The start of a text. -/
def start (t : Text) : Cursor := ⟨t, 0, 0, 0⟩

/-- Past one character. -/
def next (c : Cursor) : Cursor :=
  match c.rest with
  | [] => c
  | ch :: rest =>
    if isBreak ch && !(ch = '\r' && rest.head? = some '\n') then ⟨rest, c.index + 1, c.line + 1, 0⟩
    else ⟨rest, c.index + 1, c.line, if ch = '\uFEFF' then c.column else c.column + 1⟩

/-- Past some characters. -/
def skip (c : Cursor) : Nat → Cursor
  | 0 => c
  | n + 1 => c.next.skip n

/-- Past the characters of a class. -/
def skipWhile (c : Cursor) (p : Char → Bool) : Cursor := c.skip (c.rest.takeWhile p).length

/-- The next character. -/
def head? (c : Cursor) : Option Char := c.rest.head?

/-- Past a line end, which counts as a line feed unless it is a separator of lines or of
paragraphs. -/
def takeBreak (c : Cursor) : Text × Cursor :=
  match c.rest with
  | '\r' :: '\n' :: _ => (['\n'], c.skip 2)
  | ch :: _ =>
    if ch = '\u2028' || ch = '\u2029' then ([ch], c.next)
    else if isBreak ch then (['\n'], c.next)
    else ([], c)
  | [] => ([], c)

/-- Whether a mark between documents stands here. -/
def atDocumentMark (c : Cursor) : Bool :=
  (c.rest.take 3 = "---".toList || c.rest.take 3 = "...".toList) && endsBefore (c.rest.drop 3)

/-- The rest of a line, if only spaces and a comment stand on it. -/
def takeEmptyLine? (c : Cursor) : Option Cursor :=
  let c := c.skipWhile (· = ' ')
  let c := if c.head? = some '#' then c.skipWhile (!isBreak ·) else c
  if lineEndsBefore c.rest then some c.takeBreak.2 else none

end Cursor

end PageNotes.Yaml
