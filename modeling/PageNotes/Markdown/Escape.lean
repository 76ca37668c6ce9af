import PageNotes.Text.Digit
import PageNotes.Text.Blank
import PageNotes.Markdown.Options

/-!
Escaping: a backslash before characters that Markdown would take as marks.

* `escapeText`: what the options ask for.
-/

namespace PageNotes

/-- Characters that may be marks wherever they stand. -/
def isMarkChar (c : Char) : Bool := "]\\&<`[>~=+|".toList.contains c

/-- Whether a mark may end here: before a blank or at the end of the text. -/
def endsMark (t : Text) : Bool := t.head?.all isBlank

/-- The length of a mark with the blank that ends it. -/
def withBlank (length : Nat) (t : Text) : Nat := if t.isEmpty then length else length + 1

/-- The blank before a mark: none is needed at the start of the text. Gives the number of characters
to pass. -/
def marksFrom (atStart : Bool) (t : Text) : List Nat :=
  (if t.head?.any isBlank then [1] else []) ++ (if atStart then [0] else [])

/-- A run of one character that stands by itself, from a blank or from the start of the text, with
a backslash before it. -/
def runAlone (c : Char) (limit : Option Nat) (atStart : Bool) (t : Text) : Option (Nat × Text) :=
  (marksFrom atStart t).findSome? fun lead =>
    let rest : Text := t.drop lead
    let run := (rest.takeWhile (· = c)).length
    let after : Text := rest.drop run
    if 0 < run && limit.all (run ≤ ·) && endsMark after then
      let length := lead + withBlank run after
      some (length, t.take lead ++ '\\' :: (t.take length).drop lead)
    else none

/-- The number of a list item by itself, with a backslash before the sign that ends it. -/
def itemAlone (atStart : Bool) (t : Text) : Option (Nat × Text) :=
  (marksFrom atStart t).findSome? fun lead =>
    let rest : Text := t.drop lead
    let digits := (rest.takeWhile isAsciiDigit).length
    match rest.drop digits with
    | c :: after =>
      if 0 < digits && digits ≤ 9 && (c = '.' || c = ')') && endsMark after then
        let length := lead + withBlank (digits + 1) after
        some (length, t.take (lead + digits) ++ '\\' :: (t.take length).drop (lead + digits))
      else none
    | [] => none

/-- Escapes all characters that Markdown could take as marks. -/
def escapeMarks (t : Text) : Text :=
  let chars := t.flatMap fun c => if isMarkChar c then ['\\', c] else [c]
  let dashes := Text.replaceFound (runAlone '-' none) true 0 chars
  let hashes := Text.replaceFound (runAlone '#' (some 6)) true 0 dashes
  Text.replaceFound itemAlone true 0 hashes

/-- Escapes what the options ask for. -/
def escapeText (o : MarkdownOptions) (t : Text) : Text :=
  let t := if o.escapeMarks then escapeMarks t else t
  let t := if o.escapeAsterisks then Text.replaceChar '*' ['\\', '*'] t else t
  if o.escapeUnderscores then Text.replaceChar '_' ['\\', '_'] t else t

end PageNotes
