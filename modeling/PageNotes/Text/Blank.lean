import PageNotes.Text.Basic
import PageNotes.Text.CodeRange

/-!
Blank characters: every character that counts as white space in Unicode text, and the four that
count in markup. Trimming and splitting at blanks.

* `isWhitespace_isBlank`: what core calls white space is blank.
-/

namespace PageNotes

/-- White space of every script, the four separators of ASCII included. -/
def blankRanges : CodeRanges := [
  (0x9, 0xD), (0x1C, 0x20), (0x85, 0x85), (0xA0, 0xA0), (0x1680, 0x1680), (0x2000, 0x200A),
  (0x2028, 0x2029), (0x202F, 0x202F), (0x205F, 0x205F), (0x3000, 0x3000)]

/-- White space in Unicode text. -/
def isBlank (c : Char) : Bool := blankRanges.contains c.toNat

/-- Space, tabulator and the two line ends: the white space of Markdown. -/
def isMarkupSpace (c : Char) : Bool := c = ' ' || c = '\t' || c = '\r' || c = '\n'

theorem isWhitespace_isBlank {c : Char} (h : c.isWhitespace = true) : isBlank c = true := by
  simp only [Char.isWhitespace, Bool.or_eq_true, decide_eq_true_eq] at h
  rcases h with ((rfl | rfl) | rfl) | rfl <;> decide

namespace Text

/-- Drops the blanks at both ends. -/
abbrev strip (t : Text) : Text := trim isBlank t

/-- Drops the blanks at the start. -/
abbrev stripStart (t : Text) : Text := trimStart isBlank t

/-- Drops the blanks at the end. -/
abbrev stripEnd (t : Text) : Text := trimEnd isBlank t

/-- Whether nothing but blanks stands in the text. -/
def allBlank (t : Text) : Bool := t.all isBlank

/-- The words between blanks. -/
abbrev blankWords (t : Text) : List Text := words isBlank t

end Text

end PageNotes
