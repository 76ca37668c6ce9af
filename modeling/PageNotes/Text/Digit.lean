import PageNotes.Text.Basic
import PageNotes.Text.NumericTable
import PageNotes.Text.AlphanumericTable

/-!
Digits and word characters of every script.

* `digitValue?`: the value of a decimal digit;
* `isNumeric`: characters that denote a number without being digits;
* `isWord`: what an identifier in a link or a file name may hold.
-/

namespace PageNotes

/-- The value of a decimal digit, looked for among the runs of ten that start at a zero. -/
def digitValue? (c : Char) : Option Nat :=
  (decimalZeros.find? fun first => first ≤ c.toNat && c.toNat ≤ first + 9).map (c.toNat - ·)

/-- A decimal digit of some script. -/
def isDigit (c : Char) : Bool := (digitValue? c).isSome

/-- A digit from 0 to 9. -/
def isAsciiDigit (c : Char) : Bool := '0' ≤ c && c ≤ '9'

/-- Digits that are no decimal digits: superscripts, subscripts, and digits in circles and the
like. -/
def digitSignRanges : CodeRanges := [
  (0xB2, 0xB3), (0xB9, 0xB9), (0x1369, 0x1371), (0x19DA, 0x19DA), (0x2070, 0x2070),
  (0x2074, 0x2079), (0x2080, 0x2089), (0x2460, 0x2468), (0x2474, 0x247C), (0x2488, 0x2490),
  (0x24EA, 0x24EA), (0x24F5, 0x24FD), (0x24FF, 0x24FF), (0x2776, 0x277E), (0x2780, 0x2788),
  (0x278A, 0x2792), (0x10A40, 0x10A43), (0x10E60, 0x10E68), (0x11052, 0x1105A),
  (0x1F100, 0x1F10A)]

/-- A digit, in a number or as a sign of its own. -/
def isDigitSign (c : Char) : Bool := isDigit c || digitSignRanges.contains c.toNat

/-- A character that denotes a number. -/
def isNumeric (c : Char) : Bool := numericRanges.contains c.toNat

/-- A letter or a number. -/
def isAlphanumeric (c : Char) : Bool := alphanumericRanges.contains c.toNat

/-- A letter, a number or the underscore. -/
def isWord (c : Char) : Bool := isAlphanumeric c || c = '_'

/-- A letter of ASCII. -/
def isAsciiLetter (c : Char) : Bool := ('a' ≤ c && c ≤ 'z') || ('A' ≤ c && c ≤ 'Z')

/-- The ASCII letters in lower case, all else as it is. -/
def Text.asciiLower (t : Text) : Text := t.map Char.toLower

end PageNotes
