import PageNotes.Text.Basic
import PageNotes.Text.PrintableTable

/-!
Quoted texts, as messages show them: between single quotes, or between double quotes when the
text holds a single quote and no double one. The quote and the backslash get a backslash,
characters that cannot be shown an escape with the digits of their code point.
-/

namespace PageNotes

/-- A character that a quoted text shows as itself. -/
def isPrintable (c : Char) : Bool := printableRanges.contains c.toNat

/-- The lower-case hexadecimal digits of a number, at least `width` of them. -/
def Text.ofHex (width n : Nat) : Text :=
  let digits := Nat.toDigits 16 n
  List.replicate (width - digits.length) '0' ++ digits

/-- One character inside quotes. -/
def quotedChar (quote c : Char) : Text :=
  if c = quote || c = '\\' then ['\\', c]
  else if c = '\n' then ['\\', 'n']
  else if c = '\r' then ['\\', 'r']
  else if c = '\t' then ['\\', 't']
  else if isPrintable c then [c]
  else if c.toNat < 0x100 then '\\' :: 'x' :: Text.ofHex 2 c.toNat
  else if c.toNat < 0x10000 then '\\' :: 'u' :: Text.ofHex 4 c.toNat
  else '\\' :: 'U' :: Text.ofHex 8 c.toNat

/-- The quote that a text is put between. -/
def quoteOf (t : Text) : Char := if t.has '\'' && !t.has '"' then '"' else '\''

/-- The text between quotes. -/
def Text.quoted (t : Text) : Text :=
  quoteOf t :: (t.flatMap (quotedChar (quoteOf t)) ++ [quoteOf t])

end PageNotes
