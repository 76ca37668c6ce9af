import PageNotes.Text.Digit
import PageNotes.Html.ReferenceTable

/-!
Character references in markup: `&` followed by a name, or by the number of a code point. A name is
read as long as possible. Without a semicolon only the oldest names count, and in an attribute
only where no letter, digit or equals sign follows.

* `characterReference?`: the characters of the reference behind an `&`, and its length;
* `decodeReferences`: a text with its references replaced.
-/

namespace PageNotes

/-! ### References by number -/

/-- What the numbers from 128 to 159 stand for: the characters of a common old encoding. -/
def controlReplacements : List Nat := [
  0x20AC, 0x81, 0x201A, 0x192, 0x201E, 0x2026, 0x2020, 0x2021, 0x2C6, 0x2030, 0x160, 0x2039, 0x152,
  0x8D, 0x17D, 0x8F, 0x90, 0x2018, 0x2019, 0x201C, 0x201D, 0x2022, 0x2013, 0x2014, 0x2DC, 0x2122,
  0x161, 0x203A, 0x153, 0x9D, 0x17E, 0x178]

/-- The character with a number; U+FFFD for numbers that no character has. -/
def numberedCharacter (n : Nat) : Char :=
  if 0x80 ≤ n ∧ n < 0xA0 then Char.ofNat (controlReplacements.getD (n - 0x80) 0xFFFD)
  else if n = 0 ∨ ¬n.isValidChar then '\uFFFD'
  else Char.ofNat n

/-- The value of a hexadecimal digit of ASCII. -/
def hexValue? (c : Char) : Option Nat :=
  if '0' ≤ c && c ≤ '9' then some (c.toNat - 0x30)
  else if 'a' ≤ c && c ≤ 'f' then some (c.toNat - 0x61 + 10)
  else if 'A' ≤ c && c ≤ 'F' then some (c.toNat - 0x41 + 10)
  else none

/-- The number that hexadecimal digits form. -/
def hexNumber (digits : Text) : Nat :=
  digits.foldl (fun n c => n * 16 + (hexValue? c).getD 0) 0

/-- The number that decimal digits of ASCII form. -/
def decimalNumber (digits : Text) : Nat := digits.foldl (fun n c => n * 10 + (c.toNat - 0x30)) 0

/-- One more if a semicolon closes the reference. -/
def withSemicolon (length : Nat) (rest : Text) : Nat :=
  if rest.head? = some ';' then length + 1 else length

/-- The reference by number behind `&#`, and the length of its text from there. -/
def numericReference? (t : Text) : Option (Text × Nat) :=
  match t with
  | 'x' :: rest | 'X' :: rest =>
    let digits := rest.takeWhile fun c => (hexValue? c).isSome
    if digits.isEmpty then none
    else some ([numberedCharacter (hexNumber digits)],
      withSemicolon (digits.length + 1) (rest.drop digits.length))
  | _ =>
    let digits := t.takeWhile isAsciiDigit
    if digits.isEmpty then none
    else some ([numberedCharacter (decimalNumber digits)],
      withSemicolon digits.length (t.drop digits.length))

/-! ### References by name -/

/-- A letter or digit of ASCII. -/
def isAsciiAlphanumeric (c : Char) : Bool := isAsciiLetter c || isAsciiDigit c

/-- The characters with a name. -/
def namedCharacters? (name : Text) : Option Text :=
  match name with
  | [] => none
  | c :: _ =>
    (List.lookup (String.ofList name) (referencesFor c)).map fun codes => codes.map Char.ofNat

/-- The characters with a name that needs no semicolon. -/
def unclosedCharacters? (name : Text) : Option Text :=
  if referencesWithoutSemicolon.contains (String.ofList name) then namedCharacters? name else none

/-- The length of the longest name. -/
def longestName : Nat := 31

/-- The longest name of at most `length` letters at the start that needs no semicolon. -/
def unclosedReference? (inAttribute : Bool) (t : Text) : Nat → Option (Text × Nat)
  | 0 => none
  | length + 1 =>
    match unclosedCharacters? (t.take (length + 1)) with
    | some chars =>
      let next := (t.drop (length + 1)).head?
      if inAttribute && next.any fun c => c = '=' || isAsciiAlphanumeric c then none
      else some (chars, length + 1)
    | none => unclosedReference? inAttribute t length

/-- The reference by name behind `&`, and the length of its text from there. -/
def namedReference? (inAttribute : Bool) (t : Text) : Option (Text × Nat) :=
  let name := (t.take (longestName + 1)).takeWhile isAsciiAlphanumeric
  let closed := if (t.drop name.length).head? = some ';' then namedCharacters? name else none
  match closed with
  | some chars => some (chars, name.length + 1)
  | none => unclosedReference? inAttribute t name.length

/-- The reference behind `&`, and the length of its text from there. -/
def characterReference? (inAttribute : Bool) (t : Text) : Option (Text × Nat) :=
  match t with
  | '#' :: rest => (numericReference? rest).map fun (chars, length) => (chars, length + 1)
  | _ => namedReference? inAttribute t

/-! ### Texts -/

/-- Decodes a text of which `skip` characters belong to the reference before. -/
def decodeReferencesFrom (inAttribute : Bool) (skip : Nat) : Text → Text
  | [] => []
  | c :: t =>
    match skip with
    | skip + 1 => decodeReferencesFrom inAttribute skip t
    | 0 =>
      if c = '&' then
        match characterReference? inAttribute t with
        | some (chars, length) => chars ++ decodeReferencesFrom inAttribute length t
        | none => c :: decodeReferencesFrom inAttribute 0 t
      else c :: decodeReferencesFrom inAttribute 0 t

/-- The text with its character references replaced. -/
def decodeReferences (inAttribute : Bool) (t : Text) : Text :=
  decodeReferencesFrom inAttribute 0 t

end PageNotes
