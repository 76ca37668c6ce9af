import PageNotes.Text.Blank
import PageNotes.Text.Digit
import PageNotes.Text.LetterCase
import PageNotes.Text.Quoted
import PageNotes.Numeric.Binary64

/-!
Numbers read from text: blanks around them, a sign, digits of any script, and single underscores
between the digits.

* `readInteger`: an integer in some base, or what is wrong with the text;
* `Binary64.read`: the floating-point number nearest to a decimal.
-/

namespace PageNotes

/-- What is wrong with the text of a number. -/
inductive NumberError where
  /-- No integer in some base. -/
  | noInteger (base : Nat) (t : Text)
  /-- More decimal digits than can be read. -/
  | tooManyDigits (count : Nat)
  /-- No number. -/
  | noNumber (t : Text)
  deriving DecidableEq, Repr

/-- The most decimal digits that the text of an integer may have. -/
def integerDigitLimit : Nat := 4300

/-- Whether an integer has more decimal digits than its text may have. -/
def isLongInteger (n : Int) : Bool := Nat.pow 10 integerDigitLimit ≤ n.natAbs

/-- The words for an integer that is too long for a text. -/
def longIntegerMessage : String :=
  s!"Exceeds the limit ({integerDigitLimit} digits) for integer string conversion; " ++
    "use sys.set_int_max_str_digits() to increase the limit"

/-- The words for what is wrong. -/
def NumberError.message : NumberError → String
  | .noInteger base t => s!"invalid literal for int() with base {base}: {String.ofList t.quoted}"
  | .tooManyDigits count =>
    s!"Exceeds the limit ({integerDigitLimit} digits) for integer string conversion: value has " ++
      s!"{count} digits; use sys.set_int_max_str_digits() to increase the limit"
  | .noNumber t => s!"could not convert string to float: {String.ofList t.quoted}"

/-! ### Digits -/

/-- The value of a digit or of a letter that stands for one. -/
def anyDigitValue? (c : Char) : Option Nat :=
  match digitValue? c with
  | some d => some d
  | none =>
    if 'a' ≤ c && c ≤ 'z' then some (c.toNat - 0x61 + 10)
    else if 'A' ≤ c && c ≤ 'Z' then some (c.toNat - 0x41 + 10)
    else none

/-- The value of a digit in some base. -/
def digitIn? (base : Nat) (c : Char) : Option Nat := (anyDigitValue? c).filter (· < base)

/-- The values of digits with single underscores between them; `start` before the first digit and
behind an underscore. -/
def readDigits (base : Nat) (start : Bool) : Text → Option (List Nat)
  | [] => if start then none else some []
  | c :: t =>
    if c = '_' && !start then readDigits base true t
    else match digitIn? base c with
      | some d => (readDigits base false t).map (d :: ·)
      | none => none

/-- The number with these digits. -/
def ofDigits (base : Nat) (ds : List Nat) : Nat := ds.foldl (fun n d => n * base + d) 0

/-- The number with these digits in base ten, if they are not too many. -/
def ofDecimalDigits (ds : List Nat) : Except NumberError Nat :=
  if integerDigitLimit < ds.length then .error (.tooManyDigits ds.length) else .ok (ofDigits 10 ds)

/-! ### Integers -/

/-- Blanks that may stand around a number: all but the separators of ASCII. -/
def isNumberSpace (c : Char) : Bool := isBlank c && !(0x1C ≤ c.toNat && c.toNat ≤ 0x1F)

/-- Whether a number is negative, and its text without the sign. -/
def takeSign : Text → Bool × Text
  | '-' :: rest => (true, rest)
  | '+' :: rest => (false, rest)
  | rest => (false, rest)

/-- The letter that may announce a base behind a zero. -/
def baseLetter? : Nat → Option Char
  | 2 => some 'b'
  | 8 => some 'o'
  | 16 => some 'x'
  | _ => none

/-- Digits without what announces the base; an underscore may stand behind it. -/
def dropBase (base : Nat) : Text → Text
  | '0' :: letter :: rest =>
    if baseLetter? base = some letter.toLower then
      if rest.head? = some '_' then rest.drop 1 else rest
    else '0' :: letter :: rest
  | t => t

/-- The integer that a text denotes in some base. -/
def readInteger (base : Nat) (t : Text) : Except NumberError Int :=
  let (negative, digits) := takeSign (t.trim isNumberSpace)
  match readDigits base true (dropBase base digits) with
  | none => .error (.noInteger base t)
  | some ds =>
    let size := if base = 10 then ofDecimalDigits ds else .ok (ofDigits base ds)
    size.map fun n => if negative then -(Int.ofNat n) else Int.ofNat n

/-! ### Floating-point numbers -/

/-- Digits in base ten, or none at all. -/
def readFraction (t : Text) : Option (List Nat) :=
  if t.isEmpty then some [] else readDigits 10 true t

/-- The exponent behind its letter; zero if there is no letter. -/
def readExponent : Option Text → Option Int
  | none => some 0
  | some t =>
    let (negative, digits) := takeSign t
    (readDigits 10 true digits).map fun ds =>
      if negative then -(Int.ofNat (ofDigits 10 ds)) else Int.ofNat (ofDigits 10 ds)

namespace Binary64

/-- A decimal without sign: digits with a point among them, and an exponent. -/
def readDecimal? (negative : Bool) (t : Text) : Option Binary64 :=
  let (digits, exponent) := Text.cut 'e' t
  let (whole, fraction) := Text.cut '.' digits
  match readFraction whole, readFraction (fraction.getD []), readExponent exponent with
  | some whole, some fraction, some e =>
    let ds := whole ++ fraction
    if ds.isEmpty then none else some (ofDecimal negative (ofDigits 10 ds) (e - fraction.length))
  | _, _, _ => none

/-- The number that a text denotes. -/
def read (t : Text) : Except NumberError Binary64 :=
  let (negative, size) := takeSign (t.trim isNumberSpace)
  let size := Text.asciiLower size
  if size = "inf".toList || size = "infinity".toList then .ok (.infinite negative)
  else if size = "nan".toList then .ok .nan
  else match readDecimal? negative size with
    | some x => .ok x
    | none => .error (.noNumber t)

end Binary64

end PageNotes
