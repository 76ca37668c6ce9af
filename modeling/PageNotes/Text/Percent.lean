import PageNotes.Text.Utf8
import PageNotes.Html.CharacterReference

/-!
Percent-encoding. A percent sign with two hexadecimal digits stands for a byte; the bytes are read
as Unicode text.

* `percentDecode`: the decoded text, U+FFFD for bytes that form no character;
* `percentEncode`: every byte encoded but those of unreserved characters and the slash.
-/

namespace PageNotes

/-- The bytes of a text whose percent-encoded bytes are decoded. -/
def percentBytes (skip : Nat) : Text → Bytes
  | [] => []
  | c :: t =>
    match skip with
    | skip + 1 => percentBytes skip t
    | 0 =>
      match if c = '%' then (t[0]?.bind hexValue?, t[1]?.bind hexValue?) else (none, none) with
      | (some high, some low) => (16 * high + low).toUInt8 :: percentBytes 2 t
      | _ => utf8Bytes c ++ percentBytes 0 t

/-- The text with its percent-encoded bytes decoded. -/
def percentDecode (t : Text) : Text :=
  if t.has '%' then utf8DecodeLossy (percentBytes 0 t) else t

/-- Characters that stand for themselves in a percent-encoded path. -/
def isUnreserved (c : Char) : Bool :=
  isAsciiAlphanumeric c || c = '-' || c = '.' || c = '_' || c = '~' || c = '/'

/-- An upper-case hexadecimal digit. -/
def hexDigit (n : Nat) : Char := Char.ofNat (if n < 10 then 0x30 + n else 0x41 + (n - 10))

/-- A byte, percent-encoded. -/
def percentByte (b : UInt8) : Text := ['%', hexDigit (b.toNat / 16), hexDigit (b.toNat % 16)]

/-- The percent-encoding of a path. -/
def percentEncode (t : Text) : Text :=
  t.flatMap fun c => if isUnreserved c then [c] else (utf8Bytes c).flatMap percentByte

end PageNotes
