import PageNotes.Text.Quoted

/-!
Bytes and the encodings of texts. A text can be written in an encoding that has all its
characters, and bytes can be read that are well formed in it; otherwise the error says where and
why.

* `utf8Encode`, `utf8Decode`: the Unicode encoding, with the first ill-formed bytes as the error;
* `utf8DecodeLossy`: the same with U+FFFD in the place of ill-formed bytes;
* `Encoding.encode`, `Encoding.decode`: these two for any supported encoding.
-/

namespace PageNotes

/-- File contents. -/
abbrev Bytes := List UInt8

/-! ### Errors -/

/-- The encodings of text files. -/
inductive Encoding where
  | utf8
  | ascii
  | latin1
  deriving DecidableEq, Repr

/-- The name of an encoding in messages. -/
def Encoding.name : Encoding → String
  | .utf8 => "utf-8"
  | .ascii => "ascii"
  | .latin1 => "latin-1"

/-- Why bytes are not a text. -/
inductive DecodeCause where
  | invalidStart
  | invalidContinuation
  | unexpectedEnd
  | outOfRange (limit : Nat)
  deriving DecidableEq, Repr

/-- The words for a cause. -/
def DecodeCause.message : DecodeCause → String
  | .invalidStart => "invalid start byte"
  | .invalidContinuation => "invalid continuation byte"
  | .unexpectedEnd => "unexpected end of data"
  | .outOfRange limit => s!"ordinal not in range({limit})"

/-- The first ill-formed bytes: their position, the bytes, and what is wrong with them. -/
structure DecodeError where
  encoding : Encoding
  position : Nat
  bytes : Bytes
  cause : DecodeCause
  deriving DecidableEq, Repr

/-- The first characters that an encoding lacks: their position and the characters. -/
structure EncodeError where
  encoding : Encoding
  position : Nat
  chars : Text
  limit : Nat
  deriving DecidableEq, Repr

/-- The words for ill-formed bytes. -/
def DecodeError.message (e : DecodeError) : String :=
  let place := match e.bytes with
    | [b] => s!"byte 0x{String.ofList (Text.ofHex 2 b.toNat)} in position {e.position}"
    | bytes => s!"bytes in position {e.position}-{e.position + bytes.length - 1}"
  s!"'{e.encoding.name}' codec can't decode {place}: {e.cause.message}"

/-- The escape of a character by its number. -/
def codeEscape (c : Char) : String :=
  String.ofList (if c.toNat < 0x100 then '\\' :: 'x' :: Text.ofHex 2 c.toNat
    else if c.toNat < 0x10000 then '\\' :: 'u' :: Text.ofHex 4 c.toNat
    else '\\' :: 'U' :: Text.ofHex 8 c.toNat)

/-- The words for characters that an encoding lacks. -/
def EncodeError.message (e : EncodeError) : String :=
  let place := match e.chars with
    | [c] => s!"character '{codeEscape c}' in position {e.position}"
    | chars => s!"characters in position {e.position}-{e.position + chars.length - 1}"
  s!"'{e.encoding.name}' codec can't encode {place}: ordinal not in range({e.limit})"

/-! ### The Unicode encoding -/

/-- The bytes of a character. -/
def utf8Bytes (c : Char) : Bytes :=
  let n := c.toNat
  if n < 0x80 then [n.toUInt8]
  else if n < 0x800 then [(0xC0 + n / 0x40).toUInt8, (0x80 + n % 0x40).toUInt8]
  else if n < 0x10000 then
    [(0xE0 + n / 0x1000).toUInt8, (0x80 + n / 0x40 % 0x40).toUInt8, (0x80 + n % 0x40).toUInt8]
  else
    [(0xF0 + n / 0x40000).toUInt8, (0x80 + n / 0x1000 % 0x40).toUInt8,
      (0x80 + n / 0x40 % 0x40).toUInt8, (0x80 + n % 0x40).toUInt8]

/-- The bytes of a text. -/
def utf8Encode (t : Text) : Bytes := t.flatMap utf8Bytes

/-- A byte that continues a character. -/
def isTail (b : UInt8) : Bool := 0x80 ≤ b && b < 0xC0

/-- Whether `b` may be the second byte behind the first byte `a`: neither an overlong form, nor a
surrogate, nor beyond the last code point. -/
def isSecond (a b : UInt8) : Bool :=
  isTail b && !(a = 0xE0 && b < 0xA0) && !(a = 0xED && 0xA0 ≤ b) && !(a = 0xF0 && b < 0x90)
    && !(a = 0xF4 && 0x90 ≤ b)

/-- The number that the payload bits of the bytes of a character form. -/
def tailValue (lead : Nat) (tails : Bytes) : Nat :=
  tails.foldl (fun n b => n * 0x40 + (b.toNat - 0x80)) lead

/-- What stands at the start of some bytes. -/
inductive Utf8Step where
  /-- A character of `length` bytes. -/
  | char (c : Char) (length : Nat)
  /-- `length` bytes that begin no character. -/
  | bad (cause : DecodeCause) (length : Nat)

/-- The character or the ill-formed bytes that begin with byte `a`, `rest` following it. -/
def utf8Step (a : UInt8) (rest : Bytes) : Utf8Step :=
  if a < 0x80 then .char (Char.ofNat a.toNat) 1
  else if a < 0xC2 then .bad .invalidStart 1
  else if a < 0xE0 then
    match rest with
    | [] => .bad .unexpectedEnd 1
    | b :: _ =>
      if isTail b then .char (Char.ofNat (tailValue (a.toNat - 0xC0) [b])) 2
      else .bad .invalidContinuation 1
  else if a < 0xF0 then
    match rest with
    | [] => .bad .unexpectedEnd 1
    | [b] => if isSecond a b then .bad .unexpectedEnd 2 else .bad .invalidContinuation 1
    | b :: c :: _ =>
      if !isSecond a b then .bad .invalidContinuation 1
      else if !isTail c then .bad .invalidContinuation 2
      else .char (Char.ofNat (tailValue (a.toNat - 0xE0) [b, c])) 3
  else if a < 0xF5 then
    match rest with
    | [] => .bad .unexpectedEnd 1
    | [b] => if isSecond a b then .bad .unexpectedEnd 2 else .bad .invalidContinuation 1
    | [b, c] =>
      if !isSecond a b then .bad .invalidContinuation 1
      else if !isTail c then .bad .invalidContinuation 2
      else .bad .unexpectedEnd 3
    | b :: c :: d :: _ =>
      if !isSecond a b then .bad .invalidContinuation 1
      else if !isTail c then .bad .invalidContinuation 2
      else if !isTail d then .bad .invalidContinuation 3
      else .char (Char.ofNat (tailValue (a.toNat - 0xF0) [b, c, d])) 4
  else .bad .invalidStart 1

/-- Reads bytes; `skip` of them belong to the step before, `position` counts those passed. -/
def utf8DecodeFrom (skip position : Nat) : Bytes → Except DecodeError Text
  | [] => .ok []
  | a :: rest =>
    match skip with
    | skip + 1 => utf8DecodeFrom skip (position + 1) rest
    | 0 => match utf8Step a rest with
      | .char c length => (utf8DecodeFrom (length - 1) (position + 1) rest).map (c :: ·)
      | .bad cause length => .error ⟨.utf8, position, (a :: rest).take length, cause⟩

/-- The text of well-formed bytes. -/
def utf8Decode (bytes : Bytes) : Except DecodeError Text := utf8DecodeFrom 0 0 bytes

/-- Reads bytes with U+FFFD for ill-formed ones; `skip` of them belong to the step before. -/
def utf8DecodeLossyFrom (skip : Nat) : Bytes → Text
  | [] => []
  | a :: rest =>
    match skip with
    | skip + 1 => utf8DecodeLossyFrom skip rest
    | 0 => match utf8Step a rest with
      | .char c length => c :: utf8DecodeLossyFrom (length - 1) rest
      | .bad _ length => '\uFFFD' :: utf8DecodeLossyFrom (length - 1) rest

/-- The text of any bytes, one U+FFFD for each ill-formed sequence. -/
def utf8DecodeLossy (bytes : Bytes) : Text := utf8DecodeLossyFrom 0 bytes

/-! ### All encodings -/

/-- Writes a text whose characters all lie below `limit`. -/
def encodeBelow (encoding : Encoding) (limit position : Nat) : Text → Except EncodeError Bytes
  | [] => .ok []
  | c :: t =>
    if c.toNat < limit then
      (encodeBelow encoding limit (position + 1) t).map (c.toNat.toUInt8 :: ·)
    else .error ⟨encoding, position, (c :: t).takeWhile (limit ≤ ·.toNat), limit⟩

/-- Reads bytes that are characters below 128. -/
def asciiDecodeFrom (position : Nat) : Bytes → Except DecodeError Text
  | [] => .ok []
  | a :: rest =>
    if a < 0x80 then (asciiDecodeFrom (position + 1) rest).map (Char.ofNat a.toNat :: ·)
    else .error ⟨.ascii, position, [a], .outOfRange 128⟩

/-- The bytes of a text in an encoding. -/
def Encoding.encode : Encoding → Text → Except EncodeError Bytes
  | .utf8, t => .ok (utf8Encode t)
  | .ascii, t => encodeBelow .ascii 128 0 t
  | .latin1, t => encodeBelow .latin1 256 0 t

/-- The text of bytes in an encoding. -/
def Encoding.decode : Encoding → Bytes → Except DecodeError Text
  | .utf8, bytes => utf8Decode bytes
  | .ascii, bytes => asciiDecodeFrom 0 bytes
  | .latin1, bytes => .ok (bytes.map fun b => Char.ofNat b.toNat)

end PageNotes
