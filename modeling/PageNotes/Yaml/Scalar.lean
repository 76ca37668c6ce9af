import PageNotes.Yaml.Token

/-!
Scalars of YAML text: plain ones, those between quotes, and blocks of lines. Line ends inside a
plain or quoted scalar are folded to spaces.

* `Yaml.plainScalar`, `Yaml.quotedScalar?`, `Yaml.blockScalar?`: the content of a scalar and what
  follows it.
-/

namespace PageNotes.Yaml

/-! ### Line ends -/

/-- A line end and the empty lines behind it, folded. -/
def foldBreaks (first more : Text) : Text :=
  if first ≠ ['\n'] then first ++ more else if more.isEmpty then [' '] else more

/-! ### Plain scalars -/

/-- Whether a plain scalar ends before a character and what follows it. -/
def endsPlain (inFlow : Bool) (c : Char) (t : Text) : Bool :=
  isSpace c || c = ':' && (endsBefore t || inFlow && t.head?.any (",[]\x7b\x7d".toList.contains ·))
    || inFlow && ",?[]\x7b\x7d".toList.contains c

/-- The length of a piece of a plain scalar. -/
def plainLength (inFlow : Bool) : Text → Nat
  | [] => 0
  | c :: t => if endsPlain inFlow c t then 0 else plainLength inFlow t + 1

/-- Line ends and the spaces before lines inside a plain scalar; none before a mark between
documents. -/
def plainBreaks (fuel : Nat) (c : Cursor) (breaks : Text) : Option Text × Cursor :=
  match fuel with
  | 0 => (some breaks, c)
  | fuel + 1 =>
    if c.head? = some ' ' then plainBreaks fuel c.next breaks
    else if c.head?.any isBreak then
      let (b, c) := c.takeBreak
      if c.atDocumentMark then (none, c) else plainBreaks fuel c (breaks ++ b)
    else (some breaks, c)

/-- The spaces between pieces of a plain scalar, folded, and whether a line ended; empty where the
scalar ends. -/
def plainSpaces (c : Cursor) : Text × Cursor × Bool :=
  let spaces := c.rest.takeWhile (· = ' ')
  let c := c.skip spaces.length
  if c.head?.any isBreak then
    let (first, c) := c.takeBreak
    if c.atDocumentMark then ([], c, true)
    else match plainBreaks (c.rest.length + 1) c [] with
      | (some more, c) => (foldBreaks first more, c, true)
      | (none, c) => ([], c, true)
  else (spaces, c, false)

/-- A plain scalar, and whether a line ended behind it. -/
structure PlainScalar where
  content : Text
  cursor : Cursor
  lineEnded : Bool

/-- A plain scalar from some piece on; `pending` stands for the spaces before the piece. -/
def plainFrom (inFlow : Bool) (indent : Int) (fuel : Nat) (c : Cursor) (content pending : Text)
    (lineEnded : Bool) : PlainScalar :=
  match fuel with
  | 0 => ⟨content, c, lineEnded⟩
  | fuel + 1 =>
    let length := if c.head? = some '#' then 0 else plainLength inFlow c.rest
    if length = 0 then ⟨content, c, lineEnded⟩
    else
      let content := content ++ pending ++ c.rest.take length
      let (spaces, c, lineEnded) := plainSpaces (c.skip length)
      if spaces.isEmpty || c.head? = some '#' || (!inFlow && (c.column : Int) < indent) then
        ⟨content, c, lineEnded⟩
      else plainFrom inFlow indent fuel c content spaces lineEnded

/-- A plain scalar in a block with some indentation. -/
def plainScalar (inFlow : Bool) (indent : Int) (c : Cursor) : PlainScalar :=
  plainFrom inFlow (indent + 1) (c.rest.length + 1) c [] [] false

/-! ### Quoted scalars -/

/-- Line ends and the spaces around them inside a quoted scalar. -/
def quotedBreaks? (fuel : Nat) (c : Cursor) (breaks : Text) : Option (Text × Cursor) :=
  match fuel with
  | 0 => none
  | fuel + 1 =>
    if c.atDocumentMark then none
    else
      let c := c.skipWhile fun ch => ch = ' ' || ch = '\t'
      if c.head?.any isBreak then
        let (b, c) := c.takeBreak
        quotedBreaks? fuel c (breaks ++ b)
      else some (breaks, c)

/-- Spaces and line ends inside a quoted scalar, folded. -/
def quotedSpaces? (c : Cursor) : Option (Text × Cursor) :=
  let spaces := c.rest.takeWhile fun ch => ch = ' ' || ch = '\t'
  let c := c.skip spaces.length
  match c.head? with
  | none => none
  | some ch =>
    if isBreak ch then
      let (first, c) := c.takeBreak
      (quotedBreaks? (c.rest.length + 1) c []).map fun (more, c) => (foldBreaks first more, c)
    else some (spaces, c)

/-- The character that a letter stands for behind a backslash. -/
def escapedChar? : Char → Option Char
  | '0' => some '\x00' | 'a' => some '\x07' | 'b' => some '\x08' | 't' => some '\t'
  | '\t' => some '\t' | 'n' => some '\n' | 'v' => some '\x0b' | 'f' => some '\x0c'
  | 'r' => some '\r' | 'e' => some '\x1b' | ' ' => some ' ' | '"' => some '"'
  | '\\' => some '\\' | '/' => some '/' | 'N' => some '\x85' | '_' => some '\xa0'
  | 'L' => some '\u2028' | 'P' => some '\u2029' | _ => none

/-- The number of digits behind a letter for a character by its number. -/
def escapeDigits? : Char → Option Nat
  | 'x' => some 2 | 'u' => some 4 | 'U' => some 8 | _ => none

/-- The value of a hexadecimal digit. -/
def hexDigit? (c : Char) : Option Nat :=
  if isAsciiDigit c then some (c.toNat - 0x30)
  else if 'a' ≤ c && c ≤ 'f' then some (c.toNat - 0x61 + 10)
  else if 'A' ≤ c && c ≤ 'F' then some (c.toNat - 0x41 + 10)
  else none

/-- The number of exactly `count` hexadecimal digits. -/
def hexNumber? : Nat → Text → Option Nat
  | 0, _ => some 0
  | _ + 1, [] => none
  | count + 1, c :: t =>
    match hexDigit? c, hexNumber? count t with
    | some d, some n => some (d * Nat.pow 16 count + n)
    | _, _ => none

/-- What stands behind a backslash. -/
def escape? (c : Cursor) : Option (Text × Cursor) :=
  match c.rest with
  | [] => none
  | ch :: rest =>
    match escapedChar? ch with
    | some d => some ([d], c.next)
    | none =>
      match escapeDigits? ch with
      | some count =>
        match hexNumber? count rest with
        | some n => if n.isValidChar then some ([Char.ofNat n], c.skip (count + 1)) else none
        | none => none
      | none => if isBreak ch then quotedBreaks? (rest.length + 2) c.takeBreak.2 [] else none

/-- The content of a scalar between quotes from some place on. -/
def quotedFrom? (double : Bool) (fuel : Nat) (c : Cursor) (content : Text) :
    Option (Text × Cursor) :=
  match fuel with
  | 0 => none
  | fuel + 1 =>
    match c.rest with
    | [] => none
    | ch :: rest =>
      if double && ch = '"' then some (content, c.next)
      else if !double && ch = '\'' then
        if rest.head? = some '\'' then quotedFrom? double fuel (c.skip 2) (content ++ ['\''])
        else some (content, c.next)
      else if double && ch = '\\' then
        match escape? c.next with
        | some (part, c) => quotedFrom? double fuel c (content ++ part)
        | none => none
      else if isSpace ch then
        match quotedSpaces? c with
        | some (part, c) => quotedFrom? double fuel c (content ++ part)
        | none => none
      else quotedFrom? double fuel c.next (content ++ [ch])

/-- A scalar that begins with a quote. -/
def quotedScalar? (double : Bool) (c : Cursor) : Option (Text × Cursor) :=
  quotedFrom? double (c.rest.length + 1) c.next []

/-! ### Blocks of lines -/

/-- What becomes of the line ends at the end of a block. -/
inductive Chomping where
  | strip
  | clip
  | keep
  deriving DecidableEq

/-- The sign for line ends behind the mark of a block. -/
def chomping? : Option Char → Option Chomping
  | some '+' => some .keep
  | some '-' => some .strip
  | _ => none

/-- The number for the indentation behind the mark of a block; zero is none. -/
def increment? : Option Char → Option Nat
  | some c => if isAsciiDigit c then some (c.toNat - 0x30) else none
  | none => none

/-- The signs behind the mark of a block, in either order. -/
def blockSigns? (c : Cursor) : Option (Chomping × Option Nat × Cursor) :=
  let (chomping, increment, c) := match chomping? c.head? with
    | some chomping =>
      match increment? c.next.head? with
      | some n => (chomping, some n, c.skip 2)
      | none => (chomping, none, c.next)
    | none =>
      match increment? c.head? with
      | some n =>
        match chomping? c.next.head? with
        | some chomping => (chomping, some n, c.skip 2)
        | none => (.clip, some n, c.next)
      | none => (.clip, none, c)
  if increment = some 0 || !(lineEndsBefore c.rest || c.head? = some ' ') then none
  else some (chomping, increment, c)

/-- The empty lines before a block and the greatest indentation among them and the first line. -/
def blockIndentation (fuel : Nat) (c : Cursor) (breaks : Text) (widest : Nat) :
    Text × Nat × Cursor :=
  match fuel with
  | 0 => (breaks, widest, c)
  | fuel + 1 =>
    if c.head? = some ' ' then
      let c := c.next
      blockIndentation fuel c breaks (max widest c.column)
    else if c.head?.any isBreak then
      let (b, c) := c.takeBreak
      blockIndentation fuel c (breaks ++ b) widest
    else (breaks, widest, c)

/-- Past the spaces up to a column. -/
def toColumn (column : Int) (fuel : Nat) (c : Cursor) : Cursor :=
  match fuel with
  | 0 => c
  | fuel + 1 =>
    if (c.column : Int) < column && c.head? = some ' ' then toColumn column fuel c.next else c

/-- The empty lines before a line of a block, and the indentation of the line. -/
def blockBreaks (column : Int) (fuel : Nat) (c : Cursor) (breaks : Text) : Text × Cursor :=
  match fuel with
  | 0 => (breaks, c)
  | fuel + 1 =>
    let c := toColumn column (c.rest.length + 1) c
    if c.head?.any isBreak then
      let (b, c) := c.takeBreak
      blockBreaks column fuel c (breaks ++ b)
    else (breaks, c)

/-- The lines of a block from some line on: the content, the last line end, the empty lines behind
it. -/
def blockLines (folded : Bool) (column : Int) (fuel : Nat) (c : Cursor)
    (content lineEnd breaks : Text) : Text × Text × Text × Cursor :=
  match fuel with
  | 0 => (content, lineEnd, breaks, c)
  | fuel + 1 =>
    if (c.column : Int) = column && !c.rest.isEmpty then
      let plain := !c.head?.any fun ch => ch = ' ' || ch = '\t'
      let line := c.rest.takeWhile (!isBreak ·)
      let content := content ++ breaks ++ line
      let (lineEnd, c) := (c.skip line.length).takeBreak
      let (breaks, c) := blockBreaks column (c.rest.length + 1) c []
      if (c.column : Int) = column && !c.rest.isEmpty then
        let joined := folded && lineEnd = ['\n'] && plain
          && !c.head?.any fun ch => ch = ' ' || ch = '\t'
        let between := if joined then (if breaks.isEmpty then [' '] else []) else lineEnd
        blockLines folded column fuel c (content ++ between) lineEnd breaks
      else (content, lineEnd, breaks, c)
    else (content, lineEnd, breaks, c)

/-- A block of lines, whose mark stands here, in a block with some indentation. -/
def blockScalar? (folded : Bool) (indent : Int) (c : Cursor) : Option (Text × Cursor) :=
  match blockSigns? c.next with
  | none => none
  | some (chomping, increment, c) =>
    match c.takeEmptyLine? with
    | none => none
    | some c =>
      let least := max 1 (indent + 1)
      let (column, breaks, c) := match increment with
        | none =>
          let (breaks, widest, c) := blockIndentation (c.rest.length + 1) c [] 0
          (max least (widest : Int), breaks, c)
        | some n =>
          let column := least + (n : Int) - 1
          let (breaks, c) := blockBreaks column (c.rest.length + 1) c []
          (column, breaks, c)
      let (content, lineEnd, breaks, c) :=
        blockLines folded column (c.rest.length + 1) c [] [] breaks
      some (content ++ (if chomping = .strip then [] else lineEnd)
        ++ (if chomping = .keep then breaks else []), c)

end PageNotes.Yaml
