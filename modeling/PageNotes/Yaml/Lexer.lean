import PageNotes.Yaml.Tag

/-!
YAML text as tokens. A key of a mapping is known only by the colon behind it, so the lexer keeps
the places where a key may have begun, one for each depth of brackets, and puts the tokens of the
key there when the colon comes. Blocks begin and end as the column of their lines grows and
shrinks.

* `Yaml.Lexer.step?`: takes the next token;
* `Yaml.tokens?`: all tokens of a text, or none if it is malformed.
-/

namespace PageNotes.Yaml

/-- A place where a key of a mapping may have begun: how many tokens stand before it, and whether
it must be one. -/
structure PossibleKey where
  position : Nat
  required : Bool
  index : Nat
  line : Nat
  column : Nat

/-- The lexer: where it stands, the tokens it has taken from the newest on, how many brackets are
open, the columns of the open blocks from the innermost on, whether a key may begin here, and the
possible keys with the depth of brackets they stand in. -/
structure Lexer where
  cursor : Cursor
  tokens : List Token := []
  depth : Nat := 0
  columns : List Nat := []
  keyAllowed : Bool := true
  keys : List (Nat × PossibleKey) := []

namespace Lexer

/-- The most characters that a key may have that no sign announces. -/
def keyLimit : Nat := 1024

/-! ### Tokens -/

/-- Takes a token that ends at a place. -/
def take (l : Lexer) (token : Token) (cursor : Cursor) : Lexer :=
  { l with tokens := token :: l.tokens, cursor }

/-- Puts tokens behind a number of tokens. -/
def insertAt (l : Lexer) (position : Nat) (new : List Token) : Lexer :=
  let newer := l.tokens.length - position
  { l with tokens := l.tokens.take newer ++ new.reverse ++ l.tokens.drop newer }

/-! ### Blocks -/

/-- The column of the innermost block; before the first column if none is open. -/
def indent (l : Lexer) : Int :=
  match l.columns with
  | [] => -1
  | column :: _ => column

/-- Ends the blocks whose column is beyond one; between brackets there are none. -/
def unwind (l : Lexer) (column : Int) : Lexer :=
  if l.depth ≠ 0 then l
  else
    let ended := l.columns.takeWhile fun (own : Nat) => column < (own : Int)
    { l with
      columns := l.columns.drop ended.length
      tokens := ended.map (fun _ => Token.blockEnd) ++ l.tokens }

/-- Begins a block before some token if the column is beyond that of the innermost one. -/
def beginBlock (l : Lexer) (token : Token) (column position : Nat) : Lexer :=
  if l.depth = 0 && l.indent < (column : Int) then
    insertAt { l with columns := column :: l.columns } position [token]
  else l

/-! ### Possible keys -/

/-- Forgets the possible key of this depth; malformed if it had to be one. -/
def dropKey? (l : Lexer) : Option Lexer :=
  match l.keys.lookup l.depth with
  | some key =>
    if key.required then none
    else some { l with keys := l.keys.filter fun (depth, _) => depth ≠ l.depth }
  | none => some l

/-- Keeps this place as a possible key. -/
def saveKey? (l : Lexer) : Option Lexer :=
  if l.keyAllowed then
    let c := l.cursor
    let required := l.depth = 0 && l.indent = (c.column : Int)
    let key : PossibleKey := ⟨l.tokens.length, required, c.index, c.line, c.column⟩
    l.dropKey?.map fun l => { l with keys := (l.depth, key) :: l.keys }
  else some l

/-- Whether a place is too far behind to be that of a key. -/
def isStale (l : Lexer) (key : PossibleKey) : Bool :=
  key.line ≠ l.cursor.line || keyLimit < l.cursor.index - key.index

/-- Forgets the places that are too far behind; malformed if one had to be that of a key. -/
def dropStaleKeys? (l : Lexer) : Option Lexer :=
  if l.keys.any fun (_, key) => l.isStale key && key.required then none
  else some { l with keys := l.keys.filter fun (_, key) => !l.isStale key }

/-! ### Between tokens -/

/-- Past spaces, comments and line ends; a key may begin on a new line. -/
def skipSpaces (fuel : Nat) (l : Lexer) : Lexer :=
  match fuel with
  | 0 => l
  | fuel + 1 =>
    let c := l.cursor.skipWhile (· = ' ')
    let c := if c.head? = some '#' then c.skipWhile (!isBreak ·) else c
    if c.head?.any isBreak then
      skipSpaces fuel { l with cursor := c.takeBreak.2, keyAllowed := l.keyAllowed || l.depth = 0 }
    else { l with cursor := c }

/-- Past what stands before the next token, and past a byte order mark at the start. -/
def skipToToken (l : Lexer) : Lexer :=
  let c := l.cursor
  let c := if c.index = 0 && c.head? = some '\uFEFF' then c.next else c
  skipSpaces (c.rest.length + 1) { l with cursor := c }

/-! ### Kinds of tokens -/

/-- Takes a sign of one character. -/
def sign (l : Lexer) (token : Token) : Lexer := l.take token l.cursor.next

/-- Takes something at the first column that stands outside all blocks. -/
def outside? (l : Lexer) (found : Option (Token × Cursor)) : Option Lexer :=
  match (l.unwind (-1)).dropKey?, found with
  | some l, some (token, c) => some ({ l with keyAllowed := false }.take token c)
  | _, _ => none

/-- Takes something that a key may be. -/
def word? (l : Lexer) (found : Option (Token × Cursor)) : Option Lexer :=
  match l.saveKey?, found with
  | some l, some (token, c) => some ({ l with keyAllowed := false }.take token c)
  | _, _ => none

/-- Takes an opening bracket, which a key may begin with. -/
def openBracket? (l : Lexer) (token : Token) : Option Lexer :=
  l.saveKey?.map fun l => { l with depth := l.depth + 1, keyAllowed := true }.sign token

/-- Takes a closing bracket. -/
def closeBracket? (l : Lexer) (token : Token) : Option Lexer :=
  l.dropKey?.map fun l => { l with depth := l.depth - 1, keyAllowed := false }.sign token

/-- Takes a sign that begins an item, a key or a value of a block of its own. -/
def announce? (l : Lexer) (block token : Token) (keyAllowed : Bool) : Option Lexer :=
  if l.depth = 0 && !l.keyAllowed then none
  else
    let l := l.beginBlock block l.cursor.column l.tokens.length
    (dropKey? { l with keyAllowed }).map fun l => l.sign token

/-- Takes the colon behind a key: the key begins at the possible place of this depth if there is
one, and a block may begin there. -/
def colon? (l : Lexer) : Option Lexer :=
  match l.keys.lookup l.depth with
  | some key =>
    let l := { l with keys := l.keys.filter fun (depth, _) => depth ≠ l.depth }
    let l := (l.insertAt key.position [.key]).beginBlock .blockMapping key.column key.position
    some ({ l with keyAllowed := false }.sign .value)
  | none => l.announce? .blockMapping .value (l.depth = 0)

/-- Takes a block of lines. -/
def lines? (l : Lexer) (folded : Bool) : Option Lexer :=
  (dropKey? { l with keyAllowed := true }).bind fun l =>
    (blockScalar? folded l.indent l.cursor).map fun (content, c) =>
      l.take (.scalar false content) c

/-- Takes a plain scalar; a key may begin behind it if its line has ended. -/
def plain? (l : Lexer) : Option Lexer :=
  l.saveKey?.map fun l =>
    let scalar := plainScalar (l.depth ≠ 0) l.indent l.cursor
    { l with keyAllowed := scalar.lineEnded }.take (.scalar true scalar.content) scalar.cursor

/-! ### The next token -/

/-- Whether a plain scalar may begin here. -/
def atPlain (l : Lexer) : Bool :=
  match l.cursor.rest with
  | [] => false
  | c :: rest =>
    !(isSpace c || "-?:,[]\x7b\x7d#&*!|>'\"%@\x60".toList.contains c)
      || (!endsBefore rest && (c = '-' || l.depth = 0 && (c = '?' || c = ':')))

/-- Takes the token that begins here; the blocks that end before it have ended. -/
def takeNext? (l : Lexer) : Option Lexer :=
  let c := l.cursor
  match c.rest with
  | [] => l.outside? (some (.finish, c))
  | ch :: rest =>
    let ends := endsBefore rest
    let bracketed := l.depth ≠ 0
    let atMark := c.column = 0 && c.atDocumentMark
    if ch = '%' && c.column = 0 then l.outside? (directive? c)
    else if ch = '-' && atMark then l.outside? (some (.documentStart, c.skip 3))
    else if ch = '.' && atMark then l.outside? (some (.documentEnd, c.skip 3))
    else if ch = '[' then l.openBracket? .openSequence
    else if ch = '\x7b' then l.openBracket? .openMapping
    else if ch = ']' then l.closeBracket? .closeSequence
    else if ch = '\x7d' then l.closeBracket? .closeMapping
    else if ch = ',' then (dropKey? { l with keyAllowed := true }).map fun l => l.sign .comma
    else if ch = '-' && ends then l.announce? .blockSequence .dash true
    else if ch = '?' && (bracketed || ends) then l.announce? .blockMapping .key (!bracketed)
    else if ch = ':' && (bracketed || ends) then l.colon?
    else if ch = '*' then l.word? ((name? c).map fun (name, c) => (.alias name, c))
    else if ch = '&' then l.word? ((name? c).map fun (name, c) => (.anchor name, c))
    else if ch = '!' then l.word? (tag? c)
    else if ch = '|' && !bracketed then l.lines? false
    else if ch = '>' && !bracketed then l.lines? true
    else if ch = '\'' || ch = '"' then
      l.word? ((quotedScalar? (ch = '"') c).map fun (content, c) => (.scalar false content, c))
    else if l.atPlain then l.plain?
    else none

/-- Takes the next token and what follows from where it stands. -/
def step? (l : Lexer) : Option Lexer :=
  l.skipToToken.dropStaleKeys?.bind fun l => (l.unwind l.cursor.column).takeNext?

/-- Takes the rest of the tokens. -/
def run? (fuel : Nat) (l : Lexer) : Option (List Token) :=
  match fuel with
  | 0 => none
  | fuel + 1 =>
    match l.step? with
    | none => none
    | some l => if l.tokens.head? = some .finish then some l.tokens.reverse else run? fuel l

end Lexer

/-- The tokens of a text; none if the text is malformed. -/
def tokens? (t : Text) : Option (List Token) :=
  if t.all isAllowed then Lexer.run? (t.length + 1) { cursor := .start t } else none

end PageNotes.Yaml
