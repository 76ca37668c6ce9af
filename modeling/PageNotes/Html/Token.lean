import PageNotes.Html.Tree
import PageNotes.Html.CharacterReference

/-!
Tokens of markup: start tags, end tags, texts, comments and document types. The lexer reads one
character at a time, so it is a fold over the text and ends with it.

* `Lexer.step`: what one character does;
* `Token.scan`: the tokens of a text.

Character references are replaced once a text or an attribute value is complete. The content of
some elements is not markup (`ContentKind.of`); it ends at the end tag of the element alone.
-/

namespace PageNotes

/-- A piece of markup. -/
inductive Token where
  | startTag (name : String) (attributes : Attributes)
  | endTag (name : String)
  | text (content : Text)
  | comment (content : Text)
  | doctype (content : Text)
  deriving Repr

/-! ### Content that is not markup -/

/-- How the content of an element is read. -/
inductive ContentKind where
  /-- As markup. -/
  | markup
  /-- As text with character references, to the end tag. -/
  | references
  /-- As it stands, to the end tag. -/
  | verbatim
  /-- As it stands, to an end tag that no comment with a script in it hides. -/
  | script
  /-- As it stands, to the end of the text. -/
  | everything
  deriving DecidableEq, Repr

/-- How the content of an element with this name is read. -/
def ContentKind.of : String → ContentKind
  | "title" | "textarea" => .references
  | "style" | "xmp" | "iframe" | "noembed" | "noframes" => .verbatim
  | "script" => .script
  | "plaintext" => .everything
  | _ => .markup

/-- White space of markup. -/
def isHtmlSpace (c : Char) : Bool :=
  c = ' ' || c = '\t' || c = '\n' || c = '\r' || c = '\x0c'

/-- White space that may stand before the document. -/
def isLeadingSpace (c : Char) : Bool := c = ' ' || c = '\t' || c = '\n' || c = '\r'

/-! ### The lexer -/

/-- A tag of which a part has been read; the attributes stand newest first. -/
structure OpenTag where
  closing : Bool
  name : String
  attributes : Attributes

/-- Adds an attribute; the first of several with one name counts. Name and value stand newest
first. -/
def OpenTag.add (tag : OpenTag) (name value : Text) : OpenTag :=
  let key := String.ofList name.reverse
  if tag.attributes.any (·.1 = key) then tag
  else { tag with attributes := (key, decodeReferences true value.reverse) :: tag.attributes }

/-- Where the lexer stands; the texts that it holds stand newest first. -/
inductive LexerMode where
  | content
  | tagOpen
  | endTagOpen
  | tagName (closing : Bool) (name : Text)
  | inTag (tag : OpenTag)
  | attributeName (tag : OpenTag) (name : Text)
  | afterName (tag : OpenTag) (name : Text)
  | beforeValue (tag : OpenTag) (name : Text)
  | quotedValue (tag : OpenTag) (name : Text) (quote : Char) (value : Text)
  | unquotedValue (tag : OpenTag) (name value : Text)
  | declaration (seen : Text)
  | comment (seen : Text)
  | bogusComment (seen : Text)
  | doctype (seen : Text)
  | raw (kind : ContentKind) (name : String) (depth : Nat) (seen : Text)

/-- The lexer: its mode, the text read since the last token and the tokens, newest first, and
whether nothing but comments and a document type has been read. -/
structure Lexer where
  mode : LexerMode
  pending : Text
  tokens : List Token
  prolog : Bool

/-- The lexer before the first character. -/
def Lexer.start : Lexer := ⟨.content, [], [], true⟩

namespace Lexer

/-- Ends the text read so far. -/
def flush (l : Lexer) : Lexer :=
  if l.pending.isEmpty then l
  else { l with
    pending := [], tokens := .text (decodeReferences false l.pending.reverse) :: l.tokens }

/-- Ends the text and adds a token. -/
def emit (l : Lexer) (token : Token) : Lexer :=
  let l := l.flush
  { l with mode := .content, tokens := token :: l.tokens }

/-- Ends a tag. A start tag may begin content that is not markup. -/
def emitTag (l : Lexer) (tag : OpenTag) : Lexer :=
  if tag.closing then { l.emit (.endTag tag.name) with prolog := false }
  else
    let l := { l.emit (.startTag tag.name tag.attributes.reverse) with prolog := false }
    match ContentKind.of tag.name with
    | .markup => l
    | kind => { l with mode := .raw kind tag.name 0 [] }

/-- Text between tags. -/
def contentStep (l : Lexer) (c : Char) : Lexer :=
  if c = '<' then { l with mode := .tagOpen }
  else if l.prolog && isLeadingSpace c then { l with mode := .content }
  else { l with mode := .content, pending := c :: l.pending, prolog := false }

/-- A comment that ends at the next `>`. -/
def bogusStep (l : Lexer) (seen : Text) (c : Char) : Lexer :=
  if c = '>' then l.emit (.comment seen.reverse) else { l with mode := .bogusComment (c :: seen) }

/-- The content of a comment when a `>` ends it here; `seen` stands newest first. -/
def commentEnd? : Text → Option Text
  | [] => some []
  | ['-'] => some []
  | '-' :: '-' :: seen => some seen.reverse
  | '!' :: '-' :: '-' :: seen => some seen.reverse
  | _ => none

/-- The content of a comment that the end of the text ends. -/
def commentAtEnd : Text → Text
  | '-' :: '-' :: seen => seen.reverse
  | '-' :: seen => seen.reverse
  | '!' :: '-' :: '-' :: seen => seen.reverse
  | seen => seen.reverse

/-- Between the attributes of a tag. -/
def inTagStep (l : Lexer) (tag : OpenTag) (c : Char) : Lexer :=
  if c = '>' then l.emitTag tag
  else if isHtmlSpace c || c = '/' then { l with mode := .inTag tag }
  else { l with mode := .attributeName tag [c.toLower] }

/-- Behind `<!`: a comment, a document type, or else a comment that ends at the next `>`. -/
def declarationStep (l : Lexer) (seen : Text) (c : Char) : Lexer :=
  let now := Text.asciiLower (c :: seen).reverse
  if now = "--".toList then { l with mode := .comment [] }
  else if now = "doctype".toList then { l with mode := .doctype [] }
  else if now.isPrefixOf "--".toList || now.isPrefixOf "doctype".toList then
    { l with mode := .declaration (c :: seen) }
  else { l with prolog := false }.bogusStep seen c

/-! ### Content that ends at an end tag -/

/-- Whether a text that stands newest first ends with `word`, letters compared without case. -/
def endsWithWord (seen : Text) (word : String) : Bool :=
  (word.toList.reverse).isPrefixOf ((seen.take word.length).map Char.toLower)

/-- Ends the content before the end tag of the element. -/
def endRaw (l : Lexer) (kind : ContentKind) (name : String) (seen : Text) : Lexer :=
  let content := (seen.drop (name.length + 2)).reverse
  let content := if kind = .references then decodeReferences false content else content
  let l := if content.isEmpty then l else { l with tokens := .text content :: l.tokens }
  { l with mode := .inTag ⟨true, name, []⟩ }

/-- How deep in a comment of a script the lexer is behind `seen`: not in one, in one, or in a
script inside one. -/
def scriptDepth (depth : Nat) (seen : Text) : Nat :=
  if depth = 0 && endsWithWord seen "<!--" then 1
  else if depth ≠ 0 && endsWithWord seen "-->" then 0
  else depth

/-- Content that ends at the end tag of the element. -/
def rawStep (l : Lexer) (kind : ContentKind) (name : String) (depth : Nat) (seen : Text)
    (c : Char) : Lexer :=
  let atBoundary := isHtmlSpace c || c = '/' || c = '>'
  if kind ≠ .everything && atBoundary && depth < 2 && endsWithWord seen ("</" ++ name) then
    (l.endRaw kind name seen).inTagStep ⟨true, name, []⟩ c
  else
    let depth :=
      if kind ≠ .script then 0
      else if atBoundary && depth = 1 && endsWithWord seen "<script" then 2
      else if atBoundary && depth = 2 && endsWithWord seen "</script" then 1
      else depth
    let depth := if kind = .script then scriptDepth depth (c :: seen) else 0
    { l with mode := .raw kind name depth (c :: seen) }

/-! ### One character -/

/-- Reads one character. -/
def step (l : Lexer) (c : Char) : Lexer :=
  match l.mode with
  | .content => l.contentStep c
  | .tagOpen =>
    if isAsciiLetter c then { l with mode := .tagName false [c.toLower] }
    else if c = '/' then { l with mode := .endTagOpen }
    else if c = '!' then { l with mode := .declaration [] }
    else if c = '?' then { l with mode := .bogusComment [c] }
    else { l with pending := '<' :: l.pending, prolog := false }.contentStep c
  | .endTagOpen =>
    if isAsciiLetter c then { l with mode := .tagName true [c.toLower] }
    else if c = '>' then { l with mode := .content, prolog := false }
    else { l with mode := .bogusComment [c], prolog := false }
  | .tagName closing name =>
    if isHtmlSpace c || c = '/' || c = '>' then
      l.inTagStep ⟨closing, String.ofList name.reverse, []⟩ c
    else { l with mode := .tagName closing (c.toLower :: name) }
  | .inTag tag => l.inTagStep tag c
  | .attributeName tag name =>
    if c = '=' then { l with mode := .beforeValue tag name }
    else if isHtmlSpace c then { l with mode := .afterName tag name }
    else if c = '/' || c = '>' then l.inTagStep (tag.add name []) c
    else { l with mode := .attributeName tag (c.toLower :: name) }
  | .afterName tag name =>
    if c = '=' then { l with mode := .beforeValue tag name }
    else if isHtmlSpace c then l
    else l.inTagStep (tag.add name []) c
  | .beforeValue tag name =>
    if isHtmlSpace c then l
    else if c = '"' || c = '\'' then { l with mode := .quotedValue tag name c [] }
    else if c = '>' then l.emitTag (tag.add name [])
    else { l with mode := .unquotedValue tag name [c] }
  | .quotedValue tag name quote value =>
    if c = quote then { l with mode := .inTag (tag.add name value) }
    else { l with mode := .quotedValue tag name quote (c :: value) }
  | .unquotedValue tag name value =>
    if isHtmlSpace c then { l with mode := .inTag (tag.add name value) }
    else if c = '>' then l.emitTag (tag.add name value)
    else { l with mode := .unquotedValue tag name (c :: value) }
  | .declaration seen => l.declarationStep seen c
  | .comment seen =>
    match if c = '>' then commentEnd? seen else none with
    | some content => l.emit (.comment content)
    | none => { l with mode := .comment (c :: seen) }
  | .bogusComment seen => l.bogusStep seen c
  | .doctype seen =>
    if c = '>' then l.emit (.doctype seen.reverse) else { l with mode := .doctype (c :: seen) }
  | .raw kind name depth seen => l.rawStep kind name depth seen c

/-- The tokens when the text ends; a tag that is not complete is dropped. -/
def finish (l : Lexer) : List Token :=
  let l := match l.mode with
    | .tagOpen => { l with pending := '<' :: l.pending }.flush
    | .endTagOpen => { l with pending := '/' :: '<' :: l.pending }.flush
    | .declaration seen => l.emit (.comment seen.reverse)
    | .comment seen => l.emit (.comment (commentAtEnd seen))
    | .bogusComment seen => l.emit (.comment seen.reverse)
    | .doctype seen => l.emit (.doctype seen.reverse)
    | .raw kind _ _ seen =>
      let content := if kind = ContentKind.references then decodeReferences false seen.reverse
        else seen.reverse
      if content.isEmpty then l else { l with tokens := .text content :: l.tokens }
    | _ => l.flush
  l.tokens.reverse

end Lexer

/-! ### Texts -/

/-- Line ends as a single line feed each, and U+FFFD for the null character. -/
def normalizeSource : Text → Text
  | [] => []
  | '\r' :: t => if t.head? = some '\n' then normalizeSource t else '\n' :: normalizeSource t
  | c :: t => (if c = '\x00' then '\uFFFD' else c) :: normalizeSource t

/-- The text without a byte order mark at its start. -/
def dropByteOrderMark : Text → Text
  | '\uFEFF' :: t => t
  | t => t

/-- The tokens of a text. -/
def Token.scan (t : Text) : List Token :=
  ((normalizeSource (dropByteOrderMark t)).foldl Lexer.step Lexer.start).finish

/-! ### Document types -/

/-- A text between quotes at the start, and what follows it. -/
def quotedPart? (t : Text) : Option (Text × Text) :=
  match t.dropWhile isHtmlSpace with
  | q :: rest =>
    if q = '"' || q = '\'' then
      match Text.cut q rest with
      | (part, some rest) => some (part, rest)
      | (part, none) => some (part, [])
    else none
  | [] => none

/-- A document type as it is kept: its name and the identifiers behind it. -/
def doctypeText (content : Text) : Text :=
  let content := content.dropWhile isHtmlSpace
  let name := Text.asciiLower (content.takeWhile fun c => !isHtmlSpace c)
  let rest := (content.drop name.length).dropWhile isHtmlSpace
  let keyword := Text.asciiLower (rest.take 6)
  let quote (t : Text) : Text := '"' :: (t ++ ['"'])
  if keyword = "public".toList then
    match quotedPart? (rest.drop 6) with
    | some (publicId, rest) =>
      let system := match quotedPart? rest with
        | some (systemId, _) => ' ' :: quote systemId
        | none => []
      name ++ " PUBLIC ".toList ++ quote publicId ++ system
    | none => name
  else if keyword = "system".toList then
    match quotedPart? (rest.drop 6) with
    | some (systemId, _) => name ++ " SYSTEM ".toList ++ quote systemId
    | none => name
  else name

end PageNotes
