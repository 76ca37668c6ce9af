import PageNotes.Html.Token
import PageNotes.Html.Nesting

/-!
Building the tree of a document from its tokens. The builder holds the open elements; a start tag
closes some of them and opens the elements that a page may leave out, an end tag closes everything
up to its element. So every sequence of tokens is a document.

* `TreeBuilder.startTag`, `TreeBuilder.endTag`, `TreeBuilder.chars`: what the tokens do;
* `Document.ofTokens`, `Document.parse`: the document of a sequence of tokens and of a text.

A text that is nothing but white space becomes one line feed or one space, except in `pre` and
`textarea`.
-/

namespace PageNotes

/-- An element whose end has not been read; its content stands newest first. -/
structure OpenElement where
  name : String
  attributes : Attributes
  content : Forest

/-- The open elements, innermost first, the finished nodes outside them, newest first, and the
text that has not become a node. -/
structure TreeBuilder where
  stack : List OpenElement
  finished : Forest
  pending : Text
  /-- A head or a body has been opened. -/
  sawHead : Bool
  /-- A body has been opened. -/
  sawBody : Bool
  /-- The number of start tags of `html`, `head` and `body` that were dropped and whose end tags
  are to be dropped. -/
  dropped : Nat

namespace TreeBuilder

/-- The builder before the first token. -/
def start : TreeBuilder := ⟨[], [], [], false, false, 0⟩

/-- The name of the innermost open element. -/
def current? (b : TreeBuilder) : Option String := b.stack.head?.map (·.name)

/-- Whether an element with this name is open. -/
def hasOpen (b : TreeBuilder) (name : String) : Bool := b.stack.any (·.name = name)

/-! ### Nodes -/

/-- Adds a node to the innermost open element. -/
def append (b : TreeBuilder) (node : Node) : TreeBuilder :=
  match b.stack with
  | [] => { b with finished := node :: b.finished }
  | e :: outer => { b with stack := { e with content := node :: e.content } :: outer }

/-- The role of a text that is added now. -/
def currentRole (b : TreeBuilder) : TextRole :=
  ((b.stack.map (TextRole.of ·.name)).find? (· ≠ .plain)).getD .plain

/-- Whether white space is kept as it is. -/
def keepsSpace (b : TreeBuilder) : Bool := b.hasOpen "pre" || b.hasOpen "textarea"

/-- A text as it is kept. -/
def settleSpace (t : Text) : Text :=
  if t.all isHtmlSpace then (if t.has '\n' then ['\n'] else [' ']) else t

/-- Makes a node of the text read so far. -/
def flush (b : TreeBuilder) : TreeBuilder :=
  if b.pending.isEmpty then b
  else
    let content := if b.keepsSpace then b.pending else settleSpace b.pending
    { b.append (.text b.currentRole content) with pending := [] }

/-- Adds text. -/
def write (b : TreeBuilder) (t : Text) : TreeBuilder := { b with pending := b.pending ++ t }

/-- Adds a comment or a document type. -/
def addNode (b : TreeBuilder) (node : Node) : TreeBuilder := b.flush.append node

/-! ### Elements -/

/-- Opens an element. -/
def push (b : TreeBuilder) (name : String) (attributes : Attributes) : TreeBuilder :=
  let b := b.flush
  { b with
    stack := ⟨name, attributes, []⟩ :: b.stack
    sawHead := b.sawHead || name = "head" || name = "body"
    sawBody := b.sawBody || name = "body" }

/-- Closes the innermost element. -/
def pop (b : TreeBuilder) : TreeBuilder :=
  let b := b.flush
  match b.stack with
  | [] => b
  | e :: outer =>
    { b with stack := outer }.append (.element e.name e.attributes e.content.reverse)

/-- Closes a number of elements. -/
def popMany (b : TreeBuilder) : Nat → TreeBuilder
  | 0 => b
  | n + 1 => b.pop.popMany n

/-- Closes the innermost elements that a start tag closes. -/
def autoClose (b : TreeBuilder) (new : String) : TreeBuilder :=
  b.popMany (b.stack.takeWhile fun e => closes new e.name).length

/-- Opens the elements that a start tag implies. -/
def imply (b : TreeBuilder) (new : String) : TreeBuilder :=
  if new = "html" then b
  else
    let b := if b.stack.isEmpty then b.push "html" [] else b
    if new = "head" || new = "body" then b
    else if b.stack.length ≤ 1 && opensHead new then
      if b.sawHead then b else b.push "head" []
    else if isFrameTag new || b.sawBody || b.hasOpen "body" || b.hasOpen "head" then b
    else b.push "body" []

/-- Whether a start tag is out of place: a second `html` or `body`, a `head` below `html`. -/
def isMisplaced (b : TreeBuilder) (name : String) : Bool :=
  name = "html" && !b.stack.isEmpty || name = "head" && b.stack.length ≠ 1
    || name = "body" && b.hasOpen "body"

/-- A start tag. -/
def startTag (b : TreeBuilder) (name : String) (attributes : Attributes) : TreeBuilder :=
  let b := (b.autoClose name).imply name
  if b.isMisplaced name then { b with dropped := b.dropped + 1 }
  else
    let b := b.push name attributes
    if isVoid name then b.pop else b

/-- How many elements an end tag closes: up to the innermost element of its name, unless an
element of higher priority stands before it. -/
def closedByEnd (name : String) : List OpenElement → Option Nat
  | [] => none
  | e :: outer =>
    if e.name = name then some 1
    else if endPriority name < endPriority e.name then none
    else (closedByEnd name outer).map (· + 1)

/-- An end tag. -/
def endTag (b : TreeBuilder) (name : String) : TreeBuilder :=
  if 0 < b.dropped && (name = "html" || name = "head" || name = "body") then
    { b with dropped := b.dropped - 1 }
  else
    match closedByEnd name b.stack with
    | some n => b.popMany n
    | none => b

/-- Text. White space outside head and body stays where it stands; other text opens the body. -/
def chars (b : TreeBuilder) (t : Text) : TreeBuilder :=
  if b.current? = none || b.current? = some "html" || b.current? = some "head" then
    let space := t.takeWhile isHtmlSpace
    let rest := t.dropWhile isHtmlSpace
    let b := b.write space
    if rest.isEmpty then b
    else ((if b.current? = some "head" then b.autoClose "p" else b).imply "p").write rest
  else b.write t

/-! ### Documents -/

/-- One token. -/
def step (b : TreeBuilder) : Token → TreeBuilder
  | .startTag name attributes => b.startTag name attributes
  | .endTag name => b.endTag name
  | .text content => b.chars content
  | .comment content => b.addNode (.comment content)
  | .doctype content => b.addNode (.doctype (doctypeText content))

/-- The document when the tokens end. -/
def finish (b : TreeBuilder) : Forest := (b.popMany b.stack.length).flush.finished.reverse

end TreeBuilder

/-- The document that tokens describe. -/
def Document.ofTokens (tokens : List Token) : Forest :=
  (tokens.foldl TreeBuilder.step TreeBuilder.start).finish

/-- The document that a text describes. -/
def Document.parse (t : Text) : Forest := Document.ofTokens (Token.scan t)

end PageNotes
