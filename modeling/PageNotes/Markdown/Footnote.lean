import PageNotes.Html.Tree
import PageNotes.Text.LetterCase
import PageNotes.Text.Digit
import PageNotes.Reference.Kind

/-!
Footnotes: references in the text, which lead to a note, and the notes themselves. Both are kept as
elements, so that they find each other.

* `isFootnoteReference`, `isFootnoteBody`: told by classes, roles and types, a reference also by a
  bracketed number that leads into the page;
* `footnoteReferenceText`, `footnoteBodyText`: how they are written.
-/

namespace PageNotes

/-! ### Attributes of written elements -/

/-- A value inside the quotes of an attribute. -/
def attributeText (value : Text) : Text := Text.replaceChar '"' "&quot;".toList value

/-- An attribute of a written element. -/
def attributePart (name : String) (value : Text) : Text :=
  name.toList ++ '=' :: '"' :: (attributeText value ++ ['"'])

/-! ### Markers -/

/-- The classes, roles and types that mark a kind of element. -/
structure Markers where
  classes : List String
  roles : List String
  types : List String

/-- What marks a reference to a footnote. -/
def referenceMarkers : Markers where
  classes := ["footnote-ref", "footnote-reference", "noteref", "fnref"]
  roles := ["doc-noteref"]
  types := ["noteref"]

/-- What marks a footnote. -/
def bodyMarkers : Markers where
  classes := ["footnote", "footnote-item", "footnote-body", "endnote"]
  roles := ["doc-footnote", "doc-endnote"]
  types := ["footnote", "endnote", "rearnote"]

/-- Whether some word, in lower case, is one of some names. -/
def anyNamed (words : List Text) (names : List String) : Bool :=
  words.any fun word => names.contains (String.ofList word.lower)

/-- Whether an element has one of the markers. -/
def hasMarker (markers : Markers) (attributes : Attributes) : Bool :=
  anyNamed attributes.classes markers.classes
    || anyNamed (attributes.get "role").blankWords markers.roles
    || anyNamed (attributes.get "epub:type").blankWords markers.types

/-! ### Kinds -/

/-- Whether an element is a link into the page. -/
def isFragmentLink (node : Node) : Bool :=
  node.named "a" && isFragmentReference (node.attributes.get "href")

/-- The link into the page that an element is, or the first one below it. -/
def fragmentLink? (node : Node) : Option Node :=
  if node.named "a" then (if isFragmentLink node then some node else none)
  else node.descendants.find? isFragmentLink

/-- A number in square brackets. -/
def isBracketedNumber (t : Text) : Bool :=
  match t with
  | '[' :: rest =>
    let digits := rest.takeWhile isDigit
    !digits.isEmpty && rest.drop digits.length = [']']
  | _ => false

/-- Links and superscripts, which may refer to footnotes. -/
def isLinkOrSuperscript (node : Node) : Bool := node.named "a" || node.named "sup"

/-- Whether an element refers to a footnote. -/
def isFootnoteReference (node : Node) : Bool :=
  isLinkOrSuperscript node &&
    (hasMarker referenceMarkers node.attributes ||
      isBracketedNumber (Text.strip node.innerText) && (fragmentLink? node).isSome)

/-- Whether an element is a footnote. -/
def isFootnoteBody (node : Node) : Bool :=
  node.isElement && !isLinkOrSuperscript node && hasMarker bodyMarkers node.attributes

/-! ### Writing -/

/-- A text in an element. -/
def elementText (name : String) (attributes : List Text) (t : Text) : Text :=
  '<' :: (Text.join [' '] (name.toList :: attributes) ++ '>' :: (t ++ '<' :: '/' ::
    (name.toList ++ ['>'])))

/-- The identifier of an element as an attribute, if it has one. -/
def identifierParts (attributes : Attributes) : List Text :=
  let identifier := attributes.get "id"
  if identifier.isEmpty then [] else [attributePart "id" identifier]

/-- A link as an element, its text raised if it was. -/
def anchorText (link : Node) : Text :=
  let label := Text.strip link.innerText
  let raised := link.descendants.any (Node.named "sup")
  elementText "a" (attributePart "href" (link.attributes.get "href") :: identifierParts
    link.attributes) (if raised then elementText "sup" [] label else label)

/-- A reference to a footnote: its link, raised if the element is. -/
def footnoteReferenceText (node : Node) : Text :=
  if node.named "a" then anchorText node
  else
    let inner := match fragmentLink? node with
      | some link => anchorText link
      | none => Text.strip node.innerText
    elementText "sup" (identifierParts node.attributes) inner

/-- A character that the name of a place in a page may have. -/
def isFragmentChar (c : Char) : Bool := isWord c || c = '-' || c = ':' || c = '.'

/-- Whether a text holds a link back to a reference: a place in the page whose name has `ref` in
it. -/
def hasBackReference : Text → Bool
  | [] => false
  | c :: t =>
    (c = '#' && Text.hasPart ['r', 'e', 'f'] (Text.asciiLower (t.takeWhile isFragmentChar)))
      || hasBackReference t

/-- The digits at the end of an identifier, a line end behind them left aside. -/
def identifierNumber (identifier : Text) : Text :=
  let identifier := if identifier.getLast? = some '\n' then identifier.dropLast else identifier
  Text.takeEnd isDigit identifier

/-- The link back to the reference with a number. -/
def backReference (number : Text) : Text := "[↩](#fnref".toList ++ number ++ [')']

/-- A footnote: its text in an element with its identifier, and a link back if it has a number and
no such link. -/
def footnoteBodyText (attributes : Attributes) (t : Text) : Text :=
  let identifier := attributes.get "id"
  let number := identifierNumber identifier
  let body := Text.strip t
  let body :=
    if hasBackReference body || number.isEmpty then body
    else if body.isEmpty then backReference number
    else body ++ ' ' :: backReference number
  let opening := '<' :: (Text.join [' '] ("div".toList :: identifierParts attributes) ++ ['>'])
  '\n' :: '\n' :: (opening ++ '\n' :: '\n' :: (body ++ "\n\n</div>\n\n".toList))

end PageNotes
