import PageNotes.Markdown.Structure

/-!
Identifiers: the places that links lead to. An element with an identifier is written as without it,
and its identifier is put in: behind the text of a heading, around the text of a line, or before a
block.

* `anchoredText`: the Markdown of an element with its identifier.
-/

namespace PageNotes

/-- The mark of a place. -/
def anchorOpening (identifier : Text) : Text := "<span id=\"".toList ++ identifier ++ ['"', '>']

/-- The end of the mark of a place. -/
def anchorClosing : Text := "</span>".toList

/-- The mark of a place by itself. -/
def emptyAnchor (identifier : Text) : Text := anchorOpening identifier ++ anchorClosing

/-- A text with its core inside the mark of a place and the blanks at its ends outside. -/
def wrapCore (identifier t : Text) : Text :=
  let core := Text.strip t
  if core.isEmpty then t ++ emptyAnchor identifier
  else
    let lead := t.takeWhile isBlank
    lead ++ anchorOpening identifier ++ core ++ anchorClosing
      ++ t.drop (lead.length + core.length)

/-- A heading with its identifier behind the text; none if there is no text. -/
def anchorHeading (identifier rendered : Text) : Text :=
  let body : Text := Text.stripEnd rendered
  if body.isEmpty then rendered
  else body ++ ' ' :: '{' :: '#' :: (identifier ++ '}' :: rendered.drop body.length)

/-- The length of the blanks, the bar and the space that a row starts with. -/
def rowStart? (rendered : Text) : Option Nat :=
  let lead := (rendered.takeWhile isBlank).length
  match rendered.drop lead with
  | '|' :: ' ' :: _ => some (lead + 2)
  | '|' :: _ => some (lead + 1)
  | _ => none

/-- Rows with the mark of a place in the first cell. -/
def anchorRows (identifier rendered : Text) : Text :=
  match rowStart? rendered with
  | none => emptyAnchor identifier ++ rendered
  | some start => rendered.take start ++ emptyAnchor identifier ++ rendered.drop start

/-- The length of the mark of a list item, with the blanks around it. -/
def itemStart? (rendered : Text) : Option Nat :=
  let lead := (rendered.takeWhile isBlank).length
  let rest : Text := rendered.drop lead
  let digits := (rest.takeWhile isDigit).length
  let mark := match rest.drop digits with
    | '.' :: _ => if 0 < digits then digits + 1 else 0
    | c :: _ => if digits = 0 && (c = '-' || c = '*' || c = '+') then 1 else 0
    | [] => 0
  let space := ((rest.drop mark).takeWhile isBlank).length
  if 0 < mark && 0 < space then some (lead + mark + space) else none

/-- A list item with the mark of a place around the first line behind its own mark. -/
def anchorItem (identifier rendered : Text) : Text :=
  match itemStart? rendered with
  | none => emptyAnchor identifier ++ rendered
  | some start =>
    let rest : Text := rendered.drop start
    rendered.take start ++ anchorOpening identifier ++ rest.takeWhile (· ≠ '\n') ++ anchorClosing
      ++ rest.dropWhile (· ≠ '\n')

/-- Elements whose form would be lost inside a line. -/
def isStructuralBlock (name : String) : Bool :=
  ["ul", "ol", "dl", "table", "pre", "blockquote", "hr"].contains name

/-- Rows and groups of rows. -/
def isRowGroup (name : String) : Bool :=
  name = "tr" || name = "thead" || name = "tbody" || name = "tfoot"

/-- The mark of a place before a block, or around the core of a line. -/
def anchorOther (name : String) (identifier rendered : Text) : Text :=
  let core := Text.strip rendered
  if isStructuralBlock name || core.contains '\n' then
    if rendered.head? = some '\n' then '\n' :: '\n' :: (emptyAnchor identifier ++ rendered)
    else emptyAnchor identifier ++ rendered
  else if core.isEmpty then emptyAnchor identifier ++ rendered
  else wrapCore identifier rendered

/-- The Markdown of an element with its identifier. In code nothing is put in, and in a cell it
goes between the bars. -/
def anchoredText (o : MarkdownOptions) (s : Surroundings) (node : Node) (t : Text) :
    Except RenderError Text :=
  let name := node.name?.getD ""
  let identifier := attributeText (node.attributes.get "id")
  if ["h1", "h2", "h3", "h4", "h5", "h6"].contains name then
    (structuralText o s node t).map (anchorHeading identifier)
  else if s.verbatim then structuralText o s node t
  else if isCell name then structuralText o s node (wrapCore identifier t)
  else if isRowGroup name then (structuralText o s node t).map (anchorRows identifier)
  else if name = "li" then (structuralText o s node t).map (anchorItem identifier)
  else (structuralText o s node t).map (anchorOther name identifier)

end PageNotes
