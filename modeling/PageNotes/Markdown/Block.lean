import PageNotes.Numeric.NumberText
import PageNotes.Markdown.Options
import PageNotes.Markdown.Fill

/-!
Blocks: paragraphs, headings, quotations, lists and definitions. A block stands between blank
lines; on one line it is its text between spaces.
-/

namespace PageNotes

/-- A text between blank lines; nothing if there is no text. -/
def blockText (t : Text) : Text :=
  if t.isEmpty then [] else '\n' :: '\n' :: (t ++ ['\n', '\n'])

/-- A text between spaces. -/
def spacedText (t : Text) : Text := ' ' :: (t ++ [' '])

/-- A division of a text. -/
def divisionText (s : Surroundings) (t : Text) : Text :=
  if s.inline then spacedText (Text.strip t) else blockText (Text.strip t)

/-- A paragraph. -/
def paragraphText (o : MarkdownOptions) (s : Surroundings) (t : Text) : Except RenderError Text :=
  let t := trimSpace t
  if s.inline then .ok (spacedText t)
  else
    match o.wrap, o.wrapWidth with
    | true, some width =>
      if width < 1 then .error (.noWidth width)
      else .ok (blockText (fillParagraph width.toNat t))
    | _, _ => .ok (blockText t)

/-- A quotation, each of its lines marked. -/
def blockquoteText (s : Surroundings) (t : Text) : Text :=
  let t := trimSpace t
  if s.inline then spacedText t
  else if t.isEmpty then ['\n']
  else
    '\n' :: (mapLines (fun line => if line.isEmpty then ['>'] else '>' :: ' ' :: line) t
      ++ ['\n', '\n'])

/-- A rule across the page. -/
def ruleText : Text := "\n\n---\n\n".toList

/-- A heading of a level. -/
def headingText (o : MarkdownOptions) (s : Surroundings) (level : Nat) (t : Text) : Text :=
  if s.inline then t
  else
    let level := max 1 (min 6 level)
    let t := Text.strip t
    if o.headingStyle = .underlined && level ≤ 2 then
      let line := List.replicate t.length (if level = 1 then '=' else '-')
      if t.isEmpty then [] else '\n' :: '\n' :: (t ++ '\n' :: (line ++ ['\n', '\n']))
    else
      let marks := List.replicate level '#'
      let closing := if o.headingStyle = .closedHashes then ' ' :: marks else []
      '\n' :: '\n' :: (marks ++ ' ' :: (spaceRuns t ++ closing ++ ['\n', '\n']))

/-! ### Lists -/

/-- A node that counts as content beside a list: an element or a text that is not blank. -/
def isContent : Node → Bool
  | .element _ _ _ => true
  | .text _ content => !content.allBlank
  | .comment _ => false
  | .doctype _ => false

/-- A list. -/
def listText (s : Surroundings) (t : Text) : Text :=
  if s.inside "li" then '\n' :: Text.stripEnd t
  else
    let next := s.after.find? isContent
    let spaced := next.any fun node => !(node.named "ul" || node.named "ol")
    '\n' :: '\n' :: (t ++ if spaced then ['\n'] else [])

/-- The number that some digits denote. -/
def readNumber (digits : Text) : Except RenderError Nat :=
  match digits.mapM digitValue? with
  | some ds => (ofDecimalDigits ds).mapError .number
  | none => .error (.number (.noInteger 10 digits))

/-- The mark of a list item, with the space behind it. -/
def itemMark (o : MarkdownOptions) (s : Surroundings) : Except RenderError Text :=
  match s.parent?.filter (·.name = "ol") with
  | some list =>
    let start := list.attributes.get "start"
    let place := (s.before.filter (Node.named "li")).length
    if !start.isEmpty && start.all isNumeric then
      (readNumber start).map fun first => Text.ofNat (first + place) ++ ['.', ' ']
    else .ok (Text.ofNat (1 + place) ++ ['.', ' '])
  | none =>
    let count := o.bullets.length
    if count = 0 then .error .noBullets
    else .ok (o.bullets.getD ((s.listDepth + count - 1) % count) [] ++ [' '])

/-- A list item: its first line behind the mark, the other lines indented by the width of the
mark. -/
def itemText (o : MarkdownOptions) (s : Surroundings) (t : Text) : Except RenderError Text :=
  let t := Text.strip t
  if t.isEmpty then .ok ['\n']
  else (itemMark o s).map fun mark =>
    mark ++ (indentLines mark.length t).drop mark.length ++ ['\n']

/-! ### Definitions -/

/-- A term that is defined. -/
def termText (s : Surroundings) (t : Text) : Text :=
  let t := spaceRuns (Text.strip t)
  if s.inline then spacedText t
  else if t.isEmpty then ['\n']
  else '\n' :: '\n' :: (t ++ ['\n'])

/-- The definition of a term: a colon in the indentation of its first line. -/
def definitionText (s : Surroundings) (t : Text) : Text :=
  let t := Text.strip t
  if s.inline then spacedText t
  else if t.isEmpty then ['\n']
  else ':' :: ((indentLines 4 t).drop 1 ++ ['\n'])

end PageNotes
