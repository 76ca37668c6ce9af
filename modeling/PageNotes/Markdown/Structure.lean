import PageNotes.Markdown.Inline
import PageNotes.Markdown.Block
import PageNotes.Markdown.Table
import PageNotes.Markdown.CodeBlock
import PageNotes.Markdown.Footnote

/-!
The Markdown of an element by its name: what its children give, put into the form of the element.
An element of which Markdown knows nothing is what its children give.

* `structuralText`: the Markdown of an element;
* `imageText`, `frameText`: pictures and frames, which take their content from their attributes.
-/

namespace PageNotes

/-! ### Pictures and frames -/

/-- A picture, with its title between quotes; nothing without a source. -/
def imageText (attributes : Attributes) : Text :=
  let source := attributes.get "src"
  let title := attributes.get "title"
  let titled := if title.isEmpty then [] else ' ' :: '"' :: (title ++ ['"'])
  if source.isEmpty then []
  else '!' :: '[' :: (attributes.get "alt" ++ ']' :: '(' :: (source ++ titled ++ [')']))

/-- Elements that show another page. -/
def isFrame (name : String) : Bool := name = "iframe" || name = "embed" || name = "object"

/-- What a frame shows. -/
def frameSource (name : String) (attributes : Attributes) : Text :=
  let source := attributes.get "src"
  if source.isEmpty && name = "object" then attributes.get "data" else source

/-- A frame as an element, with its size and title. -/
def frameText (name : String) (attributes : Attributes) : Text :=
  let kept := ["width", "height", "title"].filterMap fun key =>
    let value := attributes.get key
    if value.isEmpty then none else some (attributePart key value)
  '\n' :: '\n' :: (elementText "iframe"
    (attributePart "src" (frameSource name attributes) :: kept) [] ++ ['\n', '\n'])

/-! ### Elements by name -/

/-- The name under which the conversion of an element is known. -/
def conversionName (name : String) : Text :=
  name.toList.map fun c => if c = '[' || c = ']' || c = ':' || c = '-' then '_' else c

/-- The Markdown of an element whose children give `t`. Some names are reserved for parts of the
conversion itself. -/
def elementMarkdown (o : MarkdownOptions) (s : Surroundings) (name : String)
    (attributes : Attributes) (children : Forest) (t : Text) : Except RenderError Text :=
  match String.ofList (conversionName name) with
  | "a" => .ok (linkText o s attributes t)
  | "b" | "strong" => .ok (markText s (o.emphasis ++ o.emphasis) t)
  | "em" | "i" => .ok (markText s o.emphasis t)
  | "del" | "s" => .ok (markText s ['~', '~'] t)
  | "sub" => .ok (markText s o.subscript t)
  | "sup" => .ok (markText s o.superscript t)
  | "code" | "kbd" | "samp" => .ok (codeText s t)
  | "q" => .ok (quotationText t)
  | "br" => .ok (breakText o s t)
  | "img" => .ok (pictureText s attributes)
  | "video" => .ok (filmText s attributes children t)
  | "p" => paragraphText o s t
  | "div" | "article" | "section" | "dl" => .ok (divisionText s t)
  | "blockquote" => .ok (blockquoteText s t)
  | "hr" => .ok ruleText
  | "ul" | "ol" | "list" => .ok (listText s t)
  | "li" => itemText o s t
  | "dt" => .ok (termText s t)
  | "dd" => .ok (definitionText s t)
  | "pre" => .ok (codeBlockText s (.element name attributes children))
  | "table" => .ok (tableText t)
  | "caption" => .ok (captionText t)
  | "figcaption" => .ok (tableText t)
  | "td" | "th" => cellText attributes t
  | "tr" => rowText o s children t
  | "script" | "style" => .ok []
  | "image_rule" => .ok (imageText attributes)
  | "frame_rule" => .ok (frameText name attributes)
  | "footnote_reference_rule" =>
    .ok (footnoteReferenceText (.element name attributes children))
  | "footnote_body_rule" => .ok (footnoteBodyText attributes t)
  | "identifier_rule" =>
    .error (if (attributes.get? "id").isSome then .endless else .noIdentifier)
  | "structural" => .error .endless
  | "soup" => .error .wholeDocument
  | "fn_cache" => .error .conversionTable
  | _ =>
    match headingLevel? name with
    | some level => .ok (headingText o s level t)
    | none => .ok t

/-- The Markdown of an element, unless its conversion is not wanted. -/
def structuralText (o : MarkdownOptions) (s : Surroundings) (node : Node) (t : Text) :
    Except RenderError Text :=
  match node with
  | .element name attributes children =>
    if o.elements.allows name then elementMarkdown o s name attributes children t else .ok t
  | _ => .ok t

end PageNotes
