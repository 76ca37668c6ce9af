import PageNotes.Markdown.Anchor

/-!
Rules of rendering. The first rule of a list that applies to an element writes it; an element
without such a rule has the Markdown of its structure.

* `RenderRule.standard`: the rules for notes, in order;
* `firstRule?`: the rule that writes an element.
-/

namespace PageNotes

/-- A rule: the elements that it applies to, and how it writes one whose children give a text. -/
structure RenderRule where
  name : String
  applies : Node → Bool
  write : Surroundings → Node → Text → Except RenderError Text

/-- Whether an element shows another page. -/
def isEmbeddedFrame (node : Node) : Bool := node.name?.any isFrame

/-- Whether an element has an identifier and is no part of a footnote. -/
def hasIdentifier (node : Node) : Bool :=
  !(node.attributes.get "id").isEmpty && !(isFootnoteReference node || isFootnoteBody node)

namespace RenderRule

/-- Pictures. -/
def image : RenderRule :=
  ⟨"image", Node.named "img", fun _ node _ => .ok (imageText node.attributes)⟩

/-- Frames. -/
def embeddedFrame : RenderRule :=
  ⟨"embedded_frame", isEmbeddedFrame, fun _ node _ =>
    .ok (frameText (node.name?.getD "") node.attributes)⟩

/-- Elements with an identifier. -/
def identifier (o : MarkdownOptions) : RenderRule :=
  ⟨"identifier", hasIdentifier, anchoredText o⟩

/-- References to footnotes. -/
def footnoteReference : RenderRule :=
  ⟨"footnote_reference", isFootnoteReference, fun _ node _ => .ok (footnoteReferenceText node)⟩

/-- Footnotes. -/
def footnoteBody : RenderRule :=
  ⟨"footnote_body", isFootnoteBody, fun _ node t => .ok (footnoteBodyText node.attributes t)⟩

/-- The rules for notes, in order. -/
def standard (o : MarkdownOptions) : List RenderRule :=
  [image, embeddedFrame, identifier o, footnoteReference, footnoteBody]

/-- A rule that puts the elements with a name between two texts. -/
def enclosing (name element : String) (opening closing : Text) : RenderRule :=
  ⟨name, Node.named element, fun _ _ t => .ok (opening ++ t ++ closing)⟩

end RenderRule

/-- The first rule that applies to an element. -/
def firstRule? (rules : List RenderRule) (node : Node) : Option RenderRule :=
  rules.find? (·.applies node)

/-- The rules that apply to an element. -/
def applyingRules (rules : List RenderRule) (node : Node) : List RenderRule :=
  rules.filter (·.applies node)

end PageNotes
