import PageNotes.Markdown.Rule
import PageNotes.Markdown.Escape
import PageNotes.Markdown.Cleanup

/-!
Rendering a document as Markdown. The children of an element are rendered first and joined, then
the first rule that applies to the element, or else its structure, puts the text into form.

* `renderText`: a text between its neighbours;
* `Node.render`, `forestRender`: a node and the children of an element;
* `Document.render`: a document.
-/

namespace PageNotes

/-- A renderer: its options and its rules. -/
structure Renderer where
  options : MarkdownOptions
  rules : List RenderRule

/-- The renderer for notes. -/
def Renderer.standard : Renderer := ⟨.standard, RenderRule.standard .standard⟩

/-- The Markdown of a text: white space settled and marks escaped, trimmed next to blocks. -/
def renderText (o : MarkdownOptions) (s : Surroundings) (content : Text) : Text :=
  let settled := if s.inside "pre" then content
    else if o.wrap then spaceRuns content else settleRuns content
  let escaped := if s.verbatim then settled else escapeText o settled
  let started := if s.trims s.before then Text.trimStart isMarkupSpace escaped else escaped
  if s.trims s.after then Text.stripEnd started else started

/-- Puts an element whose children give a text into form. -/
def Renderer.write (r : Renderer) (s : Surroundings) (node : Node) (t : Text) :
    Except RenderError Text :=
  match firstRule? r.rules node with
  | some rule => rule.write s node t
  | none => structuralText r.options s node t

/-- The parts of an element joined; inside `pre` they stay as they are. -/
def joinChildren (s : Surroundings) (name : String) (parts : List Text) : Text :=
  if name = "pre" || s.inside "pre" then parts.flatten else joinParts parts

mutual
/-- The Markdown of a node. -/
def Node.render (r : Renderer) (s : Surroundings) : Node → Except RenderError Text
  | .element name attributes children =>
    match forestRender r (s.enter name attributes children) [] children with
    | .ok parts =>
      r.write s (.element name attributes children) (joinChildren s name parts)
    | .error e => .error e
  | .text _ content => .ok (renderText r.options s content)
  | .comment _ => .ok []
  | .doctype _ => .ok []

/-- The Markdown of the nodes of a forest that leave something behind; `around` gives their
surroundings from the siblings before and after. -/
def forestRender (r : Renderer) (around : Forest → Forest → Surroundings) (before : Forest) :
    Forest → Except RenderError (List Text)
  | [] => .ok []
  | node :: rest =>
    let s := around before rest
    if s.ignores node then forestRender r around (node :: before) rest
    else
      match node.render r s with
      | .error e => .error e
      | .ok part =>
        match forestRender r around (node :: before) rest with
        | .error e => .error e
        | .ok parts => .ok (part :: parts)
end

/-- The name of a document as the element that holds everything. -/
def documentName : String := "[document]"

/-- The Markdown of a document. -/
def Document.render (r : Renderer) (document : Forest) : Except RenderError Text :=
  (forestRender r (Surroundings.top.enter documentName [] document) [] document).map fun parts =>
    cleanUp (Text.trim (· = '\n') (joinParts parts))

end PageNotes
