import PageNotes.Html.Tree
import PageNotes.Text.Digit

/-!
Where a node stands while it is rendered: the elements that it lies in and the siblings on both
sides. From this follows whether its text is written on one line, kept as it is, or trimmed next to
a block.

* `Surroundings.inline`, `Surroundings.verbatim`: inside headings and cells, inside code;
* `Surroundings.ignores`: the nodes that leave nothing behind.
-/

namespace PageNotes

/-! ### Kinds of elements -/

/-- The level of a heading, from its name. -/
def headingLevel? (name : String) : Option Nat :=
  match name.toList with
  | 'h' :: rest =>
    let digits := rest.takeWhile isDigit
    if digits.isEmpty then none
    else some (digits.foldl (fun n c => n * 10 + (digitValue? c).getD 0) 0)
  | _ => none

/-- Elements that start on a line of their own and trim the text inside. -/
def isBlock (name : String) : Bool :=
  (headingLevel? name).isSome ||
  ["p", "blockquote", "article", "div", "section", "ol", "ul", "li", "dl", "dt", "dd", "table",
    "thead", "tbody", "tfoot", "tr", "td", "th"].contains name

/-- Elements that trim the text next to them. -/
def isOuterBlock (name : String) : Bool := isBlock name || name = "pre"

/-- Whether the text next to a node is trimmed. -/
def Node.trimsOutside (node : Node) : Bool := node.name?.any isOuterBlock

/-- Cells of tables. -/
def isCell (name : String) : Bool := name = "td" || name = "th"

/-- Elements whose text is kept as it is. -/
def isCode (name : String) : Bool :=
  name = "pre" || name = "code" || name = "kbd" || name = "samp"

/-! ### Surroundings -/

/-- An element that a node lies in, with the siblings before it, nearest first. -/
structure Ancestor where
  name : String
  attributes : Attributes
  children : Forest
  before : Forest

/-- Where a node stands: the elements that it lies in, innermost first, the siblings before it,
nearest first, and those after it. -/
structure Surroundings where
  ancestors : List Ancestor
  before : Forest
  after : Forest

/-- The surroundings of a document as a whole. -/
def Surroundings.top : Surroundings := ⟨[], [], []⟩

namespace Surroundings

/-- Whether the node lies in an element with this name. -/
def inside (s : Surroundings) (name : String) : Bool := s.ancestors.any (·.name = name)

/-- Whether the node is written on one line: in a heading or a cell. -/
def inline (s : Surroundings) : Bool :=
  s.ancestors.any fun a => (headingLevel? a.name).isSome || isCell a.name

/-- Whether the node lies in code. -/
def verbatim (s : Surroundings) : Bool := s.ancestors.any (isCode ·.name)

/-- The element that the node is a child of; none at the top of a document. -/
def parent? (s : Surroundings) : Option Ancestor := s.ancestors.head?

/-- Whether the node is a child of an element with this name. -/
def childOf (s : Surroundings) (name : String) : Bool := s.parent?.any (·.name = name)

/-- The number of unordered lists that the node lies in. -/
def listDepth (s : Surroundings) : Nat := (s.ancestors.filter (·.name = "ul")).length

/-- A node without any content does not count as a neighbour. -/
def isVacant : Node → Bool
  | .text _ content => content.isEmpty
  | .comment content => content.isEmpty
  | .doctype content => content.isEmpty
  | .element _ _ _ => false

/-- Whether no neighbour stands on a side. -/
def atEdge (side : Forest) : Bool := side.head?.all isVacant

/-- Whether the neighbour on a side trims the text next to it. -/
def meetsBlock (side : Forest) : Bool := side.head?.any Node.trimsOutside

/-- Whether the text at the edges of the parent is trimmed. -/
def inBlock (s : Surroundings) : Bool := s.parent?.any (isBlock ·.name)

/-- Whether a text is trimmed at the side where these siblings are. -/
def trims (s : Surroundings) (side : Forest) : Bool :=
  meetsBlock side || s.inBlock && atEdge side

/-- Whether a node leaves nothing behind: a comment, a document type, or a blank text next to a
block or at the edge of one. -/
def ignores (s : Surroundings) : Node → Bool
  | .element _ _ _ => false
  | .comment _ => true
  | .doctype _ => true
  | .text _ content =>
    content.allBlank &&
      (s.inBlock && (atEdge s.before || atEdge s.after) || meetsBlock s.before
        || meetsBlock s.after)

/-- The surroundings of a child. -/
def enter (s : Surroundings) (name : String) (attributes : Attributes) (children : Forest)
    (before after : Forest) : Surroundings :=
  ⟨⟨name, attributes, children, s.before⟩ :: s.ancestors, before, after⟩

end Surroundings

end PageNotes
