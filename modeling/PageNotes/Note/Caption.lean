import PageNotes.Html.Tree
import PageNotes.Text.Quoted

/-!
Captions: an italic text behind an image, with nothing but blanks and line breaks between, becomes
the alternative text of the image.

* `captionAfter?`: the caption of an image and how many nodes it takes up;
* `Caption.inferAll`: a document with the captions of all images moved.
-/

namespace PageNotes

/-- A line break or a blank text: what may stand around a caption. -/
def isFiller (node : Node) : Bool := node.isBlankText || node.named "br"

/-- Whether an element is italic. -/
def isItalic (node : Node) : Bool := node.named "i" || node.named "em"

/-- The text of the caption in the nodes behind an image, and the number of nodes that go with it:
those before the caption, the caption, and the fillers after it. -/
def captionAfter? (siblings : Forest) : Option (Text × Nat) :=
  let before := (siblings.takeWhile isFiller).length
  match siblings.drop before with
  | node :: rest =>
    let text := Text.strip node.innerText
    if isItalic node && !text.isEmpty then
      some (text, before + 1 + (rest.takeWhile isFiller).length)
    else none
  | [] => none

namespace Caption

mutual
/-- Moves the captions inside a node. -/
def infer : Node → Node
  | .element name attributes children => .element name attributes (inferAll 0 children)
  | .text role content => .text role content
  | .comment content => .comment content
  | .doctype content => .doctype content

/-- Moves the captions in a forest, of which the first `skip` nodes went with a caption. -/
def inferAll (skip : Nat) : Forest → Forest
  | [] => []
  | node :: rest =>
    match skip with
    | skip + 1 => inferAll skip rest
    | 0 =>
      match if node.named "img" then captionAfter? rest else none with
      | some (text, count) =>
        match infer node with
        | .element name attributes children =>
          .element name (attributes.set "alt" text) children :: inferAll count rest
        | other => other :: inferAll count rest
      | none => infer node :: inferAll 0 rest
end

mutual
/-- The messages about the captions inside a node. -/
def notices : Node → List String
  | .element _ _ children => noticesAll 0 children
  | _ => []

/-- The messages about the captions in a forest, in document order. -/
def noticesAll (skip : Nat) : Forest → List String
  | [] => []
  | node :: rest =>
    match skip with
    | skip + 1 => noticesAll skip rest
    | 0 =>
      match if node.named "img" then captionAfter? rest else none with
      | some (text, count) =>
        let source := String.ofList (Text.quoted (node.attributes.get "src"))
        let caption := String.ofList (Text.quoted text)
        s!"Inferred alt text for image {source}: {caption}" :: notices node ++ noticesAll count rest
      | none => notices node ++ noticesAll 0 rest
end

end Caption

end PageNotes
