import PageNotes.Note.Hashtag
import PageNotes.Note.Caption

/-!
The content of a page: what is left when the head, scripts, styles and the like are removed, the
hashtags are taken out and captions have become alternative texts.

* `forestPrune`: a forest without the trees whose root is rejected;
* `Content.sanitize`: the content of a document and its tags.
-/

namespace PageNotes

mutual
/-- A tree without the subtrees below its root whose root is rejected. -/
def Node.prune (rejected : Node → Bool) : Node → Node
  | .element name attributes children => .element name attributes (forestPrune rejected children)
  | .text role content => .text role content
  | .comment content => .comment content
  | .doctype content => .doctype content

/-- A forest without the trees whose root is rejected, at any depth. -/
def forestPrune (rejected : Node → Bool) : Forest → Forest
  | [] => []
  | node :: rest =>
    if rejected node then forestPrune rejected rest
    else node.prune rejected :: forestPrune rejected rest
end

/-- Elements that hold nothing to read. -/
def isNonContent (node : Node) : Bool :=
  ["head", "script", "style", "noscript", "template"].any node.named

/-- How the content of a page is found. -/
structure ContentSettings where
  tags : TagSettings
  /-- Whether captions become alternative texts. -/
  italicsToAlt : Bool

/-- The content of a page and its tags. -/
structure Content where
  document : Forest
  tags : List Text

/-- A document without what holds nothing to read. -/
def readable (document : Forest) : Forest := forestPrune isNonContent document

/-- A document without its markers. -/
def withoutMarkers (document : Forest) : Forest := forestPrune isMarker document

/-- The content of a document and its tags. -/
def Content.sanitize (settings : ContentSettings) (document : Forest) : Content :=
  let kept := readable document
  let plain := withoutMarkers kept
  { document := if settings.italicsToAlt then Caption.inferAll 0 plain else plain
    tags := documentTags settings.tags kept }

/-- The messages about tags and captions, and about the result. -/
def Content.notices (settings : ContentSettings) (document : Forest) : List String :=
  let kept := readable document
  let captions := if settings.italicsToAlt then Caption.noticesAll 0 (withoutMarkers kept) else []
  let tags := documentTags settings.tags kept
  (markerTexts kept).filterMap (ignoredNotice? settings.tags) ++ captions
    ++ [s!"Sanitized document, {tags.length} tag(s) extracted"]

end PageNotes
