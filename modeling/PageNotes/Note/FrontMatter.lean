import PageNotes.Note.Metadata

/-!
Notes: front matter, tags and a body in Markdown. The front matter starts with the title, the
description, the image if there is one, and the tags; the other fields of the page follow in their
order.

* `Note.build`: the note for what a page states about itself;
* `Note.header`, `Note.text`: the front matter between its marks, and the whole file.
-/

namespace PageNotes

/-- A note. -/
structure Note where
  frontMatter : List (Text × Text)
  tags : List Text
  body : Text
  deriving DecidableEq, Repr

/-- A text between double quotes, as it stands. -/
def quotedField (t : Text) : Text := '"' :: (t ++ ['"'])

/-- Tags as a list on one line. -/
def tagList (tags : List Text) : Text :=
  '[' :: (Text.join [',', ' '] (tags.map quotedField) ++ [']'])

/-- The fields that come first, for a page with this image. -/
def leadingFields (image : Text) : List Text :=
  let always := ["title".toList, "description".toList, "tags".toList]
  if image.isEmpty then always else "image".toList :: always

/-- The front matter of a page with some tags. -/
def frontMatterOf (m : Metadata) (tags : List Text) : List (Text × Text) :=
  [("title".toList, quotedField m.title), ("description".toList, quotedField m.description)]
    ++ (if m.image.isEmpty then [] else [("image".toList, quotedField m.image)])
    ++ [("tags".toList, tagList tags)]
    ++ m.fields.filter fun (key, _) => !(leadingFields m.image).contains key

namespace Note

/-- The note for what a page states about itself, its tags and its Markdown. -/
def build (m : Metadata) (tags : List Text) (body : Text) : Note :=
  ⟨frontMatterOf m tags, tags, body⟩

/-- A field on a line of its own. -/
def fieldLine (field : Text × Text) : Text := field.1 ++ ':' :: ' ' :: field.2

/-- The line before and after the front matter. -/
def fence : Text := "---".toList

/-- The front matter between its marks. -/
def header (n : Note) : Text :=
  Text.join ['\n'] (fence :: (n.frontMatter.map fieldLine ++ [fence]))

/-- The file: front matter, an empty line, the body. -/
def text (n : Note) : Text := n.header ++ '\n' :: '\n' :: (n.body ++ ['\n'])

/-- The message about the front matter. -/
def notice (n : Note) : String := s!"Front matter has {n.frontMatter.length} field(s)"

end Note

end PageNotes
