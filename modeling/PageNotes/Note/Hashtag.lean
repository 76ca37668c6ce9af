import PageNotes.Html.Tree
import PageNotes.Text.LetterCase

/-!
Hashtags: the tags of a note, which its page marks with the class `hashtag`.

* `cleanTag`: the tag that a marker's text stands for, if it is not ignored;
* `distinctTags`: the tags of several markers, each once;
* `TagSettings.of`: the ignored tags, the one that only sorts notes among them.
-/

namespace PageNotes

/-- How tags are read. -/
structure TagSettings where
  /-- Tags that are dropped, trimmed and in lower case. -/
  ignored : List Text
  /-- Whether only the last part of a tag with slashes is kept. -/
  unnest : Bool

/-- The settings for a list of ignored tags and the tag that only sorts notes. -/
def TagSettings.of (ignoreTags : List Text) (organizingTag : Option Text) (unnest : Bool) :
    TagSettings :=
  let listed := (ignoreTags.filter (!Text.allBlank ·)).map fun tag => Text.lower (Text.strip tag)
  let sorting := match organizingTag with
    | some tag =>
      if tag.allBlank then [] else [Text.lower (Text.trimStart (· = '#') (Text.strip tag))]
    | none => []
  ⟨listed ++ sorting, unnest⟩

/-- The text of a marker without its mark, and without the outer parts if these are dropped. -/
def tagBody (unnest : Bool) (raw : Text) : Text :=
  let tag := match Text.strip raw with
    | '#' :: rest => rest
    | tag => tag
  Text.strip (if unnest then tag.takeEnd (· ≠ '/') else tag)

/-- The tag that a marker stands for; none if it is empty or ignored. -/
def cleanTag (settings : TagSettings) (raw : Text) : Option Text :=
  let tag := tagBody settings.unnest raw
  if tag.isEmpty || settings.ignored.contains tag.lower then none else some tag

/-- The message about a marker that is ignored. -/
def ignoredNotice? (settings : TagSettings) (raw : Text) : Option String :=
  let tag := tagBody settings.unnest raw
  if !tag.isEmpty && settings.ignored.contains tag.lower then
    some s!"Ignoring tag '{String.ofList tag}'"
  else none

/-- The first of equal tags, in order. -/
def distinctTags (tags : List Text) : List Text :=
  tags.foldl (fun kept tag => if kept.contains tag then kept else kept ++ [tag]) []

/-- Whether an element marks a tag. -/
def isMarker (node : Node) : Bool := node.attributes.classes.contains "hashtag".toList

/-- The texts of the markers of a document, in order. -/
def markerTexts (document : Forest) : List Text :=
  ((forestElements document).filter isMarker).map Node.innerText

/-- The tags of a document. -/
def documentTags (settings : TagSettings) (document : Forest) : List Text :=
  distinctTags ((markerTexts document).filterMap (cleanTag settings))

end PageNotes
