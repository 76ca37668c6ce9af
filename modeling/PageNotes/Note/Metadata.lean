import PageNotes.Html.Tree
import PageNotes.Text.LetterCase
import PageNotes.Time.Moment
import PageNotes.Reference.Kind
import PageNotes.Path.Basic

/-!
What a page states about itself: the fields of its `meta` elements, its title, its description
and its leading image.

* `Fields.set`: a later value of a field takes the place of the earlier one;
* `readFields`: the fields of a document that are not ignored;
* `Metadata.extract`: all of it, with the present moment for `created` and `modified` when the page
  does not state them.
-/

namespace PageNotes

/-! ### Fields -/

/-- Names with values, each name once, in the order in which they first came. -/
abbrev Fields := List (Text × Text)

/-- The value of a field. -/
def Fields.get? (fields : Fields) (key : Text) : Option Text := List.lookup key fields

/-- Gives a field a value, in its place if it is there already. -/
def Fields.set (fields : Fields) (key value : Text) : Fields :=
  match fields with
  | [] => [(key, value)]
  | (name, old) :: rest =>
    if name = key then (key, value) :: rest else (name, old) :: Fields.set rest key value

/-- The value of a field that is not empty. -/
def Fields.filled? (fields : Fields) (key : Text) : Option Text :=
  match fields.get? key with
  | some [] => none
  | value => value

/-- Names trimmed and in lower case, as they are compared; empty ones are dropped. -/
def foldNames (names : List Text) : List Text :=
  names.filterMap fun name => if name.allBlank then none else some (Text.lower (Text.strip name))

/-! ### Reading -/

/-- How metadata are read. -/
structure MetadataSettings where
  /-- Fields that are dropped, folded. -/
  ignored : List Text
  /-- What stands before the name of a published asset. -/
  assetPrefix : Text

/-- The name and the value that a `meta` element declares. -/
def declaration? (node : Node) : Option (Text × Text) :=
  if node.named "meta" then
    (node.attributes.get? "name").map fun name =>
      (Text.lower (Text.strip name), node.attributes.get "content")
  else none

/-- The fields that a document declares. -/
def readFields (ignored : List Text) (document : Forest) : Fields :=
  ((forestElements document).filterMap declaration?).foldl (fun fields (name, value) =>
    if name.isEmpty || ignored.contains name then fields else fields.set name value) []

/-- The trimmed text of the first element with a name, empty if there is none. -/
def textOfFirst (document : Forest) (name : String) : Text :=
  match firstNamed [name] document with
  | some node => Text.strip node.innerText
  | none => []

/-- The published name of the first image, empty if it is not a file of the page. -/
def leadImage (assetPrefix : Text) (document : Forest) : Text :=
  match firstNamed ["img"] document with
  | some image =>
    let source := image.attributes.get "src"
    if source.isEmpty || isAbsoluteReference source || isEmbeddedData source then []
    else assetPrefix ++ baseName source
  | none => []

/-- What a page states about itself. -/
structure Metadata where
  fields : Fields
  title : Text
  description : Text
  image : Text
  deriving DecidableEq, Repr

/-- The fields that hold a moment. -/
def momentFields : List Text := ["created".toList, "modified".toList]

/-- The title of a page that states none. -/
def untitled : Text := "Untitled".toList

/-- The present moment has no date. -/
structure NoTimestamp where
  deriving DecidableEq, Repr

/-- The words for a moment without a date. -/
def NoTimestamp.message (_ : NoTimestamp) : String := "date value out of range"

/-- The moment fields that are to be filled. -/
def missingMoments (fields : Fields) : List Text :=
  momentFields.filter fun key => (fields.filled? key).isNone

/-- The fields with the present moment where one is missing; the moment is read only then. -/
def fillMoments (now : Moment) (fields : Fields) : Except NoTimestamp Fields :=
  if missingMoments fields = [] then .ok fields
  else
    match now.timestamp? with
    | some stamp =>
      .ok ((missingMoments fields).foldl (fun fields key => fields.set key stamp) fields)
    | none => .error {}

/-- The first text that is not empty. -/
def firstFilled (candidates : List Text) (default : Text) : Text :=
  (candidates.find? (!·.isEmpty)).getD default

/-- What a page states about itself. -/
def Metadata.extract (settings : MetadataSettings) (now : Moment) (document : Forest) :
    Except NoTimestamp Metadata :=
  (fillMoments now (readFields settings.ignored document)).map fun fields =>
    { fields
      title := firstFilled [(fields.get? "title".toList).getD [], textOfFirst document "title",
        textOfFirst document "h1"] untitled
      description := firstFilled [(fields.get? "description".toList).getD [],
        textOfFirst document "p"] []
      image := leadImage settings.assetPrefix document }

/-- The messages about the fields that were filled. -/
def Metadata.notices (settings : MetadataSettings) (now : Moment) (document : Forest) :
    List String :=
  match now.timestamp? with
  | some stamp => (missingMoments (readFields settings.ignored document)).map fun key =>
      s!"No '{String.ofList key}' metadata, defaulting to {String.ofList stamp}"
  | none => []

end PageNotes
