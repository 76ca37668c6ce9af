import PageNotes.Value.Json

/-!
The settings of a run: where pages come from, where notes and assets go, how they are linked, and
what is left out.

* `Config`: the record, with the settings that hold when nothing is said;
* `Config.members`: the settings by name;
* `Config.lines`: the settings as they are shown to the user.
-/

namespace PageNotes

/-- The settings of a run. -/
structure Config where
  inputFolder : Text := "input".toList
  outputFolder : Text := "output".toList
  imageFolder : Text := "output/images".toList
  linkPrefix : Text := []
  assetPrefix : Text := []
  ignoreTags : List Text := []
  ignoreMeta : List Text := []
  organizingTag : Option Text := none
  unnestTags : Bool := false
  italicsToAlt : Bool := false
  workers : Int := 1
  deriving DecidableEq, Repr

/-- A list of texts as a value. -/
def Value.texts (ts : List Text) : Value := .list (ts.map Value.text)

/-- The settings by name. -/
def Config.members (c : Config) : Members := [
  (.text "input_folder".toList, .text c.inputFolder),
  (.text "output_folder".toList, .text c.outputFolder),
  (.text "image_folder".toList, .text c.imageFolder),
  (.text "link_prefix".toList, .text c.linkPrefix),
  (.text "asset_prefix".toList, .text c.assetPrefix),
  (.text "ignore_tags".toList, .texts c.ignoreTags),
  (.text "ignore_meta".toList, .texts c.ignoreMeta),
  (.text "organizing_tag".toList, .textOrNull c.organizingTag),
  (.text "unnest_tags".toList, .bool c.unnestTags),
  (.text "italics_to_alt".toList, .bool c.italicsToAlt),
  (.text "max_workers".toList, .int c.workers)]

/-! ### Display -/

/-- What a setting is called when it is shown. -/
def settingLabels : List (String × String) := [
  ("input_folder", "Input folder"),
  ("output_folder", "Output folder"),
  ("image_folder", "Asset folder"),
  ("link_prefix", "Link prefix"),
  ("asset_prefix", "Asset prefix"),
  ("ignore_tags", "Ignored tags"),
  ("ignore_meta", "Ignored meta fields"),
  ("organizing_tag", "Organizing tag"),
  ("unnest_tags", "Unnest tags"),
  ("italics_to_alt", "Captions as alt text"),
  ("max_workers", "Workers")]

/-- A setting as it is shown: items after one another, and a word where there is nothing. -/
def shownSetting (value : Option Value) : Text :=
  let shown := match value with
    | none | some .null => []
    | some (.list items) => Text.join [',', ' '] (items.map Value.display)
    | some value => value.display
  if shown.isEmpty then "(none)".toList else shown

/-- Settings as lines for the user. -/
def settingLines (members : Members) : List String :=
  settingLabels.map fun (name, label) =>
    s!"{label}: {String.ofList (shownSetting (members.named? name))}"

end PageNotes
