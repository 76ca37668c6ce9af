import PageNotes.Numeric.Reading
import PageNotes.Disk.Basic
import PageNotes.Settings.Config
import PageNotes.Settings.Environment
import PageNotes.Settings.Error

/-!
Settings read from values of any kind. Lists may be written with commas, truth values as words, and
numbers as text.

* `readList`, `readFlag`, `readCount`: values as lists, truth values and integers;
* `Config.ofMembers`: the settings by name, put over those that hold when nothing is said;
* `Config.check`: what must hold of settings before a run;
* `Config.ofSettings`: the settings by name, checked.
-/

namespace PageNotes

/-! ### Values -/

/-- The items of a list, of a text with commas, or the keys of a mapping. -/
def Value.items? : Value → Option (List Value)
  | .null => some []
  | .text t => some ((Text.split ',' t).map .text)
  | .list items => some items
  | .mapping members => some (members.map (·.1))
  | _ => none

/-- The items of a value in lower case and without the blanks around them; empty ones are left
out. -/
def readList (value : Value) : Except SettingsError (List Text) :=
  match value.items? with
  | none => .error (.notList value)
  | some items =>
    if items.any Value.hasLongInteger then .error .longInteger
    else
      let stripped := items.map fun item => Text.strip item.display
      .ok ((stripped.filter fun t => !t.isEmpty).map Text.lower)

/-- The words for truth. -/
def trueWords : List String := ["true", "1", "yes", "on"]

/-- The words for untruth; no word is one of them. -/
def falseWords : List String := ["false", "0", "no", "off", ""]

/-- The truth value that a setting has. -/
def readFlag (name : String) (value : Value) : Except SettingsError Bool :=
  match value with
  | .bool b => .ok b
  | .null => .ok false
  | value =>
    let word := String.ofList (Text.lower (Text.strip value.display))
    if value.hasLongInteger then .error .longInteger
    else if trueWords.contains word then .ok true
    else if falseWords.contains word then .ok false
    else .error (.invalid (.notBoolean name value))

/-- The integer that a setting has; the fraction of a number is cut off. -/
def readCount (name : String) (value : Value) : Except SettingsError Int :=
  let invalid : Except SettingsError Int :=
    .error (if value.hasLongInteger then .longInteger else .invalid (.notInteger name value))
  match value with
  | .int n => .ok n
  | .float (.infinite _) => .error .infiniteInteger
  | .float x =>
    match x.truncate? with
    | some n => .ok n
    | none => invalid
  | .text t =>
    match readInteger 10 t with
    | .ok n => .ok n
    | .error _ => invalid
  | _ => invalid

/-! ### Settings -/

/-- The settings with one that is a text. -/
def Config.setText (c : Config) (name : String) (t : Text) : Config :=
  match name with
  | "input_folder" => { c with inputFolder := t }
  | "output_folder" => { c with outputFolder := t }
  | "image_folder" => { c with imageFolder := t }
  | "link_prefix" => { c with linkPrefix := t }
  | "asset_prefix" => { c with assetPrefix := t }
  | "organizing_tag" => { c with organizingTag := some t }
  | _ => c

/-- The settings with one of any kind; nothing in the place of a text changes nothing. -/
def Config.set (c : Config) (name : String) (value : Value) : Except SettingsError Config :=
  match name with
  | "ignore_tags" => (readList value).map fun tags => { c with ignoreTags := tags }
  | "ignore_meta" => (readList value).map fun names => { c with ignoreMeta := names }
  | "unnest_tags" => (readFlag name value).map fun b => { c with unnestTags := b }
  | "italics_to_alt" => (readFlag name value).map fun b => { c with italicsToAlt := b }
  | "max_workers" => (readCount name value).map fun n => { c with workers := n }
  | _ =>
    match value with
    | .null => .ok c
    | value =>
      if value.hasLongInteger then .error .longInteger else .ok (c.setText name value.display)

/-- Settings by name put over others, in order. -/
def Config.setAll (c : Config) : Members → Except SettingsError Config
  | [] => .ok c
  | (key, value) :: rest =>
    match c.set (String.ofList key.display) value with
    | .ok c => c.setAll rest
    | .error e => .error e

/-- The names of settings. -/
def settingNames : List String := settingLabels.map (·.1)

/-- Whether a key is the name of a setting. -/
def isSettingName : Value → Bool
  | .text t => settingNames.contains (String.ofList t)
  | _ => false

/-- The text of a key. -/
def keyName? : Value → Option Text
  | .text t => some t
  | _ => none

/-- Refuses members that are no settings. -/
def checkNames (members : Members) : Except SettingsError Unit :=
  let unknown := (members.map (·.1)).filter fun key => !isSettingName key
  match unknown.mapM keyName? with
  | none => .error .notName
  | some [] => .ok ()
  | some names => .error (.invalid (.unknownNames (names.mergeSort Text.le)))

/-- The settings by name, put over those that hold when nothing is said. -/
def Config.ofMembers (members : Members) : Except SettingsError Config :=
  match checkNames members with
  | .error e => .error e
  | .ok () => Config.setAll {} members

/-! ### Checks -/

/-- The folders among the settings. -/
def Config.folders (c : Config) : List (String × Text) := [
  ("input_folder", c.inputFolder), ("output_folder", c.outputFolder),
  ("image_folder", c.imageFolder)]

/-- What is wrong with a folder: it is missing, or a placeholder is left. -/
def folderFault? (name : String) (folder : Text) : Option InvalidSetting :=
  if folder.isEmpty then some (.missing name)
  else (findPlaceholder? folder).map (.unsetVariable name folder)

/-- What is wrong with the settings, if anything is. -/
def Config.fault? (v : Volume) (c : Config) : Option InvalidSetting :=
  match c.folders.findSome? fun (name, folder) => folderFault? name folder with
  | some fault => some fault
  | none =>
    if c.workers < 1 then some .noWorkers
    else match v.entryAt? c.outputFolder with
      | some (.file _) => some (.outputNotDirectory c.outputFolder)
      | _ => none

/-- The settings, if a run may have them. -/
def Config.check (v : Volume) (c : Config) : Except SettingsError Config :=
  match c.fault? v with
  | some fault => .error (.invalid fault)
  | none => .ok c

/-- The settings by name, put over those that hold when nothing is said, if a run may have them. -/
def Config.ofSettings (v : Volume) (members : Members) : Except SettingsError Config :=
  match Config.ofMembers members with
  | .error e => .error e
  | .ok c => c.check v

end PageNotes
