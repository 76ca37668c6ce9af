import PageNotes.Settings.Reading

/-!
Where settings come from: a settings file, the environment, and the command line. Each of them
counts more than the one before.

* `loadSettings`: the settings in a file, with variables in the place of their placeholders;
* `Members.putArguments`: the arguments of the command line put over settings;
* `SettingsSources.config`: the settings of a run from all sources.
-/

namespace PageNotes

/-! ### Settings files -/

/-- Whether a value counts as nothing. -/
def Value.isNothing : Value → Bool
  | .null => true
  | .bool b => !b
  | .int n => n = 0
  | .float x => x.units? = some 0
  | .text t => t.isEmpty
  | .list items => items.isEmpty
  | .mapping members => members.isEmpty
  | _ => false

/-- The members of the section that counts; all members if there is no such section. -/
def sectionOf (members : Members) : Except SettingsError Members :=
  match members.named? settingsSection with
  | none => .ok members
  | some (.mapping own) => .ok own
  | some _ => .error (.invalid .sectionNotMapping)

/-- The settings in the text of a settings file. -/
def settingsOfText (e : Environment) (t : Text) : Except SettingsError Members :=
  match Yaml.read t with
  | .error fault => .error (.yaml fault)
  | .ok (value, endless) =>
    if value.isNothing then .ok []
    else match value with
      | .mapping members =>
        if endless then .error (.yaml .endless)
        else sectionOf (Value.substituteMembers e members)
      | _ => .error (.invalid .notMapping)

/-- The settings in a file. -/
def loadSettings (v : Volume) (e : Environment) (path : Text) : Except SettingsError Members :=
  match v.entryAt? path with
  | none => .error (.noFile path)
  | some .directory => .error (.directory path)
  | some (.file bytes) =>
    match utf8Decode bytes with
    | .error cause => .error (.undecodable cause)
    | .ok t => settingsOfText e t.unifyLineEnds

/-! ### Arguments -/

/-- The names of arguments with the settings that they are put over. -/
def argumentSettings : List (String × String) := [
  ("input_dir", "input_folder"),
  ("output_dir", "output_folder"),
  ("asset_dir", "image_folder"),
  ("link_prefix", "link_prefix"),
  ("asset_prefix", "asset_prefix"),
  ("ignore_tags", "ignore_tags"),
  ("ignore_meta", "ignore_meta"),
  ("organizing_tag", "organizing_tag"),
  ("unnest_tags", "unnest_tags"),
  ("italics_to_alt", "italics_to_alt"),
  ("workers", "max_workers")]

/-- The arguments that are given, as settings. -/
def givenArguments (arguments : Members) : Members :=
  argumentSettings.filterMap fun (argument, setting) =>
    match arguments.named? argument with
    | none | some .null => none
    | some value => some (.text setting.toList, value)

/-- Settings with the arguments that are given put over them. -/
def Members.putArguments (settings arguments : Members) : Members :=
  settings.update (givenArguments arguments)

/-! ### All sources -/

/-- The sources of settings. -/
structure SettingsSources where
  volume : Volume
  /-- The variables for placeholders. -/
  environment : Environment
  /-- The variables that hold settings. -/
  holders : Environment
  /-- The path of a settings file; the empty path is none. -/
  file : Option Text := none
  arguments : Members := []

/-- The settings in the file, if there is one. -/
def SettingsSources.loaded (s : SettingsSources) : Except SettingsError Members :=
  match s.file with
  | none | some [] => .ok []
  | some path => loadSettings s.volume s.environment path

/-- The settings of a run. -/
def SettingsSources.config (s : SettingsSources) : Except SettingsError Config :=
  match s.loaded with
  | .error e => .error e
  | .ok loaded =>
    Config.ofSettings s.volume ((loaded.update s.holders.members).putArguments s.arguments)

end PageNotes
