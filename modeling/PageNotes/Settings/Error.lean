import PageNotes.Value.Basic
import PageNotes.Yaml.Value

/-!
What can be wrong with settings.

* `InvalidSetting`: what a user has to mend in the settings;
* `SettingsError`: that, or a reason why there are no settings to look at.
-/

namespace PageNotes

/-- What a user has to mend in the settings. -/
inductive InvalidSetting where
  | unknownNames (names : List Text)
  | notBoolean (name : String) (value : Value)
  | notInteger (name : String) (value : Value)
  | missing (name : String)
  /-- A variable for a placeholder is not set. -/
  | unsetVariable (name : String) (value unset : Text)
  | noWorkers
  | outputNotDirectory (path : Text)
  /-- The settings file has no names and values. -/
  | notMapping
  /-- The section for conversion has no names and values. -/
  | sectionNotMapping
  deriving Repr

/-- What can be wrong with settings. -/
inductive SettingsError where
  | invalid (reason : InvalidSetting)
  /-- A value that is no list and no text. -/
  | notList (value : Value)
  /-- A key that is no name. -/
  | notName
  | infiniteInteger
  /-- An integer that is too long for a text. -/
  | longInteger
  | noFile (path : Text)
  | directory (path : Text)
  | undecodable (e : DecodeError)
  | yaml (fault : Yaml.Fault)
  deriving Repr

/-- The section of a settings file that counts. -/
def settingsSection : String := "conversion"

/-- The words for what is to be mended. -/
def InvalidSetting.message : InvalidSetting → Text
  | .unknownNames names => "Unknown configuration keys: ".toList ++ Text.join [',', ' '] names
  | .notBoolean name value => s!"{name} must be a boolean, got ".toList ++ value.quoted
  | .notInteger name value => s!"{name} must be an integer, got ".toList ++ value.quoted
  | .missing name => s!"Missing required configuration: {name}".toList
  | .unsetVariable name value unset =>
    s!"Configuration field '{name}' contains unsubstituted environment variable: ".toList
      ++ value ++ ". Please set the ".toList ++ unset
      ++ " environment variable or provide a value in config file.".toList
  | .noWorkers => "max_workers must be a positive integer".toList
  | .outputNotDirectory path => "output_folder '".toList ++ path ++ "' is not a directory".toList
  | .notMapping => "Configuration file must contain a dictionary".toList
  | .sectionNotMapping => s!"'{settingsSection}' section must be a dictionary".toList

/-- The words for what is wrong. -/
def SettingsError.message : SettingsError → Text
  | .invalid reason => reason.message
  | .notList value => value.quoted ++ " is no list".toList
  | .notName => "a name must be a text".toList
  | .infiniteInteger => "cannot convert float infinity to integer".toList
  | .longInteger => longIntegerMessage.toList
  | .noFile path => "Configuration file not found: ".toList ++ path
  | .directory path => "[Errno 21] Is a directory: ".toList ++ path.quoted
  | .undecodable e => e.message.toList
  | .yaml fault => fault.message.toList

end PageNotes
