import PageNotes.Text.Quoted
import PageNotes.Value.Basic

/-!
The options of the command line, and what can be wrong in its use.

* `CommandOption`: an option by its names, with its effect on the arguments;
* `commandOptions`: all options, in the order in which they are listed;
* `UsageError.message`: the words for a wrong use.
-/

namespace PageNotes

/-- What an option does with the arguments of the program. -/
inductive OptionEffect where
  /-- Takes a text. -/
  | text (argument : String)
  /-- Takes an integer. -/
  | integer (argument : String)
  /-- Turns something on by its first name and off by its second. -/
  | turn (argument : String)
  /-- Turns something on. -/
  | raise (argument : String)
  /-- Counts how often it stands there. -/
  | count (argument : String)
  | help
  | version
  deriving DecidableEq, Repr

/-- An option with its names. -/
structure CommandOption where
  names : List String
  effect : OptionEffect
  deriving DecidableEq, Repr

/-- Whether an option takes a text behind it. -/
def CommandOption.takesText (o : CommandOption) : Bool :=
  match o.effect with
  | .text _ => true
  | .integer _ => true
  | _ => false

/-- An option as messages name it. -/
def CommandOption.label (o : CommandOption) : String := "/".intercalate o.names

/-- The options, in the order in which they are listed. -/
def commandOptions : List CommandOption := [
  ⟨["-h", "--help"], .help⟩,
  ⟨["--version"], .version⟩,
  ⟨["--config"], .text "config"⟩,
  ⟨["--input-dir"], .text "input_dir"⟩,
  ⟨["--output-dir"], .text "output_dir"⟩,
  ⟨["--asset-dir"], .text "asset_dir"⟩,
  ⟨["--link-prefix"], .text "link_prefix"⟩,
  ⟨["--asset-prefix"], .text "asset_prefix"⟩,
  ⟨["--ignore-tags"], .text "ignore_tags"⟩,
  ⟨["--ignore-meta"], .text "ignore_meta"⟩,
  ⟨["--organizing-tag"], .text "organizing_tag"⟩,
  ⟨["--unnest-tags", "--no-unnest-tags"], .turn "unnest_tags"⟩,
  ⟨["--italics-to-alt", "--no-italics-to-alt"], .turn "italics_to_alt"⟩,
  ⟨["--workers"], .integer "workers"⟩,
  ⟨["--report"], .text "report"⟩,
  ⟨["--progress"], .raise "progress"⟩,
  ⟨["--log-file"], .text "log_file"⟩,
  ⟨["-v", "--verbose"], .count "verbose"⟩]

/-- The names of all options, each with its option. -/
def optionNames : List (Text × CommandOption) :=
  commandOptions.flatMap fun o => o.names.map fun name => (name.toList, o)

/-- The option with a name. -/
def optionNamed? (name : Text) : Option CommandOption := optionNames.lookup name

/-! ### Wrong use -/

/-- What can be wrong in the use of the command line. -/
inductive UsageError where
  /-- The begin of more than one name. -/
  | ambiguous (given : Text) (names : List Text)
  /-- An option without the text that it takes. -/
  | noText (o : CommandOption)
  /-- A text for an option that takes none. -/
  | unusedText (o : CommandOption) (t : Text)
  /-- A text for an option that takes an integer. -/
  | noInteger (o : CommandOption) (t : Text)
  /-- Words that are left. -/
  | unrecognized (words : List Text)
  deriving DecidableEq, Repr

/-- The words for a wrong use. -/
def UsageError.message : UsageError → Text
  | .ambiguous given names =>
    "ambiguous option: ".toList ++ given ++ " could match ".toList ++ Text.join [',', ' '] names
  | .noText o => s!"argument {o.label}: expected one argument".toList
  | .unusedText o t => s!"argument {o.label}: ignored explicit argument ".toList ++ t.quoted
  | .noInteger o t => s!"argument {o.label}: invalid int value: ".toList ++ t.quoted
  | .unrecognized words => "unrecognized arguments: ".toList ++ Text.join [' '] words

end PageNotes
