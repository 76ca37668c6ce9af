import PageNotes.CommandLine.Option
import PageNotes.Numeric.Reading

/-!
The arguments of the program from the words of its command line. Options may be shortened to the
begin of a name as long as it is the begin of one name only, options of one letter may be put
together, and behind two hyphens all words are plain words.

* `Arguments`: the arguments by name;
* `Arguments.read`: the arguments that words denote, or why the program stops at them.
-/

namespace PageNotes

/-- The arguments by name. -/
abbrev Arguments := Members

/-- The arguments where no word is given. -/
def Arguments.standard : Arguments :=
  ["input_file", "config", "input_dir", "output_dir", "asset_dir", "link_prefix", "asset_prefix",
    "ignore_tags", "ignore_meta", "organizing_tag", "unnest_tags", "italics_to_alt", "workers",
    "report"].map (fun name => (Value.text name.toList, Value.null))
  ++ [(.text "progress".toList, .bool false), (.text "log_file".toList, .null),
    (.text "verbose".toList, .int 0)]

/-- Why the program stops at its words: it is asked for help or for its version, or is not used
rightly. -/
inductive UsageStop where
  | help
  | version
  | error (e : UsageError)
  deriving DecidableEq, Repr

/-! ### Words -/

/-- An option as it stands on the command line: under which name, and the text in the same word. -/
structure GivenOption where
  option : CommandOption
  name : Text
  text : Option Text

/-- A word of the command line. -/
inductive Word where
  | plain (t : Text)
  /-- Two hyphens, behind which all words are plain. -/
  | separator
  | option (o : GivenOption)
  | unknownOption (t : Text)

/-- Whether a word is a negative number. -/
def isNegativeNumber (t : Text) : Bool :=
  let t := if t.getLast? = some '\n' then t.dropLast else t
  match t with
  | '-' :: t =>
    match Text.cut '.' t with
    | (whole, none) => !whole.isEmpty && whole.all isDigit
    | (whole, some fraction) => whole.all isDigit && !fraction.isEmpty && fraction.all isDigit
  | _ => false

/-- The options that a word of two hyphens and more may mean, by the begin of their names. -/
def longOptions (word : Text) : List GivenOption :=
  let (start, text) := Text.cut '=' word
  (optionNames.filter fun (name, _) => name.startsWith start).map fun (name, o) => ⟨o, name, text⟩

/-- The options that a word of one hyphen may mean, by their letter or the begin of their names. -/
def shortOptions (word : Text) : List GivenOption :=
  optionNames.filterMap fun (name, o) =>
    if name = word.take 2 then some ⟨o, name, some (word.drop 2)⟩
    else if name.startsWith word then some ⟨o, name, none⟩
    else none

/-- The option that a word names in full, with the text behind an equals sign. -/
def namedOption? (word : Text) : Option GivenOption :=
  match optionNamed? word with
  | some o => some ⟨o, word, none⟩
  | none =>
    match Text.cut '=' word with
    | (name, some text) => (optionNamed? name).map fun o => ⟨o, name, some text⟩
    | (_, none) => none

/-- What a word is that begins with a hyphen and is longer. -/
def readHyphened (word : Text) : Except UsageError Word :=
  match namedOption? word with
  | some o => .ok (.option o)
  | none =>
    match if (word.drop 1).head? = some '-' then longOptions word else shortOptions word with
    | [o] => .ok (.option o)
    | [] => .ok (if isNegativeNumber word || word.has ' ' then .plain word else .unknownOption word)
    | several => .error (.ambiguous word (several.map (·.name)))

/-- What a word is. -/
def readWord (word : Text) : Except UsageError Word :=
  if word.head? = some '-' && word.length ≠ 1 then readHyphened word else .ok (.plain word)

/-- What the words of a command line are. -/
def readWords : List Text → Except UsageError (List Word)
  | [] => .ok []
  | word :: rest =>
    if word = ['-', '-'] then .ok (.separator :: rest.map .plain)
    else match readWord word, readWords rest with
      | .ok w, .ok ws => .ok (w :: ws)
      | .error e, _ => .error e
      | .ok _, .error e => .error e

/-! ### Effects -/

/-- What has been read of a command line. -/
structure CommandReading where
  arguments : Arguments := .standard
  /-- Whether the page to convert has been named, and whether by the last word. -/
  pageNamed : Bool := false
  pageJustNamed : Bool := false
  /-- Words that are left. -/
  unread : List Text := []

namespace CommandReading

/-- Gives an argument a value. -/
def set (r : CommandReading) (name : String) (value : Value) : CommandReading :=
  { r with arguments := r.arguments.set (.text name.toList) value, pageJustNamed := false }

/-- A word is left. -/
def leave (r : CommandReading) (word : Text) : CommandReading :=
  { r with unread := r.unread ++ [word], pageJustNamed := false }

/-- A plain word names the page to convert; one more is left. -/
def plain (r : CommandReading) (word : Text) : CommandReading :=
  if r.pageNamed then r.leave word
  else { r.set "input_file" (.text word) with pageNamed := true, pageJustNamed := true }

/-- Two hyphens mean nothing around the word that names the page; elsewhere they are left. -/
def separator (r : CommandReading) : CommandReading :=
  if !r.pageNamed || r.pageJustNamed then { r with pageJustNamed := false }
  else r.leave ['-', '-']

/-- The value of the text that an option takes; two hyphens are no text. -/
def textValue (o : CommandOption) (t : Text) : Except UsageError Value :=
  if t = ['-', '-'] then .ok (.list [])
  else match o.effect with
    | .integer _ =>
      match readInteger 10 t with
      | .ok n => .ok (.int n)
      | .error _ => .error (.noInteger o t)
    | _ => .ok (.text t)

/-- The option has its effect with the text that it takes. -/
def take (r : CommandReading) (o : CommandOption) (t : Text) : Except UsageStop CommandReading :=
  match textValue o t with
  | .error e => .error (.error e)
  | .ok value =>
    match o.effect with
    | .text argument => .ok (r.set argument value)
    | .integer argument => .ok (r.set argument value)
    | _ => .ok r

/-- The option has its effect under the name that was given. -/
def apply (r : CommandReading) (o : CommandOption) (name : Text) :
    Except UsageStop CommandReading :=
  match o.effect with
  | .turn argument => .ok (r.set argument (.bool (!name.startsWith "--no-".toList)))
  | .raise argument => .ok (r.set argument (.bool true))
  | .count argument =>
    match r.arguments.named? argument with
    | some (.int n) => .ok (r.set argument (.int (n + 1)))
    | _ => .ok (r.set argument (.int 1))
  | .help => .error .help
  | .version => .error .version
  | .text _ => .ok r
  | .integer _ => .ok r

/-- Options of one letter have their effects one after another. -/
def applyAll (r : CommandReading) : List CommandOption → Except UsageStop CommandReading
  | [] => .ok r
  | o :: rest =>
    match r.apply o [] with
    | .ok r => r.applyAll rest
    | .error stop => .error stop

end CommandReading

/-- The options of one letter that are put together behind one. -/
def joinedOptions (o : CommandOption) : Text → Except UsageError (List CommandOption)
  | [] => .error (.unusedText o [])
  | [c] =>
    match optionNamed? ['-', c] with
    | some next => .ok [o, next]
    | none => .error (.unusedText o [c])
  | c :: rest =>
    match optionNamed? ['-', c] with
    | some next => (joinedOptions next rest).map (o :: ·)
    | none => .error (.unusedText o (c :: rest))

/-- An option with a text in the same word. -/
def CommandReading.takeJoined (r : CommandReading) (o : GivenOption) (t : Text) :
    Except UsageStop CommandReading :=
  if o.option.takesText then r.take o.option t
  else if (o.name.drop 1).head? = some '-' then .error (.error (.unusedText o.option t))
  else match joinedOptions o.option t with
    | .ok options => r.applyAll options
    | .error e => .error (.error e)

/-- Reads words one after another; an option that takes a text may take it from the next word. -/
def CommandReading.readAll (r : CommandReading) : List Word → Except UsageStop CommandReading
  | [] => .ok r
  | .plain t :: rest => (r.plain t).readAll rest
  | .separator :: rest => r.separator.readAll rest
  | .unknownOption t :: rest => (r.leave t).readAll rest
  | .option ⟨o, name, some t⟩ :: rest =>
    match r.takeJoined ⟨o, name, some t⟩ t with
    | .ok r => r.readAll rest
    | .error stop => .error stop
  | .option ⟨o, name, none⟩ :: rest =>
    if o.takesText then
      match rest with
      | .plain t :: rest =>
        match r.take o t with
        | .ok r => r.readAll rest
        | .error stop => .error stop
      | _ => .error (.error (.noText o))
    else match r.apply o name with
      | .ok r => r.readAll rest
      | .error stop => .error stop

/-- The arguments that the words of a command line denote, or why the program stops at them. -/
def Arguments.read (words : List Text) : Except UsageStop Arguments :=
  match readWords words with
  | .error e => .error (.error e)
  | .ok ws =>
    match ({} : CommandReading).readAll ws with
    | .error stop => .error stop
    | .ok r =>
      if r.unread.isEmpty then .ok r.arguments else .error (.error (.unrecognized r.unread))

end PageNotes
