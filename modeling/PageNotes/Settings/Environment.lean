import PageNotes.Text.Digit
import PageNotes.Value.Basic

/-!
Variables of the environment: those that hold settings, and placeholders in texts that stand for
variables.

* `Environment.members`: the settings that the environment holds;
* `findPlaceholder?`: the first variable that a text has a placeholder for;
* `Value.substitute`: a value with variables in the place of their placeholders.

`substitute_eq_self` says that a text without placeholder stays as it is.
-/

namespace PageNotes

/-- Variables with their values. -/
abbrev Environment := List (Text × Text)

/-- The value of a variable. -/
def Environment.get? (e : Environment) (name : Text) : Option Text := e.lookup name

/-- The settings with the variables that hold them. -/
def settingVariables : List (String × String) := [
  ("input_folder", "INPUT_FOLDER"),
  ("output_folder", "OUTPUT_FOLDER"),
  ("image_folder", "IMAGE_FOLDER"),
  ("link_prefix", "RELATIVE_LINK_PATH"),
  ("asset_prefix", "RELATIVE_IMAGE_PATH"),
  ("ignore_tags", "IGNORE_TAGS"),
  ("ignore_meta", "IGNORE_META"),
  ("organizing_tag", "ORGANIZING_TAG"),
  ("unnest_tags", "UNNEST_TAGS"),
  ("italics_to_alt", "ITALICS_TO_ALT"),
  ("max_workers", "MAX_WORKERS")]

/-- The settings that the environment holds. -/
def Environment.members (e : Environment) : Members :=
  settingVariables.filterMap fun (name, own) =>
    (e.get? own.toList).map fun value => (.text name.toList, .text value)

/-! ### Placeholders -/

/-- A character that the name of a variable may begin with. -/
def isVariableStart (c : Char) : Bool := isAsciiLetter c || c = '_'

/-- A character of the name of a variable. -/
def isVariableChar (c : Char) : Bool := isVariableStart c || isAsciiDigit c

/-- The variable that a text begins with a placeholder for. -/
def placeholderAt? : Text → Option Text
  | '$' :: '\x7b' :: t =>
    let name := t.takeWhile isVariableChar
    if name.head?.any isVariableStart && (t.drop name.length).head? = some '\x7d' then some name
    else none
  | _ => none

/-- The first variable that a text has a placeholder for. -/
def findPlaceholder? : Text → Option Text
  | [] => none
  | c :: t =>
    match placeholderAt? (c :: t) with
    | some name => some name
    | none => findPlaceholder? t

/-- All variables that a text has placeholders for. -/
def placeholders : Text → List Text
  | [] => []
  | c :: t =>
    match placeholderAt? (c :: t) with
    | some name => name :: placeholders t
    | none => placeholders t

/-- The text that comes in the place of a placeholder, with the length of the placeholder. -/
def Environment.fill (e : Environment) (t : Text) : Option (Nat × Text) :=
  match placeholderAt? t with
  | some name => (e.get? name).map fun value => (name.length + 3, value)
  | none => none

/-- A text with variables in the place of their placeholders; the placeholder of a variable that is
not set stays. -/
def Environment.substitute (e : Environment) (t : Text) : Text :=
  Text.replaceFound (fun _ => e.fill) true 0 t

/-- A text without placeholder stays as it is. -/
theorem substitute_eq_self (e : Environment) {t : Text} (h : findPlaceholder? t = none) :
    e.substitute t = t := by
  have all : ∀ (b : Bool) (t : Text), findPlaceholder? t = none →
      Text.replaceFound (fun _ => e.fill) b 0 t = t := by
    intro b t
    induction t generalizing b with
    | nil => intro _; rfl
    | cons c t ih =>
      intro h
      rw [findPlaceholder?] at h
      split at h
      · cases h
      · next none_here => simp [Text.replaceFound, Environment.fill, none_here, ih false h]
  exact all true t h

mutual
/-- A value with variables in the place of their placeholders; keys stay as they are. -/
def Value.substitute (e : Environment) : Value → Value
  | .text t => .text (e.substitute t)
  | .list items => .list (Value.substituteAll e items)
  | .mapping members => .mapping (Value.substituteMembers e members)
  | value => value

/-- Values with variables in the place of their placeholders. -/
def Value.substituteAll (e : Environment) : List Value → List Value
  | [] => []
  | item :: rest => item.substitute e :: Value.substituteAll e rest

/-- Members with variables in the place of the placeholders in their values. -/
def Value.substituteMembers (e : Environment) : List (Value × Value) → List (Value × Value)
  | [] => []
  | (key, value) :: rest => (key, value.substitute e) :: Value.substituteMembers e rest
end

end PageNotes
