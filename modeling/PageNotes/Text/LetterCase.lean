import PageNotes.Text.Basic
import PageNotes.Text.CaseTable

/-!
Lower and upper case of a text, over all scripts. Two letters are not mapped one to one: the
dotted capital I has a lower-case form of two characters, and the capital sigma has two, the final
one at the end of a word.

* `Text.lower`, `Text.upper`;
* `endsWord` states when a sigma is final: a letter with case before it and none after it, the
  case-ignorable characters between being passed over.
-/

namespace PageNotes

/-- A letter with case. -/
def isCased (c : Char) : Bool := casedRanges.contains c.toNat

/-- A character that the rule for the final sigma looks through. -/
def isCaseIgnorable (c : Char) : Bool := caseIgnorableRanges.contains c.toNat

/-- The lower-case form of a character on its own. -/
def lowerForm (c : Char) : Text :=
  if c = 'İ' then ['i', Char.ofNat 0x307]
  else match CodeRun.lookup lowerRuns c.toNat with
    | some n => [Char.ofNat n]
    | none => [c]

/-- The upper-case form of a character. -/
def upperForm (c : Char) : Text :=
  match upperExpansions.lookup c.toNat with
  | some ns => ns.map Char.ofNat
  | none => match CodeRun.lookup upperRuns c.toNat with
    | some n => [Char.ofNat n]
    | none => [c]

/-- Whether a letter with case comes first among the characters that are not case-ignorable. -/
def startsWithCased : Text → Bool
  | [] => false
  | c :: t => if isCaseIgnorable c then startsWithCased t else isCased c

/-- The lower-case form of a text that follows a word (`inWord`) or starts one. -/
def Text.lowerAfter (inWord : Bool) : Text → Text
  | [] => []
  | c :: t =>
    let form := if c = 'Σ' then (if inWord && !startsWithCased t then ['ς'] else ['σ'])
      else lowerForm c
    form ++ Text.lowerAfter (if isCaseIgnorable c then inWord else isCased c) t

/-- The text in lower case. -/
def Text.lower (t : Text) : Text := Text.lowerAfter false t

/-- The text in upper case. -/
def Text.upper (t : Text) : Text := t.flatMap upperForm

end PageNotes
