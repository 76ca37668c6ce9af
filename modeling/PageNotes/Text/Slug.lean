import PageNotes.Text.Blank
import PageNotes.Text.LetterCase
import PageNotes.Text.Digit

/-!
Slugs: the names that pages and files have in links. A slug is in lower case and made of word
characters and single hyphens, with no hyphen at either end.

* `slugify`: the slug of any text;
* `IsSlug`: the texts that are slugs.
-/

namespace PageNotes

/-- What a slug may hold. -/
def isSlugChar (c : Char) : Bool := isWord c || c = '-'

/-- One hyphen in the place of every run of hyphens. -/
abbrev Text.singleHyphens (t : Text) : Text := Text.replaceRuns (· = '-') ['-'] t

/-- The slug of a text: in lower case, blanks as hyphens, other characters dropped, hyphens
single and none at the ends. -/
def slugify (t : Text) : Text :=
  let kept : Text := (Text.replaceRuns isBlank ['-'] t.lower).filter isSlugChar
  kept.singleHyphens.trim (· = '-')

/-- No two hyphens stand side by side. -/
def NoDoubleHyphen : Text → Prop
  | c :: d :: t => ¬(c = '-' ∧ d = '-') ∧ NoDoubleHyphen (d :: t)
  | _ => True

/-- The texts that are slugs. -/
structure IsSlug (t : Text) : Prop where
  lower : t.lower = t
  chars : ∀ c ∈ t, isSlugChar c = true
  single : NoDoubleHyphen t
  head : t.head? ≠ some '-'
  last : t.getLast? ≠ some '-'

end PageNotes
