import PageNotes.Text.Blank
import PageNotes.Markdown.Surroundings

/-!
White space in Markdown: runs of it count once, blank lines part blocks, and spaces at the ends of
a marked text stand outside the marks.

* `joinParts`: the parts of an element, with at most two line ends where two parts meet;
* `chomp`: a text with its outer spaces set apart;
* `mapLines`: a change line by line.
-/

namespace PageNotes

/-! ### Runs -/

/-- White space within a line. -/
def isLineSpace (c : Char) : Bool := c = ' ' || c = '\t'

/-- Settles runs of white space; `pending` stands for the run before, if there is one. -/
def settleFrom (pending : Option Char) : Text → Text
  | [] => pending.toList
  | c :: t =>
    if c = '\n' || c = '\r' then settleFrom (some '\n') t
    else if isLineSpace c then settleFrom (some (if pending = some '\n' then '\n' else ' ')) t
    else pending.toList ++ c :: settleFrom none t

/-- Runs of white space: a line feed for those that hold a line end, a space for the others. -/
def settleRuns (t : Text) : Text := settleFrom none t

/-- Every run of white space as one space. -/
abbrev spaceRuns (t : Text) : Text := Text.replaceRuns isMarkupSpace [' '] t

/-- Drops white space at both ends. -/
abbrev trimSpace (t : Text) : Text := Text.trim isMarkupSpace t

/-! ### Lines -/

/-- The lines of a text. -/
abbrev linesOf (t : Text) : List Text := Text.split '\n' t

/-- The text with the given lines. -/
abbrev ofLines (lines : List Text) : Text := Text.join ['\n'] lines

/-- Changes a text line by line. -/
def mapLines (f : Text → Text) (t : Text) : Text := ofLines ((linesOf t).map f)

/-- Puts spaces before every line that is not empty. -/
def indentLines (width : Nat) (t : Text) : Text :=
  mapLines (fun line => if line.isEmpty then [] else List.replicate width ' ' ++ line) t

/-! ### Parts of an element -/

/-- Some line ends. -/
def newlines (n : Nat) : Text := List.replicate n '\n'

/-- The number of line ends between two parts: the greater number, but not more than two, if both
have some. -/
def meetingLines (trailing leading : Nat) : Nat :=
  if 0 < trailing ∧ 0 < leading then min 2 (max trailing leading) else trailing + leading

/-- Joins parts, of which the one before ended with `trailing` line ends. -/
def joinPartsAfter (trailing : Nat) : List Text → Text
  | [] => newlines trailing
  | part :: rest =>
    let leading := (part.takeWhile (· = '\n')).length
    let body : Text := part.drop leading
    let between := newlines (meetingLines trailing leading)
    if body.isEmpty then between ++ joinPartsAfter 0 rest
    else
      let ending := (body.takeEnd (· = '\n')).length
      between ++ body.take (body.length - ending) ++ joinPartsAfter ending rest

/-- Joins the parts of an element; empty ones do not count. -/
def joinParts (parts : List Text) : Text := joinPartsAfter 0 (parts.filter (!·.isEmpty))

/-! ### Marked texts -/

/-- A text whose outer spaces are set apart. -/
structure Chomped where
  before : Text
  core : Text
  after : Text

/-- Sets the outer spaces of a text apart; other blanks at its ends are dropped. -/
def chomp (t : Text) : Chomped :=
  ⟨if t.head? = some ' ' then [' '] else [], Text.strip t,
    if t.getLast? = some ' ' then [' '] else []⟩

/-- A text between marks, its outer spaces outside them; nothing if there is no text. -/
def markedWith (opening closing t : Text) : Text :=
  let c := chomp t
  if c.core.isEmpty then [] else c.before ++ opening ++ c.core ++ closing ++ c.after

end PageNotes
