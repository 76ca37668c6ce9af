import PageNotes.Markdown.Spacing

/-!
The last step of rendering: outside code, runs of blank lines become one empty line, and the text
neither starts nor ends with a line end.
-/

namespace PageNotes

/-- Whether a line opens or closes a block of code. -/
def isFence (line : Text) : Bool := ['`', '`', '`'].isPrefixOf (Text.strip line)

/-- The lines that stay: all within code, and of a run of blank lines the first, emptied. -/
def keepLines (inCode afterBlank : Bool) : List Text → List Text
  | [] => []
  | line :: rest =>
    if isFence line then line :: keepLines (!inCode) false rest
    else if !inCode && line.allBlank then
      if afterBlank then keepLines inCode true rest else [] :: keepLines inCode true rest
    else line :: keepLines inCode false rest

/-- The text without superfluous blank lines. -/
def cleanUp (t : Text) : Text :=
  Text.trim (· = '\n') (ofLines (keepLines false false (linesOf t)))

end PageNotes
