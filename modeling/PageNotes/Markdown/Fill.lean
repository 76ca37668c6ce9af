import PageNotes.Markdown.Spacing

/-!
Filling paragraphs: the words of a line are set one after another into lines of a given width. A
word that is wider stands on a line of its own.
-/

namespace PageNotes

/-- White space between the words of a line. -/
def isWordSpace (c : Char) : Bool :=
  c = ' ' || c = '\t' || c = '\n' || c = '\r' || c = '\x0b' || c = '\x0c'

/-- The words of a line and the spaces between them, in turn. -/
def wordsAndSpaces : Text → List Text
  | [] => []
  | c :: t =>
    match wordsAndSpaces t with
    | [] => [[c]]
    | piece :: rest =>
      if piece.head?.any fun d => isWordSpace d = isWordSpace c then (c :: piece) :: rest
      else [c] :: piece :: rest

/-- A line without spaces at its end, if anything is left of it. -/
def closeLine (pieces : List Text) : List Text :=
  let kept := match pieces.getLast? with
    | some last => if Text.allBlank last then pieces.dropLast else pieces
    | none => []
  if kept.isEmpty then [] else [kept.flatten]

/-- Sets pieces into lines: `line` holds those of the current line, which is `used` wide. -/
def fillFrom (width : Nat) (first : Bool) (line : List Text) (used : Nat) :
    List Text → List Text
  | [] => closeLine line
  | piece :: rest =>
    let size := piece.length
    if line.isEmpty && !first && Text.allBlank piece then fillFrom width first [] 0 rest
    else if used + size ≤ width then fillFrom width first (line ++ [piece]) (used + size) rest
    else if line.isEmpty then piece :: fillFrom width false [] 0 rest
    else closeLine line ++
      (if Text.allBlank piece then fillFrom width false [] 0 rest
      else if size ≤ width then fillFrom width false [piece] size rest
      else piece :: fillFrom width false [] 0 rest)

/-- Spaces in the place of tabulators, up to the next of the columns that lie eight apart. -/
def expandTabs (column : Nat) : Text → Text
  | [] => []
  | c :: t =>
    if c = '\t' then
      let size := 8 - column % 8
      List.replicate size ' ' ++ expandTabs (column + size) t
    else c :: expandTabs (if c = '\r' then 0 else column + 1) t

/-- A line filled to a width. -/
def fillLine (width : Nat) (t : Text) : Text :=
  let spaced := (expandTabs 0 t).map fun c => if isWordSpace c then ' ' else c
  ofLines (fillFrom width true [] 0 (wordsAndSpaces spaced))

/-- A paragraph filled line by line, with the blanks at the end of each line behind it. -/
def fillParagraph (width : Nat) (t : Text) : Text :=
  mapLines (fun line =>
    let line : Text := Text.trimStart isMarkupSpace line
    fillLine width line ++ line.takeEnd isBlank) t

end PageNotes
