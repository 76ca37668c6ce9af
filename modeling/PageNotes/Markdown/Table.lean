import PageNotes.Markdown.Block

/-!
Tables: a row is a line of cells between bars, and a line of dashes stands below the head. A table
without a head gets an empty one.
-/

namespace PageNotes

/-- A table. -/
def tableText (t : Text) : Text := '\n' :: '\n' :: (Text.strip t ++ ['\n', '\n'])

/-- The caption of a table. -/
def captionText (t : Text) : Text := Text.strip t ++ ['\n', '\n']

/-- The number of columns that a cell takes up. -/
def columnSpan (attributes : Attributes) : Except RenderError Nat :=
  let span := attributes.get "colspan"
  if !span.isEmpty && span.all isDigitSign then
    (readNumber span).map fun n => max 1 (min 1000 n)
  else .ok 1

/-- A cell on one line, with a bar for every column. -/
def cellText (attributes : Attributes) (t : Text) : Except RenderError Text :=
  (columnSpan attributes).map fun span =>
    ' ' :: (Text.replaceChar '\n' [' '] (Text.strip t)
      ++ (List.replicate span [' ', '|']).flatten)

/-- A line of a number of equal cells. -/
def equalCells (count : Nat) (cell : Text) : Text :=
  '|' :: ' ' :: (Text.join [' ', '|', ' '] (List.replicate count cell) ++ [' ', '|', '\n'])

/-- The columns that some cells take up. -/
def totalSpan : Forest → Except RenderError Nat
  | [] => .ok 0
  | cell :: rest => do
    let span ← columnSpan cell.attributes
    let others ← totalSpan rest
    return span + others

/-- The number of elements with a name below a forest. -/
def countNamed (name : String) (forest : Forest) : Nat :=
  ((forestElements forest).filter (Node.named name)).length

/-- Whether a node is the first element among its siblings. -/
def isFirstElement (before : Forest) : Bool := !before.any Node.isElement

/-- A row of a table, with the head line or an empty head if it is the first. -/
def rowText (o : MarkdownOptions) (s : Surroundings) (children : Forest) (t : Text) :
    Except RenderError Text := do
  let cells := (forestElements children).filter fun node => node.name?.any isCell
  let first := isFirstElement s.before
  let parentRows := match s.parent? with
    | some parent => countNamed "tr" parent.children
    | none => 0
  let isHead := cells.all (Node.named "th") || s.childOf "thead" && parentRows = 1
  let inBody := s.childOf "tbody"
  let tableHeads := match s.ancestors[1]? with
    | some outer => countNamed "thead" outer.children
    | none => 0
  let headMissing := first && (!inBody || tableHeads = 0)
  let span ← totalSpan cells
  let dashes := equalCells span "---".toList
  let row := '|' :: (t ++ ['\n'])
  if (isHead || headMissing && o.inferTableHead) && first then return row ++ dashes
  else if headMissing && !o.inferTableHead ||
      first && (s.childOf "table" ||
        inBody && s.parent?.all fun parent => isFirstElement parent.before) then
    return equalCells span [] ++ dashes ++ row
  else return row

end PageNotes
