import PageNotes.Markdown.Options
import PageNotes.Markdown.Spacing

/-!
Marked texts within a line: emphasis, code, links, quotations, pictures and films. Inside code no
mark is written.
-/

namespace PageNotes

/-- A text between marks. A mark in angle brackets is closed as an element is. -/
def markText (s : Surroundings) (mark t : Text) : Text :=
  let closing := if mark.head? = some '<' && mark.getLast? = some '>' then '<' :: '/' :: mark.drop 1
    else mark
  if s.verbatim then t else markedWith mark closing t

/-- Code within a line: between more backticks than stand in a row in the text, with spaces inside
them if there are any. -/
def codeText (s : Surroundings) (t : Text) : Text :=
  if s.verbatim then t
  else
    let c := chomp t
    let run := Text.longestRun '`' c.core
    let fence := List.replicate (run + 1) '`'
    let core := if run = 0 then c.core else ' ' :: (c.core ++ [' '])
    if c.core.isEmpty then [] else c.before ++ fence ++ core ++ fence ++ c.after

/-- The title of a link or a picture, behind its target. -/
def titlePart (title : Text) : Text :=
  if title.isEmpty then [] else ' ' :: '"' :: (Text.replaceChar '"' ['\\', '"'] title ++ ['"'])

/-- Undoes the escaping of underscores. -/
def unescapeUnderscores (t : Text) : Text :=
  Text.replaceFound (fun _ rest => if ['\\', '_'].isPrefixOf rest then some (2, ['_']) else none)
    true 0 t

/-- A link; written short if its text is its target. -/
def linkText (o : MarkdownOptions) (s : Surroundings) (attributes : Attributes) (t : Text) : Text :=
  if s.verbatim then t
  else
    let c := chomp t
    let target := attributes.get? "href"
    let title := attributes.get "title"
    if c.core.isEmpty then []
    else if o.autolinks && some (unescapeUnderscores c.core) = target && title.isEmpty
        && !o.defaultTitle then
      '<' :: (target.getD [] ++ ['>'])
    else
      let title := if o.defaultTitle && title.isEmpty then target.getD [] else title
      match target with
      | none | some [] => c.core
      | some target =>
        c.before ++ '[' :: (c.core ++ ']' :: '(' :: (target ++ titlePart title ++ ')' :: c.after))

/-- A picture; on one line only its alternative text. -/
def pictureText (s : Surroundings) (attributes : Attributes) : Text :=
  let alternative := attributes.get "alt"
  if s.inline then alternative
  else '!' :: '[' :: (alternative ++ ']' :: '(' ::
    (attributes.get "src" ++ titlePart (attributes.get "title") ++ [')']))

/-- The source of a film: its own, or the first one that is given inside it. -/
def filmSource (attributes : Attributes) (children : Forest) : Text :=
  let own := attributes.get "src"
  if own.isEmpty then
    match (forestElements children).find? fun node =>
        node.named "source" && (node.attributes.get? "src").isSome with
    | some node => node.attributes.get "src"
    | none => []
  else own

/-- A film: a link to it, shown by its poster if it has one. -/
def filmText (s : Surroundings) (attributes : Attributes) (children : Forest) (t : Text) : Text :=
  if s.inline then t
  else
    let source := filmSource attributes children
    let poster := attributes.get "poster"
    let picture (src : Text) : Text := '!' :: '[' :: (t ++ ']' :: '(' :: (src ++ [')']))
    match source.isEmpty, poster.isEmpty with
    | false, false => '[' :: (picture poster ++ ']' :: '(' :: (source ++ [')']))
    | false, true => '[' :: (t ++ ']' :: '(' :: (source ++ [')']))
    | true, false => picture poster
    | true, true => t

/-- A quotation within a line. -/
def quotationText (t : Text) : Text := '"' :: (t ++ ['"'])

/-- A line break behind the text of its element. -/
def breakText (o : MarkdownOptions) (s : Surroundings) (t : Text) : Text :=
  if s.inline then (if t.isEmpty then [' '] else t ++ [' '])
  else (if o.backslashBreaks then ['\\', '\n'] else [' ', ' ', '\n']) ++ t

end PageNotes
