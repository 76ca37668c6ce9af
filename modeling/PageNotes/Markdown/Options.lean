import PageNotes.Numeric.Reading

/-!
The choices that Markdown leaves open, as one record, and what can go wrong in rendering.
-/

namespace PageNotes

/-- How headings are marked. -/
inductive HeadingStyle where
  /-- With number signs before the text. -/
  | hashes
  /-- With number signs before and after the text. -/
  | closedHashes
  /-- The first two levels with a line below the text. -/
  | underlined
  deriving DecidableEq, Repr

/-- The elements whose own conversion is used. -/
inductive ElementChoice where
  | all
  | except (names : List String)
  | only (names : List String)

/-- Whether an element is among those chosen. -/
def ElementChoice.allows : ElementChoice → String → Bool
  | .all, _ => true
  | .except names, name => !names.contains name
  | .only names, name => names.contains name

/-- How Markdown is written. -/
structure MarkdownOptions where
  headingStyle : HeadingStyle
  /-- The marks of list items, from the outermost list inwards, over and over. -/
  bullets : List Text
  escapeAsterisks : Bool
  escapeUnderscores : Bool
  /-- Whether all characters that Markdown could take as marks are escaped. -/
  escapeMarks : Bool
  /-- Whether the lines of the source count as spaces and paragraphs are filled. -/
  wrap : Bool
  /-- The width that paragraphs are filled to; none leaves their lines as they are. -/
  wrapWidth : Option Int
  /-- Whether a link whose text is its target is written short. -/
  autolinks : Bool
  /-- Whether the target of a link without a title is its title. -/
  defaultTitle : Bool
  /-- Whether a line break is a backslash rather than two spaces. -/
  backslashBreaks : Bool
  emphasis : Text
  subscript : Text
  superscript : Text
  /-- Whether the first row of a table without a head is its head. -/
  inferTableHead : Bool
  elements : ElementChoice

/-- The choices for notes. -/
def MarkdownOptions.standard : MarkdownOptions where
  headingStyle := .hashes
  bullets := [['-']]
  escapeAsterisks := false
  escapeUnderscores := false
  escapeMarks := false
  wrap := false
  wrapWidth := some 80
  autolinks := true
  defaultTitle := false
  backslashBreaks := false
  emphasis := ['*']
  subscript := []
  superscript := []
  inferTableHead := false
  elements := .all

/-- What can go wrong in rendering. -/
inductive RenderError where
  /-- A number that cannot be read. -/
  | number (e : NumberError)
  /-- Lines without any width. -/
  | noWidth (width : Int)
  /-- No marks to choose a bullet from. -/
  | noBullets
  /-- An element whose name is reserved for whole documents. -/
  | wholeDocument
  /-- An element whose name is reserved for a table of conversions. -/
  | conversionTable
  /-- An element whose conversion is defined as itself. -/
  | endless
  /-- An element that needs an identifier and has none. -/
  | noIdentifier
  deriving DecidableEq, Repr

/-- The words for what went wrong. -/
def RenderError.message : RenderError → String
  | .number e => e.message
  | .noWidth width => s!"invalid width {width} (must be > 0)"
  | .noBullets => "integer modulo by zero"
  | .wholeDocument =>
    "MarkdownConverter.convert_soup() got an unexpected keyword argument 'parent_tags'"
  | .conversionTable => "'dict' object is not callable"
  | .endless => "maximum recursion depth exceeded"
  | .noIdentifier => "'id'"

end PageNotes
