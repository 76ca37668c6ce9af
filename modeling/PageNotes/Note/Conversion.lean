import PageNotes.Html.Builder
import PageNotes.Log.Level
import PageNotes.Markdown.Render
import PageNotes.Note.Content
import PageNotes.Note.FrontMatter
import PageNotes.Reference.Rewrite
import PageNotes.Settings.Config

/-!
The conversion of a page to a note: what the page states about itself is read, its content found,
its references rewritten, and the rest rendered as Markdown.

* `Converter.run`: the conversion with its log;
* `Conversion`: the note with the assets that travel with it and the warnings.
-/

namespace PageNotes

/-- A page as a note, with the assets that travel with it and the warnings. -/
structure Conversion where
  source : Path
  note : Note
  assets : List Asset
  warnings : List Warning

/-- Why a page has no note. -/
inductive ConversionError where
  | noTimestamp (e : NoTimestamp)
  | disk (e : DiskError)
  | render (e : RenderError)
  deriving DecidableEq, Repr

/-- The words for the reason. -/
def ConversionError.message : ConversionError → String
  | .noTimestamp e => e.message
  | .disk e => e.message
  | .render e => e.message

/-- What a conversion depends on besides the page. -/
structure Converter where
  config : Config
  /-- The directory that relative paths start from. -/
  working : Path
  store : AssetStore
  /-- The present moment. -/
  now : Moment

/-! ### Settings of the stages -/

/-- How metadata are read. -/
def Config.metadata (c : Config) : MetadataSettings := ⟨foldNames c.ignoreMeta, c.assetPrefix⟩

/-- How content is found. -/
def Config.content (c : Config) : ContentSettings :=
  ⟨TagSettings.of c.ignoreTags c.organizingTag c.unnestTags, c.italicsToAlt⟩

/-- How the references of a page are rewritten. -/
def Converter.rewriting (c : Converter) (source : Path) : RewriteSettings where
  linkPrefix := c.config.linkPrefix
  assetPrefix := c.config.assetPrefix
  working := c.working
  directory := source.parent
  store := c.store

/-! ### The log -/

/-- A channel below another. -/
def subchannel (channel name : String) : String := channel ++ "." ++ name

/-- Messages of one level on one channel. -/
def entriesOf (level : Level) (channel : String) (messages : List String) : List LogEntry :=
  messages.map fun message => ⟨level, channel, message⟩

/-- The messages about missing assets. -/
def warningNotices (warnings : List Warning) : List String :=
  warnings.map fun warning => s!"Warning: {warning.message}"

/-- The message about a finished conversion. -/
def Conversion.notice (c : Conversion) (m : Metadata) : String :=
  s!"Converted {c.source}: title={String.ofList m.title.quoted}, {c.note.tags.length} tag(s), " ++
    s!"{c.assets.length} asset(s), {c.warnings.length} warning(s)"

/-! ### The conversion -/

namespace Converter

/-- The conversion of a page that was read from `source`, and what it logs on a channel. -/
def run (c : Converter) (channel : String) (source : Path) (html : Text) :
    Except ConversionError Conversion × List LogEntry :=
  let document := Document.parse html
  let started := entriesOf .info channel [s!"Converting {source}"]
  match Metadata.extract c.config.metadata c.now document with
  | .error e => (.error (.noTimestamp e), started)
  | .ok metadata =>
    let content := Content.sanitize c.config.content document
    let rewriting := Rewriting.of (c.rewriting source) content.document
    let search := rewriting.search
    let found := started
      ++ entriesOf .debug (subchannel channel "metadata")
        (Metadata.notices c.config.metadata c.now document)
      ++ entriesOf .debug (subchannel channel "sanitizer")
        (Content.notices c.config.content document)
      ++ entriesOf .warning (subchannel channel "references") (warningNotices search.warnings)
    match search.failure with
    | some e => (.error (.disk e), found)
    | none =>
      let rewritten := found
        ++ entriesOf .debug (subchannel channel "references") [rewriting.summary]
        ++ entriesOf .debug (subchannel channel "renderer") ["Rendering document to markdown"]
      match Document.render .standard rewriting.document with
      | .error e => (.error (.render e), rewritten)
      | .ok body =>
        let note := Note.build metadata content.tags body
        let conversion : Conversion := ⟨source, note, search.assets, search.warnings⟩
        (.ok conversion, rewritten
          ++ entriesOf .debug (subchannel channel "front_matter") [note.notice]
          ++ entriesOf .debug channel [conversion.notice metadata])

/-- The conversion of a page that was read from `source`. -/
def convert (c : Converter) (source : Path) (html : Text) : Except ConversionError Conversion :=
  (c.run "" source html).1

end Converter

end PageNotes
