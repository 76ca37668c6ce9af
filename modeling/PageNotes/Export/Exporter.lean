import PageNotes.Export.Store
import PageNotes.Note.Conversion
import PageNotes.Reference.PageLink
import PageNotes.Report.Tracker
import PageNotes.Session.Logging

/-!
Exporting pages: each page is loaded, converted, its assets copied into one folder, and its note
written to the place that mirrors the page's own. What goes wrong with a page is its outcome.

* `Exporter.exportFile`: one page;
* `Exporter.exportFiles`, `Exporter.exportAll`: some pages, and all below the input folder;
* `Exporter.outputPath`: where the note of a page goes;
* `Exporter.writeReport`: the report as a file.
-/

namespace PageNotes

/-- What exports pages. -/
structure Exporter where
  config : Config
  store : FileStore
  /-- The channel on which is logged what was done. -/
  channel : String
  /-- The present moment. -/
  now : Moment
  /-- The reading of the clock by which a run is timed. -/
  clock : Binary64 := .zero

namespace Exporter

/-- The channel of an exporter that works by itself. -/
def defaultChannel : String := mainChannel ++ ".exporters.markdown_exporter"

/-- An exporter on a channel, its store on a channel below. -/
def on (channel : String) (config : Config) (now : Moment) : Exporter :=
  ⟨config, ⟨.utf8, subchannel channel "store"⟩, channel, now, .zero⟩

/-- The folder of pages. -/
def inputFolder (e : Exporter) : Path := .ofText e.config.inputFolder

/-- The folder of notes. -/
def outputFolder (e : Exporter) : Path := .ofText e.config.outputFolder

/-- The folder of assets. -/
def imageFolder (e : Exporter) : Path := .ofText e.config.imageFolder

/-! ### One page -/

/-- The place of a page below the input folder; the folder itself for pages elsewhere and where a
path has a null character. -/
def relativeDirectory (e : Exporter) (working source : Path) : Path :=
  if source.hasNull || e.inputFolder.hasNull then ⟨.relative, []⟩
  else
    match (Path.resolve working source).parent.relativeTo? (Path.resolve working e.inputFolder) with
    | some names => ⟨.relative, names⟩
    | none => ⟨.relative, []⟩

/-- Where the note of a page goes. -/
def outputPath (e : Exporter) (working source : Path) : Path :=
  (e.outputFolder.join (e.relativeDirectory working source)).child (noteName source)

/-- The converter for pages of a volume. -/
def converter (e : Exporter) (s : Session) : Converter where
  config := e.config
  working := s.workingPath
  store := s.volume.isFile
  now := e.now

/-- The warning about an asset that cannot be copied. -/
def copyWarning (asset : Asset) : Warning :=
  ⟨.copyFailed, s!"Error copying file {asset.resolved}", some asset.resolved.toText⟩

/-- Copies assets; counts the copies and gives a warning for each that fails. -/
def copyAssets (e : Exporter) (s : Session) :
    List Asset → Except StoreError (Nat × List Warning) × Session
  | [] => (.ok (0, []), s)
  | asset :: rest =>
    match e.store.copyAsset s asset.resolved e.imageFolder (some asset.fileName) with
    | (.error cause, s) => (.error cause, s)
    | (.ok copied, s) =>
      match e.copyAssets s rest with
      | (.error cause, s) => (.error cause, s)
      | (.ok (count, warnings), s) =>
        if copied then (.ok (count + 1, warnings), s)
        else (.ok (count, copyWarning asset :: warnings), s)

/-- The page as it was read could not be used. -/
def unread (e : Exporter) (s : Session) (source : Path) (cause : StoreError) :
    Except StoreError Outcome × Session :=
  (.ok { source, status := .readFailed, error := some cause.message.toList },
    s.log .error e.channel cause.message)

/-- The page has no note. -/
def unconverted (e : Exporter) (s : Session) (source : Path) (cause : ConversionError) :
    Except StoreError Outcome × Session :=
  (.ok { source, status := .conversionFailed, error := some cause.message.toList },
    s.log .error e.channel s!"Conversion failed for {source}: {cause.message}")

/-- Copies the assets of a converted page and writes its note. -/
def deliver (e : Exporter) (s : Session) (c : Conversion) : Except StoreError Outcome × Session :=
  match e.copyAssets s c.assets with
  | (.error cause, s) => (.error cause, s)
  | (.ok (copied, failures), s) =>
    let warnings := c.warnings ++ failures
    let output := e.outputPath s.workingPath c.source
    match e.store.writeOutput s output c.note.text with
    | (.error cause, s) => (.error cause, s)
    | (.ok false, s) =>
      (.ok { source := c.source, status := .writeFailed, assetsCopied := copied, warnings
             error := some s!"Error writing file {output}".toList }, s)
    | (.ok true, s) =>
      (.ok { source := c.source, status := .success, output := some output, assetsCopied := copied
             warnings },
        s.log .info e.channel s!"Converted {c.source} to {output}")

/-- Exports one page. -/
def exportFile (e : Exporter) (s : Session) (source : Path) :
    Except StoreError Outcome × Session :=
  match e.store.load s.volume source.toText with
  | .error (.unreadable path cause) => e.unread s source (.unreadable path cause)
  | .error (.undecodable path cause) => e.unread s source (.undecodable path cause)
  | .error cause => (.error cause, s)
  | .ok html =>
    match (e.converter s).run (subchannel e.channel "converter") source html with
    | (.error cause, entries) => e.unconverted (s.writeAll entries) source cause
    | (.ok conversion, entries) => e.deliver (s.writeAll entries) conversion

/-! ### Many pages -/

/-- A run that goes on: the outcomes so far, their count, the session, and the error that keeps the
run from having a report. -/
structure Run where
  report : Report
  tracker : Tracker
  session : Session
  failure : Option StoreError

/-- One more page of a run. After an error, pages that are exported at the same time as others still
are, but they no longer count. -/
def Run.next (e : Exporter) (parallel : Bool) (r : Run) (source : Path) : Run :=
  if r.failure.isSome && !parallel then r
  else
    match e.exportFile r.session source with
    | (.error cause, s) => { r with session := s, failure := r.failure.or (some cause) }
    | (.ok outcome, s) =>
      if r.failure.isSome then { r with session := s }
      else
        let (_, tracker, s) := r.tracker.record outcome s
        { r with report := r.report.add outcome, tracker, session := s }

/-- Whether pages are exported at the same time. -/
def isParallel (e : Exporter) (paths : List Path) : Bool :=
  decide (1 < e.config.workers) && decide (1 < paths.length)

/-- A run over some pages, up to its end. -/
def run (e : Exporter) (s : Session) (paths : List Path) : Run :=
  let (tracker, s) := Tracker.enter { total := paths.length } e.clock s
  paths.foldl (Run.next e (e.isParallel paths)) ⟨.empty, tracker, s, none⟩

/-- Exports some pages. The folders for notes and assets are made first. -/
def exportFiles (e : Exporter) (s : Session) (paths : List Path) :
    Except StoreError Report × Session :=
  match FileStore.ensureDirectory s e.outputFolder with
  | (.error cause, s) => (.error (.disk cause), s)
  | (.ok (), s) =>
    match FileStore.ensureDirectory s e.imageFolder with
    | (.error cause, s) => (.error (.disk cause), s)
    | (.ok (), s) =>
      let r := e.run s paths
      let (_, s) := r.tracker.exit e.clock r.session
      match r.failure with
      | some cause => (.error cause, s)
      | none => (.ok r.report.sorted, s)

/-- The ending of pages that are looked for. -/
def pageEnding : Text := ".html".toList

/-- Exports all pages below the input folder. -/
def exportAll (e : Exporter) (s : Session) : Except StoreError Report × Session :=
  let s := s.log .info e.channel s!"Processing all HTML files in {e.inputFolder}..."
  match FileStore.find s.volume e.inputFolder pageEnding with
  | .error cause => (.error cause, s)
  | .ok [] => (.ok .empty, s.log .info e.channel s!"No HTML files found in {e.inputFolder}")
  | .ok paths =>
    e.exportFiles (s.log .info e.channel s!"Found {paths.length} HTML files to process") paths

/-- Writes a report as a file and tells whether it could be written. -/
def writeReport (e : Exporter) (s : Session) (report : Report) (path : Path) :
    Except StoreError Bool × Session :=
  e.store.writeOutput s path report.value.json

end Exporter

end PageNotes
