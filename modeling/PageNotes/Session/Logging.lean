import PageNotes.Session.Basic
import PageNotes.Settings.Config

/-!
Setting up the log of a session: the level, a console in colours, and a file if one is asked for.
A file that cannot be opened gives a warning.

* `LogRequest`: what is asked for;
* `Session.setUpLogging`: the session with the handlers in place;
* `Session.logSection`, `Session.logSettings`: a heading in the log, and the settings of a run.
-/

namespace PageNotes

/-- What is asked of the log. -/
structure LogRequest where
  verbosity : Int := 0
  file : Option Text := none
  level : Option Text := none
  layout : LogLayout := .standard

/-- Why the log cannot be set up. -/
inductive LoggingError where
  | unknownLevel (name : Text)
  /-- The pattern of lines has no field. -/
  | invalidLayout (line : Text)
  | disk (e : DiskError)
  deriving DecidableEq, Repr

/-- The words for the reason. -/
def LoggingError.message : LoggingError → Text
  | .unknownLevel name => "Invalid log level '".toList ++ name ++ ['\'']
  | .invalidLayout line => "Invalid format '".toList ++ line ++ "' for '%' style".toList
  | .disk e => e.message.toList

namespace Session

/-- Opens a file for lines at its end, and makes it if it is not there. -/
def openLog (s : Session) (p : Path) : Except DiskError (Place × Session) :=
  match s.volume.locate p with
  | .error e => .error e
  | .ok place =>
    match s.volume.disk.find? place with
    | some .directory => .error (.refused .isDirectory p)
    | some (.file _) => .ok (place, s)
    | none =>
      .ok (place, { s with volume := s.volume.withDisk (s.volume.disk.put place (.file [])) })

/-- The session with one more handler. -/
def addHandler (s : Session) (h : LogHandler) : Session :=
  { s with logging := { s.logging with handlers := s.logging.handlers ++ [h] } }

/-- The path of the directory that relative paths start from. -/
def workingPath (s : Session) : Path := ⟨.slash, s.volume.working⟩

/-- A file listens to the log as well. -/
def logToFile (s : Session) (level : Level) (layout : LogLayout) (file : Text) :
    Except LoggingError Unit × Session :=
  match s.openLog (Path.absolute s.workingPath (.ofText file)) with
  | .error .nullCharacter => (.error (.disk .nullCharacter), s)
  | .error e =>
    (.ok (), s.log .warning mainChannel
      s!"Could not open log file {String.ofList file}: {e.message}")
  | .ok (place, s) =>
    if layout.hasField then
      (.ok (), (s.addHandler ⟨.file place, level, layout⟩).log .info mainChannel
        s!"Writing log to {String.ofList file}")
    else (.error (.invalidLayout layout.line), s)

/-- The session with its log set up: what listened before is dismissed. -/
def setUpLogging (s : Session) (r : LogRequest) : Except LoggingError Unit × Session :=
  match Level.resolve r.verbosity r.level with
  | .error name => (.error (.unknownLevel name), s)
  | .ok level =>
    let s := { s with logging := ⟨level, [⟨.console, level, r.layout⟩]⟩ }
    let opened : Except LoggingError Unit × Session := match r.file with
      | none | some [] => (.ok (), s)
      | some file => s.logToFile level r.layout file
    match opened with
    | (.error e, s) => (.error e, s)
    | (.ok (), s) => (.ok (), s.log .debug mainChannel s!"Log level set to {Level.name level}")

/-! ### Headings and settings -/

/-- The line above and below a heading. -/
def banner : String := String.ofList (List.replicate 60 '=')

/-- A heading in the log. -/
def logSection (s : Session) (title : Text) : Session :=
  s.writeAll ([banner, s!"  {String.ofList title.upper}", banner].map
    fun message => ⟨.info, mainChannel, message⟩)

/-- The settings of a run in the log. -/
def logSettings (s : Session) (members : Members) : Session :=
  (s.logSection "Configuration".toList).writeAll ((settingLines members).map
    fun message => ⟨.info, mainChannel, message⟩)

end Session

end PageNotes
