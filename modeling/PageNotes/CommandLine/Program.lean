import PageNotes.CommandLine.Arguments
import PageNotes.Export.Exporter
import PageNotes.Settings.Source

/-!
The program on its command line: it sets up the log, finds the settings of the run, and exports one
page or all pages below the input folder.

* `Program`: what a run depends on besides the disk;
* `Program.run`: a run, with its exit code and all that it wrote.
-/

namespace PageNotes

/-- The name of the program on its command line. -/
def programName : String := "convert.py"

/-- The version of the program. -/
def programVersion : String := "1.0.0"

/-- What a run depends on besides the disk. -/
structure Program where
  words : List Text
  environment : Environment
  /-- The present moment. -/
  now : Moment

/-- What ends a run without an exit code of its own. -/
inductive ProgramError where
  | logging (e : LoggingError)
  | settings (e : SettingsError)
  | store (e : StoreError)
  deriving Repr

/-- The words for the reason. -/
def ProgramError.message : ProgramError → Text
  | .logging e => e.message
  | .settings e => e.message
  | .store e => e.message.toList

/-- Whether an error says that something is not on the disk. -/
def ProgramError.isAbsence : ProgramError → Bool
  | .settings (.noFile _) => true
  | .store (.noDirectory _) => true
  | .store (.disk (.refused .notFound _)) => true
  | _ => false

/-- Whether an error says that the settings have to be mended. -/
def ProgramError.isInvalidSetting : ProgramError → Bool
  | .settings (.invalid _) => true
  | _ => false

/-- The end of a run: its exit code, and what was written for the user apart from messages. -/
structure ProgramEnd where
  exit : Except ProgramError Nat
  output : Text
  session : Session

/-! ### Arguments -/

/-- The text of an argument; an empty one is none. -/
def Arguments.text? (a : Arguments) (name : String) : Option Text :=
  match a.named? name with
  | some (.text t) => if t.isEmpty then none else some t
  | _ => none

/-- How often the user asked for more of the log. -/
def Arguments.verbosity (a : Arguments) : Int :=
  match a.named? "verbose" with
  | some (.int n) => n
  | _ => 0

/-! ### Exporting -/

/-- A result of the exporter as one of the program. -/
abbrev Exported (α : Type) := Except ProgramError α × Session

/-- Exports the page that the user named; it must be a file with the ending of pages. -/
def exportNamed (e : Exporter) (s : Session) (page : Path) : Exported (Option Report) :=
  match s.volume.isFile page with
  | .error cause => (.error (.store (.disk cause)), s)
  | .ok there =>
    if there && page.extension = Exporter.pageEnding then
      match e.exportFiles s [page] with
      | (.ok report, s) => (.ok (some report), s)
      | (.error cause, s) => (.error (.store cause), s)
    else
      (.ok none, s.log .error mainChannel s!"File not found or not an HTML file: {page}")

/-- Exports all pages below the input folder. -/
def exportBelow (e : Exporter) (s : Session) : Exported (Option Report) :=
  match e.exportAll s with
  | (.ok report, s) => (.ok (some report), s)
  | (.error cause, s) =>
    if (ProgramError.store cause).isAbsence then
      (.ok none, s.log .error mainChannel
        s!"Error reading directory {String.ofList e.config.inputFolder}: {cause.message}")
    else (.error (.store cause), s)

/-- Writes the report where the user asked for it. -/
def saveReport (e : Exporter) (s : Session) (report : Report) (path : Option Text) :
    Exported Unit :=
  match path with
  | none => (.ok (), s)
  | some path =>
    match e.writeReport s report (.ofText path) with
    | (.ok true, s) => (.ok (), s.log .info mainChannel s!"Report saved to {String.ofList path}")
    | (.ok false, s) =>
      (.ok (), s.log .warning mainChannel s!"Failed to write report to {String.ofList path}")
    | (.error cause, s) => (.error (.store cause), s)

/-- The exit code for a report, and the last message. -/
def closeRun (s : Session) (report : Report) : Nat × Session :=
  if report.failed = 0 then
    (0, s.log .info mainChannel (s!"Converted {report.succeeded} document(s) with " ++
      s!"{report.warningCount} warning(s)"))
  else
    (1, s.log .warning mainChannel
      s!"Conversion completed with {report.failed} failed document(s)")

/-- Exports what the user asked for. -/
def exportAsked (e : Exporter) (s : Session) (a : Arguments) : Exported Nat :=
  let asked := match a.text? "input_file" with
    | some page => exportNamed e s (.ofText page)
    | none => exportBelow e s
  match asked with
  | (.error cause, s) => (.error cause, s)
  | (.ok none, s) => (.ok 1, s)
  | (.ok (some report), s) =>
    match saveReport e s report (a.text? "report") with
    | (.error cause, s) => (.error cause, s)
    | (.ok (), s) =>
      let (code, s) := closeRun s report
      (.ok code, s)

/-! ### The run -/

/-- The variables that a run with some words may ask for: those that hold settings, and those that
the settings file has placeholders for. -/
def wantedVariables (words : List Text) (v : Volume) : List Text :=
  let file := match Arguments.read words with
    | .ok a => a.text? "config"
    | .error _ => none
  let named := match file.bind v.entryAt? with
    | some (.file bytes) => placeholders (utf8DecodeLossy bytes)
    | _ => []
  settingVariables.map (fun (_, own) => own.toList) ++ named

/-- The sources of settings for a run. -/
def Program.sources (p : Program) (s : Session) (a : Arguments) : SettingsSources where
  volume := s.volume
  environment := p.environment
  holders := p.environment
  file := a.text? "config"
  arguments := a

/-- A run once its log is set up. -/
def Program.runLogged (p : Program) (a : Arguments) (s : Session) : Exported Nat :=
  let s := (s.logSection "HTML to Markdown Porter".toList).log .info mainChannel
    s!"Version: {programVersion}"
  match (p.sources s a).config with
  | .error e => (.error (.settings e), s)
  | .ok config =>
    exportAsked (.on mainChannel config p.now) (s.logSettings config.members) a

/-- A run with its arguments. -/
def Program.runWith (p : Program) (a : Arguments) (s : Session) : Exported Nat :=
  match s.setUpLogging { verbosity := a.verbosity, file := a.text? "log_file" } with
  | (.error e, s) => (.error (.logging e), s)
  | (.ok (), s) => p.runLogged a s

/-- The exit code for a wrong use and for settings that have to be mended. -/
def usageCode : Nat := 2

/-- Tells the user about an error that the program expects; all others end the run. -/
def tellUser (result : Exported Nat) : Exported Nat :=
  match result with
  | (.ok code, s) => (.ok code, s)
  | (.error e, s) =>
    if e.isAbsence then (.ok usageCode, s.printLine ("ERROR: File not found: ".toList ++ e.message))
    else if e.isInvalidSetting then
      (.ok usageCode, s.printLine ("ERROR: Configuration error: ".toList ++ e.message))
    else (.error e, s)

/-- The line about a wrong use. -/
def usageLine (e : UsageError) : Text := s!"{programName}: error: ".toList ++ e.message

/-- What the program shows when it is asked for help. -/
def helpText : Text :=
  s!"usage: {programName} [options] [input_file]\n".toList
    ++ (commandOptions.flatMap fun o => ' ' :: ' ' :: (o.label.toList ++ ['\n']))

/-- A run of the program. -/
def Program.run (p : Program) (s : Session) : ProgramEnd :=
  match Arguments.read p.words with
  | .error .help => ⟨.ok 0, helpText, s⟩
  | .error .version => ⟨.ok 0, s!"{programName} {programVersion}\n".toList, s⟩
  | .error (.error e) => ⟨.ok usageCode, [], s.printLine (usageLine e)⟩
  | .ok a =>
    let (exit, s) := tellUser (p.runWith a s)
    ⟨exit, [], s⟩

end PageNotes
