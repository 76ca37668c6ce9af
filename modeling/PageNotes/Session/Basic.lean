import PageNotes.Disk.Operations
import PageNotes.Log.Layout

/-!
Sessions: what the steps of a run share. A session has a volume, a log with the handlers that
listen to it, and what has been written on the console.

* `Session.log`: one more entry, if its level counts, written by every handler;
* `log_volume`: logging leaves the volume as it is while no handler writes to a file.
-/

namespace PageNotes

/-- The channel of the whole program. All channels of its parts lie below it. -/
def mainChannel : String := "html_markdown_porter"

/-! ### Listening -/

/-- Where lines of the log go. -/
inductive LogOutlet where
  | console
  | file (place : Place)
  deriving DecidableEq, Repr

/-- What writes entries from a level on. -/
structure LogHandler where
  outlet : LogOutlet
  level : Level
  layout : LogLayout
  deriving DecidableEq, Repr

/-- The level of the main channel and what listens to it. -/
structure Logging where
  level : Level
  handlers : List LogHandler
  deriving DecidableEq, Repr

/-- Whether a channel is the main channel or lies below it. -/
def isMainChannel (channel : String) : Bool :=
  channel = mainChannel || (mainChannel.toList ++ ['.']).isPrefixOf channel.toList

/-- The level from which entries on a channel count; warnings do where nothing else is said. -/
def Logging.threshold (l : Logging) (channel : String) : Level :=
  if isMainChannel channel && l.level ≠ .unset then l.level else .warning

/-! ### Sessions -/

/-- What the steps of a run share. -/
structure Session where
  volume : Volume
  logging : Logging
  /-- The entries of the log, in order. -/
  entries : List LogEntry
  /-- What was written on the console. -/
  console : Text
  /-- The time on log lines. -/
  logTime : Moment

namespace Session

/-- A session that nothing listens to, with the level of the main channel. -/
def quiet (volume : Volume) (level : Level) (logTime : Moment) : Session :=
  ⟨volume, ⟨level, []⟩, [], [], logTime⟩

/-- Adds bytes to the end of a file. -/
def appendTo (s : Session) (place : Place) (bytes : Bytes) : Session :=
  match s.volume.disk.find? place with
  | some (.file content) =>
    { s with volume := s.volume.withDisk (s.volume.disk.put place (.file (content ++ bytes))) }
  | _ => s

/-- A handler writes an entry. -/
def handle (entry : LogEntry) (s : Session) (h : LogHandler) : Session :=
  if entry.level < h.level then s
  else match h.outlet with
    | .console =>
      match h.layout.consoleLine? s.logTime entry with
      | some line => { s with console := s.console ++ line ++ ['\n'] }
      | none => s
    | .file place =>
      match h.layout.line? s.logTime entry with
      | some line => s.appendTo place (utf8Encode (line ++ ['\n']))
      | none => s

/-- One more entry in the log, if its level counts on its channel. -/
def write (s : Session) (entry : LogEntry) : Session :=
  if entry.level < s.logging.threshold entry.channel then s
  else
    let s := { s with entries := s.entries ++ [entry] }
    if isMainChannel entry.channel then s.logging.handlers.foldl (handle entry) s else s

/-- A message in the log. -/
def log (s : Session) (level : Level) (channel message : String) : Session :=
  s.write ⟨level, channel, message⟩

/-- Several entries in the log. -/
def writeAll (s : Session) (entries : List LogEntry) : Session := entries.foldl write s

/-- A line on the console. -/
def printLine (s : Session) (line : Text) : Session :=
  { s with console := s.console ++ line ++ ['\n'] }

/-- Whether no handler writes to a file. -/
def logsToNoFile (s : Session) : Prop := ∀ h ∈ s.logging.handlers, h.outlet = .console

theorem handle_logging (entry : LogEntry) (s : Session) (h : LogHandler) :
    (s.handle entry h).logging = s.logging := by
  unfold handle
  split
  · rfl
  · split
    · split <;> rfl
    · split
      · unfold appendTo
        split <;> rfl
      · rfl

theorem handle_volume (entry : LogEntry) (s : Session) {h : LogHandler} (hh : h.outlet = .console) :
    (s.handle entry h).volume = s.volume := by
  unfold handle
  split
  · rfl
  · rw [hh]
    dsimp only
    split <;> rfl

/-- Logging leaves the volume as it is while no handler writes to a file. -/
theorem log_volume {s : Session} (hs : s.logsToNoFile) (entry : LogEntry) :
    (s.write entry).volume = s.volume := by
  have fold : ∀ (hs : List LogHandler) (s : Session), (∀ h ∈ hs, h.outlet = .console) →
      (hs.foldl (handle entry) s).volume = s.volume := by
    intro hs
    induction hs with
    | nil => intros; rfl
    | cons h hs ih =>
      intro s hh
      rw [List.foldl_cons, ih _ fun x hx => hh x (List.mem_cons_of_mem _ hx),
        handle_volume entry s (hh h List.mem_cons_self)]
  unfold write
  split
  · rfl
  · dsimp only
    split
    · exact fold _ _ hs
    · rfl

end Session

end PageNotes
