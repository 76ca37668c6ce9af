import PageNotes.Proofs.Disk.Null
import PageNotes.Proofs.Session.Growth
import PageNotes.Session.Logging

/-!
Setting up the log. A log file is made if it is not there, and one that cannot be made is told of
in a warning, so nothing but a null character in its path keeps the log from being set up.

* `Session.setUpLogging_named`: names on the volume stay names that entries can have;
* `Session.setUpLogging_error`: when the log cannot be set up.
-/

namespace PageNotes

namespace Session

variable {s : Session}

/-! ### Names after logging -/

lemma log_named (h : s.volume.IsNamed) (level : Level) (channel message : String) :
    (s.log level channel message).volume.IsNamed :=
  (log_agrees s level channel message).isNamed (log_grows s level channel message) h

lemma writeAll_named (h : s.volume.IsNamed) (entries : List LogEntry) :
    (s.writeAll entries).volume.IsNamed :=
  (writeAll_agrees s entries).isNamed (writeAll_grows s entries) h

lemma openLog_named (h : s.volume.IsNamed) {p : Path} (hp : ∀ name ∈ p.parts, IsPlain name)
    {place : Place} {s' : Session} (hopen : s.openLog p = .ok (place, s')) :
    s'.volume.IsNamed := by
  rw [openLog] at hopen
  cases hlocate : s.volume.locate p with
  | error cause =>
      rw [hlocate] at hopen
      cases hopen
  | ok q =>
      rw [hlocate] at hopen
      dsimp only at hopen
      split at hopen
      · cases hopen
      · cases hopen
        exact h
      · rename_i hnone
        cases hopen
        exact h.put hp hlocate (Disk.ne_root_of_find? (d := s.volume.disk) (by simp [hnone])) _

lemma logToFile_named (h : s.volume.IsNamed) (level : Level) (layout : LogLayout) (file : Text) :
    (s.logToFile level layout file).2.volume.IsNamed := by
  have hplain : ∀ name ∈ (Path.absolute s.workingPath (.ofText file)).parts, IsPlain name :=
    fun name hname => (Path.normalize_names (Path.join_isAbsolute rfl) (Path.join_plain
      (fun n hn => (h.working n hn).1.1) (Path.ofText_plain file)) name hname).1
  rw [logToFile]
  split
  · exact h
  · exact log_named h _ _ _
  · rename_i place s₁ hopen
    have hopened := openLog_named h hplain hopen
    split_ifs
    · exact log_named (s := s₁.addHandler ⟨.file place, level, layout⟩) hopened _ _ _
    · exact hopened

/-- Setting up the log puts no name on the volume that an entry cannot have. -/
lemma setUpLogging_named (h : s.volume.IsNamed) (r : LogRequest) :
    (s.setUpLogging r).2.volume.IsNamed := by
  rw [setUpLogging]
  cases Level.resolve r.verbosity r.level with
  | error name => exact h
  | ok level =>
      dsimp only
      generalize hlistening : { s with
        logging := ⟨level, [⟨.console, level, r.layout⟩]⟩ : Session } = s₁
      have hnamed : s₁.volume.IsNamed := hlistening ▸ h
      cases r.file with
      | none => exact log_named hnamed _ _ _
      | some file =>
          have hopened := logToFile_named hnamed level r.layout file
          cases file with
          | nil => exact log_named hnamed _ _ _
          | cons first rest =>
              dsimp only
              cases hfile : s₁.logToFile level r.layout (first :: rest) with
              | mk result s₂ =>
                  rw [hfile] at hopened
                  cases result with
                  | error cause => exact hopened
                  | ok => exact log_named hopened _ _ _

lemma openLog_null {p : Path} : s.openLog p = .error .nullCharacter ↔ p.hasNull = true := by
  rw [← Volume.locate_null (v := s.volume), openLog]
  cases s.volume.locate p with
  | error cause => simp
  | ok place =>
      dsimp only
      cases s.volume.disk.find? place with
      | none => simp
      | some entry => cases entry <;> simp

lemma logToFile_error {level : Level} {file : Text} {e : LoggingError} :
    (s.logToFile level .standard file).1 = .error e ↔
      e = .disk .nullCharacter ∧ (Path.absolute s.workingPath (.ofText file)).hasNull = true := by
  rw [← openLog_null, logToFile]
  cases s.openLog (Path.absolute s.workingPath (.ofText file)) with
  | error cause => cases cause <;> simp [eq_comm]
  | ok opened =>
      have hfield : LogLayout.standard.hasField = true := by decide +kernel
      simp [hfield]

/-- The log cannot be set up just when the path of its file has a null character. -/
lemma setUpLogging_error {verbosity : Int} {file : Option Text} {e : LoggingError} :
    (s.setUpLogging { verbosity, file }).1 = .error e ↔
      e = .disk .nullCharacter ∧ ∃ t, file = some t ∧ t ≠ [] ∧
        (Path.absolute s.workingPath (.ofText t)).hasNull = true := by
  rw [setUpLogging]
  have hlevel : Level.resolve verbosity none = .ok (Level.ofVerbosity verbosity) := rfl
  dsimp only
  rw [hlevel]
  dsimp only
  generalize hlistening : { s with logging := ⟨Level.ofVerbosity verbosity,
    [⟨.console, Level.ofVerbosity verbosity, .standard⟩]⟩ : Session } = s₁
  have hworking : s₁.workingPath = s.workingPath := hlistening ▸ rfl
  rw [← hworking]
  cases file with
  | none => simp
  | some t =>
      cases t with
      | nil => simp
      | cons first rest =>
          have hfile := @logToFile_error s₁ (Level.ofVerbosity verbosity) (first :: rest) e
          dsimp only
          cases hlogged : s₁.logToFile (Level.ofVerbosity verbosity) .standard (first :: rest) with
          | mk result s₂ =>
              rw [hlogged] at hfile
              cases result with
              | error cause => simpa using hfile
              | ok => simpa using hfile

end Session

end PageNotes
