import PageNotes.Proofs.CommandLine.Selection
import PageNotes.Proofs.Session.Logging

/-!
Exit codes. A run of the program is ready to export once its log is set up and its settings are
read; then it is asked for some pages, exports them, and saves the report. Each of these can go
wrong in few ways, and the exit code tells of some of them alone.

* `Program.ready`: the exporter with the settings of a run;
* `Program.LacksSettings`, `Program.Succeeds`, `Program.Raises`: when a run ends with the code for
  settings, with the code for success, and without a code;
* `Program.Exits`: the ways in which a run ends, of which it takes one and no other;
* `Program.run_exit_iff`: the exit code of a run.
-/

namespace PageNotes

open Exporter (selection_error)

/-! ### Reports on disk -/

/-- In an encoding with all characters, writing a file gives an error just when its path has a null
character and its directory can be made or has one itself. -/
lemma FileStore.writeOutput_error_utf8 {store : FileStore} {s : Session} {p : Path} {content : Text}
    {cause : StoreError} (hutf8 : store.encoding = .utf8) :
    (store.writeOutput s p content).1 = .error cause ↔
      cause = .disk .nullCharacter ∧ p.hasNull = true ∧
        ∀ e, (ensureDirectory s p.parent).1 = .error e → e = .nullCharacter := by
  rw [writeOutput_escapes_iff]
  constructor
  · intro h
    cases h with
    | directory h =>
        refine ⟨rfl, Path.hasNull_parent h, fun e he => ?_⟩
        rw [ensureDirectory_null.mpr h] at he
        exact (Except.error.inj he).symm
    | file hmade h =>
        refine ⟨rfl, h, fun e he => ?_⟩
        rw [hmade] at he
        cases he
    | text hopen he =>
        rw [hutf8] at he
        cases he
  · rintro ⟨rfl, hnull, hnone⟩
    cases hmade : (ensureDirectory s p.parent).1 with
    | ok => exact .file hmade hnull
    | error e => exact .directory (ensureDirectory_null.mp (hnone e hmade ▸ hmade))

/-- A report fails for a document just when one of its outcomes is no success. -/
lemma Report.failed_eq_zero (r : Report) :
    r.failed = 0 ↔ ∀ o ∈ r.outcomes, o.status = .success := by
  have hsum := r.succeeded_add_failed
  rw [total, succeeded] at hsum
  have hall : (r.outcomes.filter Outcome.succeeded).length = r.outcomes.length ↔
      ∀ o ∈ r.outcomes, o.succeeded = true := List.length_filter_eq_length_iff
  simp only [Outcome.succeeded, decide_eq_true_eq] at hall
  rw [← hall]
  omega

/-- Whether the settings file is not there or something in the settings has to be mended. -/
def SettingsError.isExpected : SettingsError → Bool
  | .noFile _ | .invalid _ => true
  | _ => false

/-- Whether the program tells the user about an error and ends with the code for settings. -/
def ProgramError.isExpected (e : ProgramError) : Bool := e.isAbsence || e.isInvalidSetting

lemma ProgramError.isExpected_settings (e : SettingsError) :
    (ProgramError.settings e).isExpected = e.isExpected := by
  cases e <;> rfl

/-- The text of an argument is not empty. -/
lemma Arguments.text?_ne_nil {a : Arguments} {name : String} {t : Text}
    (h : a.text? name = some t) : t ≠ [] := by
  rw [text?] at h
  split at h
  · split_ifs at h with hempty
    obtain rfl := Option.some.inj h
    simpa using hempty
  · cases h

namespace Program

variable {p : Program} {s : Session} {a : Arguments}

/-! ### Up to the exports -/

/-- The exporter with the settings of a run, and the session in which it is asked to export. -/
def ready (p : Program) (s : Session) (a : Arguments) : Except ProgramError (Exporter × Session) :=
  match s.setUpLogging { verbosity := a.verbosity, file := a.text? "log_file" } with
  | (.error e, _) => .error (.logging e)
  | (.ok (), s) =>
    let s := (s.logSection "HTML to Markdown Porter".toList).log .info mainChannel
      s!"Version: {programVersion}"
    match (p.sources s a).config with
    | .error e => .error (.settings e)
    | .ok config => .ok (.on mainChannel config p.now, s.logSettings config.members)

/-- An exporter that is ready writes in an encoding with all characters, and all names on its volume
are names that entries can have. -/
lemma ready_named (hnamed : s.volume.IsNamed) {e : Exporter} {s₁ : Session}
    (h : p.ready s a = .ok (e, s₁)) : e.store.encoding = .utf8 ∧ s₁.volume.IsNamed := by
  rw [ready] at h
  cases hlogging : s.setUpLogging { verbosity := a.verbosity, file := a.text? "log_file" } with
  | mk result s₂ =>
      rw [hlogging] at h
      cases result with
      | error cause => cases h
      | ok =>
          have hset : s₂.volume.IsNamed := by
            have hstill := Session.setUpLogging_named hnamed
              { verbosity := a.verbosity, file := a.text? "log_file" }
            rwa [hlogging] at hstill
          dsimp only at h
          split at h
          · cases h
          · cases h
            exact ⟨rfl, Session.writeAll_named (Session.writeAll_named
              (Session.log_named (Session.writeAll_named hset _) _ _ _) _) _⟩

/-- A run is not ready when its log cannot be set up. -/
lemma ready_logging {e : LoggingError} :
    p.ready s a = .error (.logging e) ↔ e = .disk .nullCharacter ∧ ∃ file,
      a.text? "log_file" = some file ∧
        (Path.absolute s.workingPath (.ofText file)).hasNull = true := by
  have hlogging : ∀ e, (s.setUpLogging { verbosity := a.verbosity, file := a.text? "log_file" }).1
      = .error e ↔ _ := fun e => Session.setUpLogging_error
  rw [ready]
  cases hlogged : s.setUpLogging { verbosity := a.verbosity, file := a.text? "log_file" } with
  | mk result s₁ =>
      rw [hlogged] at hlogging
      cases result with
      | error cause =>
          obtain ⟨rfl, file, hfile, -, hnull⟩ := (hlogging cause).mp rfl
          constructor
          · intro h
            cases h
            exact ⟨rfl, file, hfile, hnull⟩
          · rintro ⟨rfl, -⟩
            rfl
      | ok =>
          have hnone : ¬∃ file, a.text? "log_file" = some file ∧
              (Path.absolute s.workingPath (.ofText file)).hasNull = true := by
            rintro ⟨file, hfile, hnull⟩
            cases (hlogging _).mpr ⟨rfl, file, hfile, Arguments.text?_ne_nil hfile, hnull⟩
          dsimp only
          cases (p.sources _ a).config <;> simp [hnone]

/-- A run that is not ready has met no error of the store. -/
lemma ready_ne_store {e : StoreError} : p.ready s a ≠ .error (.store e) := by
  rw [ready]
  cases s.setUpLogging { verbosity := a.verbosity, file := a.text? "log_file" } with
  | mk result s₁ =>
      cases result with
      | error e => simp
      | ok =>
          dsimp only
          cases (p.sources _ a).config <;> simp

lemma runWith_result (p : Program) (s : Session) (a : Arguments) :
    (p.runWith a s).1 = match p.ready s a with
      | .error cause => .error cause
      | .ok (e, s₁) => (exportAsked e s₁ a).1 := by
  rw [runWith, ready]
  cases s.setUpLogging { verbosity := a.verbosity, file := a.text? "log_file" } with
  | mk result s₁ =>
      cases result with
      | error e => rfl
      | ok =>
          dsimp only [runLogged]
          cases (p.sources _ a).config <;> rfl

section Asked

variable {e : Exporter} {s s₁ : Session} {a : Arguments}

/-- An error of the export ends it. -/
lemma exportAsked_refused {cause : ProgramError}
    (h : e.selected s (a.text? "input_file") = (.error cause, s₁)) :
    (exportAsked e s a).1 = .error cause := by
  rw [exportAsked]
  cases hpage : a.text? "input_file"
  all_goals
    rw [hpage, Exporter.selected] at h
    dsimp only
    rw [h]

/-- Without pages the code is that of a failure. -/
lemma exportAsked_absent (h : e.selected s (a.text? "input_file") = (.ok none, s₁)) :
    (exportAsked e s a).1 = .ok 1 := by
  rw [exportAsked]
  cases hpage : a.text? "input_file"
  all_goals
    rw [hpage, Exporter.selected] at h
    dsimp only
    rw [h]

/-- With a report the code tells whether a page has failed, if the report can be saved. -/
lemma exportAsked_reported {report : Report}
    (h : e.selected s (a.text? "input_file") = (.ok (some report), s₁)) :
    (exportAsked e s a).1 = (saveReport e s₁ report (a.text? "report")).1.map fun _ =>
      if report.failed = 0 then 0 else 1 := by
  have hclosed : ∀ s₂, (closeRun s₂ report).1 = if report.failed = 0 then 0 else 1 := by
    intro s₂
    rw [closeRun]
    split_ifs <;> rfl
  rw [exportAsked]
  cases hpage : a.text? "input_file"
  all_goals
    rw [hpage, Exporter.selected] at h
    dsimp only
    rw [h]
    dsimp only
    cases saveReport e s₁ report (a.text? "report") with
    | mk result s₂ =>
        cases result with
        | error cause => rfl
        | ok => exact congrArg Except.ok (hclosed s₂)

end Asked

/-- The exit code of a result: that for settings where the program expects the error. -/
lemma tellUser_result (result : Exported Nat) :
    (tellUser result).1 = match result.1 with
      | .ok code => .ok code
      | .error cause => if cause.isExpected then .ok 2 else .error cause := by
  obtain ⟨exit, s⟩ := result
  cases exit with
  | ok code => rfl
  | error cause =>
      rw [tellUser]
      dsimp only
      rw [ProgramError.isExpected]
      cases cause.isAbsence <;> cases cause.isInvalidSetting <;> rfl

lemma run_exit (hread : Arguments.read p.words = .ok a) :
    (p.run s).exit = match (p.runWith a s).1 with
      | .ok code => .ok code
      | .error cause => if cause.isExpected then .ok 2 else .error cause := by
  rw [run, hread, ← tellUser_result]

/-! ### How runs end -/

/-- The report of a run cannot be saved: its path has a null character, and its directory can be
made or has one itself. -/
def Unsaved (s : Session) (path : Option Text) : Prop :=
  ∃ file, path = some file ∧ (Path.ofText file).hasNull = true ∧
    ∀ cause, (FileStore.ensureDirectory s (Path.ofText file).parent).1 = .error cause →
      cause = .nullCharacter

/-- Saving a report gives an error just when it cannot be saved. -/
lemma saveReport_error {e : Exporter} (hutf8 : e.store.encoding = .utf8) {report : Report}
    {path : Option Text} {cause : ProgramError} :
    (saveReport e s report path).1 = .error cause ↔
      cause = .store (.disk .nullCharacter) ∧ Unsaved s path := by
  cases path with
  | none => simp [saveReport, Unsaved]
  | some file =>
      have hwrite : ∀ cause, (e.writeReport s report (.ofText file)).1 = .error cause ↔ _ :=
        fun cause => FileStore.writeOutput_error_utf8 hutf8
      rw [saveReport]
      cases hwritten : e.writeReport s report (.ofText file) with
      | mk result s₁ =>
          rw [hwritten] at hwrite
          cases result with
          | error cause' =>
              obtain ⟨rfl, hunsaved⟩ := (hwrite cause').mp rfl
              have hnot : Unsaved s (some file) := ⟨file, rfl, hunsaved⟩
              simp [hnot, eq_comm]
          | ok written =>
              have hsaved : ¬Unsaved s (some file) := by
                rintro ⟨file', hfile, hunsaved⟩
                obtain rfl := Option.some.inj hfile
                cases (hwrite _).mpr ⟨rfl, hunsaved⟩
              cases written <;> simp [hsaved]

/-- The settings of a run cannot be built: the settings file is not there, or something in the
settings has to be mended. -/
def LacksSettings (p : Program) (s : Session) (a : Arguments) : Prop :=
  ∃ cause, p.ready s a = .error (.settings cause) ∧ cause.isExpected = true

/-- A run gives a report on the pages that it is asked for, one outcome for each. -/
structure Reports (p : Program) (s : Session) (a : Arguments) (report : Report) (s' : Session)
    (e : Exporter) (s₁ : Session) (pages : List Path) : Prop where
  ready : p.ready s a = .ok (e, s₁)
  selection : e.selection s₁ (a.text? "input_file") = .ok (some pages)
  /-- The folders can be made if they are needed. -/
  prepared : pages ≠ [] → (e.prepare s₁).1 = .ok ()
  selected : e.selected s₁ (a.text? "input_file") = (.ok (some report), s')
  sources : (report.outcomes.map (·.source)).Perm pages

/-- All pages that are asked for are exported with success, and the report can be saved. -/
def Succeeds (p : Program) (s : Session) (a : Arguments) : Prop :=
  ∃ report s' e s₁ pages, p.Reports s a report s' e s₁ pages ∧
    (∀ o ∈ report.outcomes, o.status = .success) ∧ ¬Unsaved s' (a.text? "report")

/-- The errors that end a run without an exit code. -/
inductive Raises (p : Program) (s : Session) (a : Arguments) : ProgramError → Prop
  /-- The path of the log file has a null character. -/
  | unlogged {file : Text} (h : a.text? "log_file" = some file)
      (hnull : (Path.absolute s.workingPath (.ofText file)).hasNull = true) :
      Raises p s a (.logging (.disk .nullCharacter))
  /-- The settings cannot be read, or a value in them is of the wrong kind. -/
  | unread {cause : SettingsError} (h : p.ready s a = .error (.settings cause))
      (hcause : cause.isExpected = false) : Raises p s a (.settings cause)
  /-- It cannot be told which pages are asked for. -/
  | refused {e : Exporter} {s₁ : Session} {cause : StoreError} (h : p.ready s a = .ok (e, s₁))
      (hselection : e.selection s₁ (a.text? "input_file") = .error cause) :
      Raises p s a (.store cause)
  /-- The folders for notes and assets cannot be made. -/
  | unprepared {e : Exporter} {s₁ : Session} {pages : List Path} {cause : DiskError}
      (h : p.ready s a = .ok (e, s₁))
      (hselection : e.selection s₁ (a.text? "input_file") = .ok (some pages))
      (hpages : pages ≠ []) (hprepare : (e.prepare s₁).1 = .error cause) :
      Raises p s a (.store (.disk cause))
  /-- The report cannot be saved. -/
  | unsaved {report : Report} {s' s₁ : Session} {e : Exporter} {pages : List Path}
      (h : p.Reports s a report s' e s₁ pages) (hsave : Unsaved s' (a.text? "report")) :
      Raises p s a (.store (.disk .nullCharacter))

/-- How a run of the program ends. -/
inductive Exits (p : Program) (s : Session) (a : Arguments) : Except ProgramError Nat → Prop
  | unready {cause : ProgramError} (h : p.ready s a = .error cause) :
      Exits p s a (if cause.isExpected then .ok 2 else .error cause)
  | refused {e : Exporter} {s₁ : Session} {cause : StoreError} (h : p.ready s a = .ok (e, s₁))
      (hselection : e.selection s₁ (a.text? "input_file") = .error cause) :
      Exits p s a (.error (.store cause))
  | absent {e : Exporter} {s₁ : Session} (h : p.ready s a = .ok (e, s₁))
      (hselection : e.selection s₁ (a.text? "input_file") = .ok none) : Exits p s a (.ok 1)
  | unprepared {e : Exporter} {s₁ : Session} {pages : List Path} {cause : DiskError}
      (h : p.ready s a = .ok (e, s₁))
      (hselection : e.selection s₁ (a.text? "input_file") = .ok (some pages))
      (hpages : pages ≠ []) (hprepare : (e.prepare s₁).1 = .error cause) :
      Exits p s a (.error (.store (.disk cause)))
  | unsaved {report : Report} {s' s₁ : Session} {e : Exporter} {pages : List Path}
      (h : p.Reports s a report s' e s₁ pages) (hsave : Unsaved s' (a.text? "report")) :
      Exits p s a (.error (.store (.disk .nullCharacter)))
  | reported {report : Report} {s' s₁ : Session} {e : Exporter} {pages : List Path}
      (h : p.Reports s a report s' e s₁ pages) (hsaved : ¬Unsaved s' (a.text? "report")) :
      Exits p s a (.ok (if report.failed = 0 then 0 else 1))

/-- A run ends in one of these ways. -/
lemma exits (hread : Arguments.read p.words = .ok a) (hnamed : s.volume.IsNamed) :
    p.Exits s a (p.run s).exit := by
  rw [run_exit hread, runWith_result]
  cases hready : p.ready s a with
  | error cause =>
      exact .unready hready
  | ok prepared =>
      obtain ⟨e, s₁⟩ := prepared
      obtain ⟨hutf8, hnamed₁⟩ := ready_named hnamed hready
      have hway := Exporter.selects hutf8 hnamed₁ (a.text? "input_file")
      dsimp only
      cases hselected : e.selected s₁ (a.text? "input_file") with
      | mk result s₂ =>
          rw [hselected] at hway
          cases hway with
          | @refused cause hselection =>
              have hother : (ProgramError.store cause).isExpected = false := by
                rw [ProgramError.isExpected, selection_error hselection]
                rfl
              rw [exportAsked_refused hselected]
              dsimp only
              rw [hother]
              exact .refused hready hselection
          | absent hselection =>
              rw [exportAsked_absent hselected]
              exact .absent hready hselection
          | @unprepared pages cause hselection hpages hprepare =>
              have hother : (ProgramError.store (.disk cause)).isExpected = false := by
                rw [ProgramError.isExpected, Exporter.prepare_error hprepare]
                rfl
              rw [exportAsked_refused hselected]
              dsimp only
              rw [hother]
              exact .unprepared hready hselection hpages hprepare
          | @reported pages report hselection hprepare hsources =>
              have hreports : p.Reports s a report s₂ e s₁ pages :=
                ⟨hready, hselection, hprepare, hselected, hsources⟩
              rw [exportAsked_reported hselected]
              cases hsaved : (saveReport e s₂ report (a.text? "report")).1 with
              | error cause =>
                  obtain ⟨rfl, hunsaved⟩ := (saveReport_error hutf8).mp hsaved
                  exact .unsaved hreports hunsaved
              | ok =>
                  refine .reported hreports fun hunsaved => ?_
                  rw [(saveReport_error hutf8).mpr ⟨rfl, hunsaved⟩] at hsaved
                  cases hsaved

/-- A run ends in one way alone. -/
lemma Exits.unique {exit exit' : Except ProgramError Nat} (h : p.Exits s a exit)
    (h' : p.Exits s a exit') : exit = exit' := by
  rcases h with _ | _ | _ | _ | ⟨⟨⟩, _⟩ | ⟨⟨⟩, _⟩ <;>
    rcases h' with _ | _ | _ | _ | ⟨⟨⟩, _⟩ | ⟨⟨⟩, _⟩ <;> simp_all

lemma exits_two : p.Exits s a (.ok 2) ↔ p.LacksSettings s a := by
  constructor
  · intro h
    generalize hexit : (.ok 2 : Except ProgramError Nat) = exit at h
    cases h with
    | @unready cause h =>
        cases cause with
        | logging e =>
            obtain ⟨rfl, -⟩ := ready_logging.mp h
            cases hexit
        | settings e =>
            rw [ProgramError.isExpected_settings] at hexit
            split_ifs at hexit with hexpected
            exact ⟨e, h, hexpected⟩
        | store e => exact absurd h ready_ne_store
    | refused | absent | unprepared | unsaved => simp at hexit
    | reported =>
        split_ifs at hexit
        · simp at hexit
        · simp at hexit
  · rintro ⟨cause, h, hexpected⟩
    have hexit := Exits.unready h
    rwa [ProgramError.isExpected_settings, if_pos hexpected] at hexit

lemma exits_zero : p.Exits s a (.ok 0) ↔ p.Succeeds s a := by
  constructor
  · intro h
    generalize hexit : (.ok 0 : Except ProgramError Nat) = exit at h
    cases h with
    | unready =>
        split_ifs at hexit
        · simp at hexit
    | refused | absent | unprepared | unsaved => simp at hexit
    | @reported report _ _ _ _ h hsaved =>
        split_ifs at hexit with hfailed
        · exact ⟨_, _, _, _, _, h, report.failed_eq_zero.mp hfailed, hsaved⟩
        · simp at hexit
  · rintro ⟨report, s', e, s₁, pages, h, hall, hsaved⟩
    have hexit := Exits.reported h hsaved
    rwa [if_pos (report.failed_eq_zero.mpr hall)] at hexit

lemma exits_error {cause : ProgramError} :
    p.Exits s a (.error cause) ↔ p.Raises s a cause := by
  constructor
  · intro h
    generalize hexit : (.error cause : Except ProgramError Nat) = exit at h
    cases h with
    | @unready cause' h =>
        split_ifs at hexit with hexpected
        obtain rfl := Except.error.inj hexit
        cases cause with
        | logging e =>
            obtain ⟨rfl, file, hfile, hnull⟩ := ready_logging.mp h
            exact .unlogged hfile hnull
        | settings e =>
            rw [ProgramError.isExpected_settings] at hexpected
            exact .unread h (eq_false_of_ne_true hexpected)
        | store e => exact absurd h ready_ne_store
    | refused h hselection =>
        cases hexit
        exact .refused h hselection
    | unprepared h hselection hpages hprepare =>
        cases hexit
        exact .unprepared h hselection hpages hprepare
    | unsaved h hsave =>
        cases hexit
        exact .unsaved h hsave
    | absent | reported => cases hexit
  · intro h
    cases h with
    | unlogged hfile hnull => exact .unready (ready_logging.mpr ⟨rfl, _, hfile, hnull⟩)
    | @unread cause h hcause =>
        have hexit := Exits.unready h
        rwa [ProgramError.isExpected_settings, hcause] at hexit
    | refused h hselection => exact .refused h hselection
    | unprepared h hselection hpages hprepare => exact .unprepared h hselection hpages hprepare
    | unsaved h hsave => exact .unsaved h hsave

/-- **The exit code of a run.** It is 2 just when the settings cannot be built because the settings
file is not there or something in the settings has to be mended, and 0 just when all pages that are
asked for are exported with success: the page that is named, a file with the ending of pages, or
all below the input folder, which is there. It ends without a code just when the path of the log
file has a null character, the settings cannot be read or hold a value of the wrong kind, it cannot
be told which pages are asked for, there are pages but no folders can be made for them, or the
report cannot be saved since its path has a null character. Otherwise the code is 1. -/
theorem run_exit_iff (hread : Arguments.read p.words = .ok a) (hnamed : s.volume.IsNamed) :
    ((p.run s).exit = .ok 2 ↔ p.LacksSettings s a) ∧
      ((p.run s).exit = .ok 0 ↔ p.Succeeds s a) ∧
      (∀ cause, (p.run s).exit = .error cause ↔ p.Raises s a cause) ∧
      ((p.run s).exit = .ok 1 ↔
        ¬p.LacksSettings s a ∧ ¬p.Succeeds s a ∧ ∀ cause, ¬p.Raises s a cause) := by
  have hexits := exits hread hnamed
  have hends : ∀ exit, (p.run s).exit = exit ↔ p.Exits s a exit := fun exit =>
    ⟨fun h => h ▸ hexits, hexits.unique⟩
  refine ⟨(hends _).trans exits_two, (hends _).trans exits_zero,
    fun cause => (hends _).trans exits_error, fun h => ?_, ?_⟩
  · rw [← exits_two, ← exits_zero, ← hends, ← hends, h]
    refine ⟨by simp, by simp, fun cause => ?_⟩
    rw [← exits_error, ← hends, h]
    simp
  · rintro ⟨hlacks, hsucceeds, hraises⟩
    rw [← exits_two, ← hends] at hlacks
    rw [← exits_zero, ← hends] at hsucceeds
    simp only [← exits_error, ← hends] at hraises
    generalize (p.run s).exit = exit at hexits hlacks hsucceeds hraises
    cases hexits with
    | unready =>
        split_ifs at hlacks hraises
        · exact absurd rfl hlacks
        · exact absurd rfl (hraises _)
    | refused | unprepared | unsaved => exact absurd rfl (hraises _)
    | absent => rfl
    | reported =>
        split_ifs at hsucceeds ⊢
        · exact absurd rfl hsucceeds
        · rfl

/-- The program with some words on its command line. -/
def ofWords (words : List String) : Program := ⟨words.map String.toList, [], Exporter.sampleMoment⟩

/-- A disk with a page and with a settings file that is broken. -/
def brokenSettings : Session :=
  Exporter.sampleSession [("p.html".toList, "x".toList), ("c.yaml".toList, "a: [".toList)]

/-- Whether a run ends with an error for a settings file that is broken. -/
def isBroken : Except ProgramError Nat → Bool
  | .error (.settings (.yaml _)) => true
  | _ => false

lemma eq_of_isBroken {exit : Except ProgramError Nat} (h : isBroken exit = true) :
    ∃ fault, exit = .error (.settings (.yaml fault)) := by
  rw [isBroken.eq_def] at h
  split at h
  · exact ⟨_, rfl⟩
  · cases h

lemma eq_of_toOption {ε α : Type} {result : Except ε α} {x : α} (h : result.toOption = some x) :
    result = .ok x := by
  cases result with
  | error e => cases h
  | ok y => rw [Option.some.inj h]

/-- The page alone is exported with success; with the settings file, an error ends the run. -/
theorem run_exit_iff_broken :
    (∃ a, Arguments.read (ofWords ["p.html"]).words = .ok a ∧
      (ofWords ["p.html"]).Succeeds brokenSettings a) ∧
    ∃ a fault, Arguments.read (ofWords ["--config", "c.yaml"]).words = .ok a ∧
      (ofWords ["--config", "c.yaml"]).Raises brokenSettings a (.settings (.yaml fault)) := by
  have hnamed : brokenSettings.volume.IsNamed := by decide +kernel
  have hreads : ∀ words ∈ [["p.html"], ["--config", "c.yaml"]],
      (Arguments.read (ofWords words).words).toOption.isSome = true := by decide +kernel
  constructor
  · have hexit : ((ofWords ["p.html"]).run brokenSettings).exit.toOption = some 0 := by
      decide +kernel
    obtain ⟨a, hread⟩ := Option.isSome_iff_exists.mp (hreads ["p.html"] (by decide))
    have hread := eq_of_toOption hread
    exact ⟨a, hread, (run_exit_iff hread hnamed).2.1.mp (eq_of_toOption hexit)⟩
  · have hexit : isBroken ((ofWords ["--config", "c.yaml"]).run brokenSettings).exit = true := by
      decide +kernel
    obtain ⟨fault, hfault⟩ := eq_of_isBroken hexit
    obtain ⟨a, hread⟩ := Option.isSome_iff_exists.mp (hreads ["--config", "c.yaml"] (by decide))
    have hread := eq_of_toOption hread
    exact ⟨a, fault, hread, ((run_exit_iff hread hnamed).2.2.1 _).mp hfault⟩

end Program

end PageNotes
