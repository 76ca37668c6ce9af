import PageNotes.CommandLine.Program
import PageNotes.Proofs.Batch.Escapes
import PageNotes.Proofs.Export.Discovery

/-!
The pages that a run of the program is asked for, and what the exporter gives for them. An exporter
that writes in an encoding with all characters raises nothing for pages on a disk of proper names
once its folders are made, so there is a report unless the folders cannot be made.

* `Exporter.prepare_agrees`: what is logged does not change whether the folders can be made;
* `Exporter.not_escapes`, `Exporter.exportFiles_result`: exports that raise nothing;
* `Exporter.selection`, `Exporter.selected`: the pages that are asked for, and their export;
* `Exporter.selects`: how that export goes.
-/

namespace PageNotes

open Session (Agrees)

namespace Exporter

variable {e : Exporter} {s s' : Session}

/-! ### Logged sessions -/

lemma ensureDirectory_agrees (h : s.Agrees s') (p : Path) :
    (FileStore.ensureDirectory s' p).1 = (FileStore.ensureDirectory s p).1 ∧
      (FileStore.ensureDirectory s p).2.Agrees (FileStore.ensureDirectory s' p).2 := by
  obtain ⟨hresult, halike⟩ := h.alike.makeDirectory p
  refine ⟨hresult, ⟨h.logging, halike.working⟩, fun q => ?_⟩
  have hview := halike.view q
  change (s'.volume.makeDirectory p).2.disk.view s'.logFiles q = _
  rw [h.logFiles]
  exact hview

/-- Whether the folders can be made does not depend on what is logged. -/
lemma prepare_agrees (h : s.Agrees s') :
    (e.prepare s').1 = (e.prepare s).1 ∧ (e.prepare s).2.Agrees (e.prepare s').2 := by
  obtain ⟨hresult, hagrees⟩ := ensureDirectory_agrees h e.outputFolder
  rw [prepare, prepare]
  cases hmade : FileStore.ensureDirectory s e.outputFolder with
  | mk result s₁ =>
      cases hmade' : FileStore.ensureDirectory s' e.outputFolder with
      | mk result' s₁' =>
          rw [hmade, hmade'] at hresult hagrees
          dsimp only at hresult hagrees
          subst hresult
          cases result' with
          | error cause => exact ⟨rfl, hagrees⟩
          | ok => exact ensureDirectory_agrees hagrees e.imageFolder

/-! ### Exports that raise nothing -/

/-- The names of the directory of a page below the input folder are those of its path from the
root. -/
lemma mem_relativeDirectory {working source : Path} (habs : working.isAbsolute = true)
    {name : Text} (h : name ∈ (e.relativeDirectory working source).parts) :
    name ∈ working.parts ∨ name ∈ source.parts := by
  rw [relativeDirectory] at h
  split at h
  · simp at h
  · split at h
    · rename_i names hnames
      rw [Path.relativeTo?] at hnames
      split_ifs at hnames
      obtain rfl := Option.some.inj hnames
      have hresolved := List.dropLast_subset _ (List.mem_of_mem_drop h)
      rw [Path.resolve, Path.absolute, Path.normalize, Path.join_isAbsolute habs] at hresolved
      obtain ⟨hmem, -⟩ := Path.mem_resolveParts (by simp) name hresolved
      have hjoin := hmem.resolve_left (by simp)
      rw [Path.join] at hjoin
      split_ifs at hjoin
      · exact Or.inr hjoin
      · exact List.mem_append.mp hjoin
    · simp at h

/-- The path of a note has no null character where those of the folder of notes, of the working
directory and of the page have none. -/
lemma outputPath_noNull (houtput : e.outputFolder.hasNull = false)
    (hworking : ∀ name ∈ s.volume.working, IsEntryName name) {source : Path}
    (hsource : source.hasNull = false) :
    (e.outputPath s.workingPath source).hasNull = false := by
  have hnoteName : Path.hasNull ⟨e.outputFolder.root, [noteName source]⟩ = false := by
    simp [Path.hasNull, noteName_noNull]
  rw [outputPath_eq, Bool.eq_false_iff, ne_eq, Path.hasNull_append, Path.hasNull_append]
  rintro ((hnull | hnull) | hnull)
  · exact Bool.eq_false_iff.mp houtput hnull
  · rw [Path.hasNull, List.any_eq_true] at hnull
    obtain ⟨name, hname, hnull⟩ := hnull
    rcases mem_relativeDirectory rfl hname with hin | hin
    · exact (hworking name hin).2 (by simpa using hnull)
    · rw [Path.hasNull, List.any_eq_false] at hsource
      exact hsource name hin hnull
  · exact Bool.eq_false_iff.mp hnoteName hnull

/-- No error escapes from a page where no path has a null character and texts are written in an
encoding with all characters. -/
lemma not_escapes (hutf8 : e.store.encoding = .utf8) (houtput : e.outputFolder.hasNull = false)
    (himage : e.imageFolder.hasNull = false)
    (hworking : ∀ name ∈ s.volume.working, IsEntryName name) {source : Path}
    (hsource : source.hasNull = false) (cause : StoreError) : ¬e.Escapes s source cause := by
  intro h
  cases h with
  | page hnull => simp [hsource] at hnull
  | copies _ _ hnull => simp [himage] at hnull
  | note _ hnull => simp [outputPath_noNull houtput hworking hsource] at hnull
  | text _ _ hencode =>
      rw [hutf8] at hencode
      cases hencode

/-- Folders that can be made have paths without null characters. -/
lemma prepare_noNull (e : Exporter) (s : Session) (h : (e.prepare s).1 = .ok ()) :
    e.outputFolder.hasNull = false ∧ e.imageFolder.hasNull = false := by
  have houtput := FileStore.ensureDirectory_null (s := s) (p := e.outputFolder)
  rw [prepare] at h
  cases hmade : FileStore.ensureDirectory s e.outputFolder with
  | mk result s₁ =>
      rw [hmade] at h houtput
      cases result with
      | error cause => cases h
      | ok =>
          have himage := FileStore.ensureDirectory_null (s := s₁) (p := e.imageFolder)
          rw [show (FileStore.ensureDirectory s₁ e.imageFolder).1 = .ok () from h] at himage
          exact ⟨by simpa using houtput, by simpa using himage⟩

/-- Pages without null characters in their paths have a report as soon as the folders can be
made. -/
lemma exportFiles_result (hutf8 : e.store.encoding = .utf8)
    (hworking : ∀ name ∈ s.volume.working, IsEntryName name) {pages : List Path}
    (hpages : ∀ p ∈ pages, (∀ name ∈ p.parts, IsPlain name) ∧ p.hasNull = false) :
    (∃ cause, (e.prepare s).1 = .error cause ∧
        (e.exportFiles s pages).1 = .error (.disk cause)) ∨
      (e.prepare s).1 = .ok () ∧ ∃ report, (e.exportFiles s pages).1 = .ok report ∧
        (report.outcomes.map (·.source)).Perm pages := by
  rw [exportFiles_eq]
  have hchanges := e.prepare_changes s
  have hnulls := prepare_noNull e s
  cases hprepare : e.prepare s with
  | mk result s₁ =>
      rw [hprepare] at hchanges hnulls
      cases result with
      | error cause => exact Or.inl ⟨cause, rfl, rfl⟩
      | ok =>
          obtain ⟨houtput, himage⟩ := hnulls rfl
          have hworking₁ : ∀ name ∈ s₁.volume.working, IsEntryName name := by
            rw [hchanges.working]
            exact hworking
          have hopen : (e.run s₁ pages).failure = none := by
            rw [run_failure_iff (fun name hname => (hworking₁ name hname).1) fun p hp =>
              (hpages p hp).1]
            intro before page after hsplit cause
            have hset : s₁.SameSetting (e.runUpTo s₁ pages before).session :=
              (e.begin_agrees s₁ _).toSameSetting.trans (Run.foldl_sameSetting _ before)
            refine not_escapes hutf8 houtput himage ?_ (hpages page (by simp [hsplit])).2 cause
            rw [hset.working]
            exact hworking₁
          obtain ⟨exports, -, hsources, hresults⟩ := (run_ends e s₁ pages).trace hopen
          refine Or.inr ⟨rfl, (e.run s₁ pages).report.sorted, ?_, ?_⟩
          · dsimp only [finish]
            rw [hopen]
          · have htaken := hresults.map Prod.fst
            rw [results, Run.taken, List.map_map, List.map_map] at htaken
            exact (((e.run s₁ pages).report.sorted_perm.map _).trans htaken.symm).trans hsources

/-! ### The pages that are asked for -/

/-- The pages that are asked for: the one that is named, if it is a file with the ending of pages,
or all below the input folder, if that is there. -/
def selection (e : Exporter) (s : Session) : Option Text → Except StoreError (Option (List Path))
  | some page =>
    match s.volume.isFile (.ofText page) with
    | .error cause => .error (.disk cause)
    | .ok there =>
      .ok (if there && (Path.ofText page).extension = pageEnding then some [.ofText page] else none)
  | none =>
    match FileStore.find s.volume e.inputFolder pageEnding with
    | .ok pages => .ok (some pages)
    | .error (.noDirectory _) => .ok none
    | .error cause => .error cause

/-- The export of the pages that are asked for. -/
def selected (e : Exporter) (s : Session) : Option Text → Exported (Option Report)
  | some page => exportNamed e s (.ofText page)
  | none => exportBelow e s

/-- What the export of the pages that are asked for gives. -/
inductive Selects (e : Exporter) (s : Session) (page : Option Text) :
    Except ProgramError (Option Report) → Prop
  /-- It cannot be told which pages these are. -/
  | refused {cause : StoreError} (h : e.selection s page = .error cause) :
      Selects e s page (.error (.store cause))
  | absent (h : e.selection s page = .ok none) : Selects e s page (.ok none)
  /-- There are pages, but the folders cannot be made. -/
  | unprepared {pages : List Path} {cause : DiskError} (h : e.selection s page = .ok (some pages))
      (hpages : pages ≠ []) (hprepare : (e.prepare s).1 = .error cause) :
      Selects e s page (.error (.store (.disk cause)))
  | reported {pages : List Path} {report : Report} (h : e.selection s page = .ok (some pages))
      (hprepare : pages ≠ [] → (e.prepare s).1 = .ok ())
      (hsources : (report.outcomes.map (·.source)).Perm pages) :
      Selects e s page (.ok (some report))

variable {page : Option Text}

lemma isAbsence_disk {cause : DiskError} :
    (ProgramError.store (.disk cause)).isAbsence = true ↔ ∃ q, cause = .refused .notFound q := by
  rw [ProgramError.isAbsence.eq_def]
  split <;> simp_all

/-- No directory is missing when the folders are made. -/
lemma prepare_ne_notFound (e : Exporter) (s : Session) (q : Path) :
    (e.prepare s).1 ≠ .error (.refused .notFound q) := by
  have houtput := Volume.makeDirectory_ne_notFound s.volume e.outputFolder q
  rw [prepare]
  cases hmade : FileStore.ensureDirectory s e.outputFolder with
  | mk result s₁ =>
      have hresult : (s.volume.makeDirectory e.outputFolder).1 = result := congrArg Prod.fst hmade
      cases result with
      | error cause => rwa [hresult] at houtput
      | ok => exact Volume.makeDirectory_ne_notFound s₁.volume e.imageFolder q

/-- The error of making the folders is not about an absence. -/
lemma prepare_error {cause : DiskError} (h : (e.prepare s).1 = .error cause) :
    (ProgramError.store (.disk cause)).isAbsence = false := by
  refine Bool.eq_false_iff.mpr fun habsence => ?_
  obtain ⟨q, rfl⟩ := isAbsence_disk.mp habsence
  exact e.prepare_ne_notFound s q h

/-- How the export of pages goes, from the pages in a session that differs in its log. -/
lemma selects_pages (hutf8 : e.store.encoding = .utf8) (hworking : s.volume.IsNamed)
    (h : s.Agrees s') {pages : List Path} (hselection : e.selection s page = .ok (some pages))
    (hnonempty : pages ≠ [])
    (hpages : ∀ p ∈ pages, (∀ name ∈ p.parts, IsPlain name) ∧ p.hasNull = false) :
    e.Selects s page ((e.exportFiles s' pages).1.mapError .store |>.map some) ∧
      ∀ cause, (e.exportFiles s' pages).1 = .error cause →
        (ProgramError.store cause).isAbsence = false := by
  have hworking' : ∀ name ∈ s'.volume.working, IsEntryName name := by
    rw [h.working]
    exact hworking.working
  have hprepare := (prepare_agrees (e := e) h).1
  rcases exportFiles_result hutf8 hworking' hpages with
    ⟨cause, hcause, hresult⟩ | ⟨hok, report, hresult, hsources⟩
  · rw [hresult]
    refine ⟨.unprepared hselection hnonempty (hprepare ▸ hcause), fun cause' hcause' => ?_⟩
    obtain rfl := Except.error.inj hcause'
    exact prepare_error hcause
  · rw [hresult]
    exact ⟨.reported hselection (fun _ => hprepare ▸ hok) hsources, fun _ hcause => by cases hcause⟩

/-- The error of a search is about an absence just when the folder is not there. -/
lemma find_absence {v : Volume} {root : Path} {ending : Text} {cause : StoreError}
    (h : FileStore.find v root ending = .error cause) :
    (ProgramError.store cause).isAbsence = true ↔ ∃ path, cause = .noDirectory path := by
  rw [FileStore.find] at h
  split at h
  · cases h
  · obtain rfl := Except.error.inj h
    simp [ProgramError.isAbsence]
  · rename_i cause' hother _
    obtain rfl := Except.error.inj h
    rw [isAbsence_disk]
    refine iff_of_false ?_ (by simp)
    rintro ⟨q, hq⟩
    exact hother q hq

/-- Where it cannot be told which pages are asked for, the error is not about an absence. -/
lemma selection_error {cause : StoreError} (h : e.selection s page = .error cause) :
    (ProgramError.store cause).isAbsence = false := by
  cases page with
  | some page =>
      rw [selection] at h
      cases hfile : s.volume.isFile (.ofText page) with
      | ok there =>
          rw [hfile] at h
          cases h
      | error cause' =>
          rw [hfile] at h
          obtain rfl := Except.error.inj h
          rw [Volume.isFile, Volume.ask] at hfile
          split at hfile
          · cases hfile
          · obtain rfl := Except.error.inj hfile
            rfl
          · cases hfile
  | none =>
      rw [selection] at h
      split at h
      · cases h
      · cases h
      · rename_i cause' hother hfind
        obtain rfl := Except.error.inj h
        refine Bool.eq_false_iff.mpr fun habsence => ?_
        obtain ⟨path, rfl⟩ := (find_absence hfind).mp habsence
        exact hother path rfl

/-- The path of a file has no null character. -/
lemma isFile_noNull {v : Volume} {p : Path} (h : v.isFile p = .ok true) : p.hasNull = false := by
  obtain ⟨content, hread⟩ := Volume.isFile_eq_true.mp h
  refine Bool.eq_false_iff.mpr fun hnull => ?_
  rw [Volume.read_null.mpr hnull] at hread
  cases hread

/-- The export of the pages that are asked for goes in one of these ways. -/
lemma selects (hutf8 : e.store.encoding = .utf8) (hnamed : s.volume.IsNamed) (page : Option Text) :
    e.Selects s page (e.selected s page).1 := by
  cases page with
  | some page =>
      rw [selected, exportNamed]
      cases hfile : s.volume.isFile (.ofText page) with
      | error cause => exact .refused (by rw [selection, hfile])
      | ok there =>
          dsimp only
          have hthere : (there && (Path.ofText page).extension = pageEnding) = true →
              s.volume.isFile (.ofText page) = .ok true := fun hpage => by
            rw [hfile, (Bool.and_eq_true_iff.mp hpage).1]
          split_ifs with hpage
          · have hselection : e.selection s (some page) = .ok (some [.ofText page]) := by
              rw [selection, hfile]
              dsimp only
              rw [if_pos hpage]
            obtain ⟨hselects, -⟩ := selects_pages hutf8 hnamed (.refl s) hselection (by simp)
              (by simpa using ⟨Path.ofText_plain page, isFile_noNull (hthere hpage)⟩)
            cases hexport : e.exportFiles s [.ofText page] with
            | mk result s₁ =>
                rw [hexport] at hselects
                cases result with
                | error cause => exact hselects
                | ok report => exact hselects
          · refine .absent ?_
            rw [selection, hfile]
            dsimp only
            rw [if_neg hpage]
  | none =>
      rw [selected, exportBelow, exportAll]
      generalize hlogged : s.log .info e.channel
        s!"Processing all HTML files in {e.inputFolder}..." = s₁
      have hagrees : s.Agrees s₁ := hlogged ▸ Session.log_agrees _ _ _ _
      have hgrows : s.volume.disk.Grows s₁.volume.disk := hlogged ▸ Session.log_grows _ _ _ _
      have hfind := find_agrees hagrees hgrows e.inputFolder pageEnding
      rw [hfind]
      cases hpages : FileStore.find s.volume e.inputFolder pageEnding with
      | error cause =>
          dsimp only
          split_ifs with habsence
          · obtain ⟨path, rfl⟩ := (find_absence hpages).mp habsence
            exact .absent (by rw [selection, hpages])
          · have hother : ∀ path, cause ≠ .noDirectory path := fun path hpath =>
              habsence ((find_absence hpages).mpr ⟨path, hpath⟩)
            refine .refused ?_
            rw [selection, hpages]
            split <;> simp_all
      | ok pages =>
          have hselection : e.selection s none = .ok (some pages) := by
            rw [selection, hpages]
          cases pages with
          | nil =>
              have hnone : (Report.empty.outcomes.map (·.source)).Perm [] := .refl []
              exact .reported hselection (by simp) hnone
          | cons first rest =>
              dsimp only
              generalize hmore : s₁.log .info e.channel
                s!"Found {(first :: rest).length} HTML files to process" = s₂
              have hagrees₂ : s.Agrees s₂ := hagrees.trans (hmore ▸ Session.log_agrees _ _ _ _)
              obtain ⟨hselects, habsence⟩ := selects_pages hutf8 hnamed hagrees₂ hselection
                (by simp) (find_named hnamed (Path.ofText_plain _) hpages)
              cases hexport : e.exportFiles s₂ (first :: rest) with
              | mk result s₃ =>
                  rw [hexport] at hselects habsence
                  cases result with
                  | error cause =>
                      have hcause := habsence cause rfl
                      dsimp only
                      rw [if_neg (by simpa using hcause)]
                      exact hselects
                  | ok report => exact hselects

end Exporter

end PageNotes