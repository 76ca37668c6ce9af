import PageNotes.Export.Store
import PageNotes.Proofs.Disk.Changes

/-!
What logging leaves as it is. An entry of the log may be written to the files of some handlers, and
to nothing else, so the view of the disk without the contents of these files stays the same.

* `Session.logFiles`, `Session.view`: the files that logs are written to, and the disk without their
  contents;
* `Session.Agrees`: the same view, from the same directory, with the same handlers;
* `Session.writeAll_agrees`: logging gives a session that agrees;
* `Session.Changes`: the same view but for new directories and for files at some places.
-/

namespace PageNotes

/-- The files that handlers write to. -/
def Logging.files (l : Logging) : List Place :=
  l.handlers.filterMap fun h => match h.outlet with
    | .console => none
    | .file place => some place

namespace Session

variable {s s' s'' : Session}

/-- The files that logs are written to. -/
def logFiles (s : Session) : List Place := s.logging.files

/-- What stands on the disk, but for the contents of the files that logs are written to. -/
def view (s : Session) (q : Place) : Option Entry := s.volume.disk.view s.logFiles q

lemma view_of_notMem {q : Place} (h : q ∉ s.logFiles) : s.view q = s.volume.disk.find? q :=
  Disk.view_of_notMem h

lemma view_eq_directory {q : Place} :
    s.view q = some .directory ↔ s.volume.disk.find? q = some .directory :=
  Disk.view_eq_directory

lemma view_eq_none {q : Place} : s.view q = none ↔ s.volume.disk.find? q = none :=
  Disk.view_eq_none

/-! ### Sessions that agree -/

/-- The same handlers and the same directory to start from. -/
structure SameSetting (s s' : Session) : Prop where
  logging : s'.logging = s.logging
  working : s'.volume.working = s.volume.working

lemma SameSetting.refl (s : Session) : SameSetting s s := ⟨rfl, rfl⟩

lemma SameSetting.symm (h : SameSetting s s') : SameSetting s' s :=
  ⟨h.logging.symm, h.working.symm⟩

lemma SameSetting.trans (h : SameSetting s s') (h' : SameSetting s' s'') : SameSetting s s'' :=
  ⟨h'.logging.trans h.logging, h'.working.trans h.working⟩

lemma SameSetting.logFiles (h : SameSetting s s') : s'.logFiles = s.logFiles := by
  rw [Session.logFiles, h.logging, ← Session.logFiles]

/-- The same view of the disk in the same setting. -/
structure Agrees (s s' : Session) : Prop extends SameSetting s s' where
  view : ∀ q, s'.view q = s.view q

lemma Agrees.refl (s : Session) : Agrees s s := ⟨.refl s, fun _ => rfl⟩

lemma Agrees.symm (h : Agrees s s') : Agrees s' s :=
  ⟨h.toSameSetting.symm, fun q => (h.view q).symm⟩

lemma Agrees.trans (h : Agrees s s') (h' : Agrees s' s'') : Agrees s s'' :=
  ⟨h.toSameSetting.trans h'.toSameSetting, fun q => (h'.view q).trans (h.view q)⟩

/-! ### Logging -/

/-- Bytes at the end of a file that logs are written to. -/
lemma appendTo_agrees {place : Place} (hplace : place ∈ s.logFiles) (bytes : Bytes) :
    s.Agrees (s.appendTo place bytes) := by
  rw [appendTo]
  split
  · rename_i content hfile
    refine ⟨⟨rfl, rfl⟩, fun q => ?_⟩
    have hroot : place ≠ [] := Disk.ne_root_of_find? (d := s.volume.disk) (by simp [hfile])
    change (s.volume.disk.put place (.file (content ++ bytes))).view s.logFiles q = _
    rw [Disk.view, Disk.find?_put _ hroot]
    by_cases hq : q = place
    · subst hq
      rw [if_pos rfl, view, Disk.view, hfile]
      dsimp only
      rw [if_pos hplace, if_pos hplace]
    · rw [if_neg hq, view, Disk.view]
  · exact .refl s

lemma handle_agrees (entry : LogEntry) {h : LogHandler} (hh : h ∈ s.logging.handlers) :
    s.Agrees (s.handle entry h) := by
  rw [handle]
  split
  · exact .refl s
  · cases houtlet : h.outlet with
    | console =>
        dsimp only
        split
        · exact ⟨⟨rfl, rfl⟩, fun _ => rfl⟩
        · exact .refl s
    | file place =>
        dsimp only
        split
        · refine appendTo_agrees ?_ _
          rw [logFiles, Logging.files, List.mem_filterMap]
          exact ⟨h, hh, by rw [houtlet]⟩
        · exact .refl s

/-- One more entry leaves the view as it is. -/
lemma write_agrees (s : Session) (entry : LogEntry) : s.Agrees (s.write entry) := by
  have fold : ∀ (hs : List LogHandler) (s : Session), (∀ h ∈ hs, h ∈ s.logging.handlers) →
      s.Agrees (hs.foldl (handle entry) s) := by
    intro hs
    induction hs with
    | nil => exact fun s _ => .refl s
    | cons h hs ih =>
        intro s hmem
        have hstep := handle_agrees entry (hmem h List.mem_cons_self)
        refine hstep.trans (ih _ fun h' hh' => ?_)
        rw [hstep.logging]
        exact hmem h' (List.mem_cons_of_mem _ hh')
  rw [write]
  split
  · exact .refl s
  · dsimp only
    split
    · have hentries : s.Agrees { s with entries := s.entries ++ [entry] } :=
        ⟨⟨rfl, rfl⟩, fun _ => rfl⟩
      exact hentries.trans (fold _ _ fun _ hh => hh)
    · exact ⟨⟨rfl, rfl⟩, fun _ => rfl⟩

lemma log_agrees (s : Session) (level : Level) (channel message : String) :
    s.Agrees (s.log level channel message) :=
  write_agrees s _

lemma writeAll_agrees (s : Session) (entries : List LogEntry) : s.Agrees (s.writeAll entries) := by
  rw [writeAll]
  induction entries generalizing s with
  | nil => exact .refl s
  | cons entry entries ih => exact (write_agrees s entry).trans (ih _)

/-! ### Changes -/

/-- The same setting, and the same view but for new directories and for files at some places. -/
structure Changes (targets : List Place) (s s' : Session) : Prop extends SameSetting s s' where
  view : ∀ q, s'.view q = s.view q ∨ (s.view q = none ∧ s'.view q = some .directory) ∨
    (q ∈ targets ∧ s.view q ≠ some .directory ∧ ∃ content, s'.view q = some (.file content))

variable {targets targets' : List Place}

lemma Agrees.changes (h : Agrees s s') (targets : List Place) : Changes targets s s' :=
  ⟨h.toSameSetting, fun q => Or.inl (h.view q)⟩

lemma Changes.mono (h : Changes targets s s') (hsub : targets ⊆ targets') :
    Changes targets' s s' := by
  refine ⟨h.toSameSetting, fun q => ?_⟩
  rcases h.view q with hq | hq | ⟨hmem, hq⟩
  · exact Or.inl hq
  · exact Or.inr (Or.inl hq)
  · exact Or.inr (Or.inr ⟨hsub hmem, hq⟩)

lemma Changes.trans (h : Changes targets s s') (h' : Changes targets' s' s'') :
    Changes (targets ++ targets') s s'' := by
  refine ⟨h.toSameSetting.trans h'.toSameSetting, fun q => ?_⟩
  rcases h'.view q with hq' | ⟨hnone, hdir⟩ | ⟨hmem, hnot, content, hfile⟩
  · rw [hq']
    rcases h.view q with hq | hq | ⟨hmem, hq⟩
    · exact Or.inl hq
    · exact Or.inr (Or.inl hq)
    · exact Or.inr (Or.inr ⟨List.mem_append_left _ hmem, hq⟩)
  · rcases h.view q with hq | ⟨-, hdir'⟩ | ⟨-, -, content, hfile⟩
    · exact Or.inr (Or.inl ⟨hq ▸ hnone, hdir⟩)
    · rw [hdir'] at hnone
      exact absurd hnone (by simp)
    · rw [hfile] at hnone
      exact absurd hnone (by simp)
  · refine Or.inr (Or.inr ⟨List.mem_append_right _ hmem, ?_, content, hfile⟩)
    rcases h.view q with hq | ⟨hnone, -⟩ | ⟨-, hnot', -⟩
    · exact hq ▸ hnot
    · rw [hnone]
      simp
    · exact hnot'

/-- Where no file was put, a file is as it was. -/
lemma Changes.file (h : Changes targets s s') {q : Place} (hq : q ∉ targets) {content : Bytes}
    (hfile : s.view q = some (.file content)) : s'.view q = some (.file content) := by
  rcases h.view q with hsame | ⟨hnone, -⟩ | ⟨hmem, -⟩
  · exact hsame.trans hfile
  · rw [hfile] at hnone
    exact absurd hnone (by simp)
  · exact absurd hmem hq

lemma Changes.keepsDirectories (h : Changes targets s s') :
    Disk.KeepsDirectories s.volume.disk s'.volume.disk := by
  intro q hq
  rw [← view_eq_directory] at hq ⊢
  rcases h.view q with hsame | ⟨hnone, -⟩ | ⟨-, hnot, -⟩
  · exact hsame.trans hq
  · rw [hq] at hnone
    exact absurd hnone (by simp)
  · exact absurd hq hnot

/-- A file that is no log reads the same where no file was put in its place. -/
lemma Changes.read (h : Changes targets s s') {p : Path} (hp : s.volume.placeOf p ∉ targets)
    (hlog : s.volume.placeOf p ∉ s.logFiles) {content : Bytes}
    (hread : s.volume.read p = .ok content) : s'.volume.read p = .ok content := by
  obtain ⟨place, hloc, hfile⟩ := Volume.read_eq_ok.mp hread
  obtain rfl := Volume.locate_eq_placeOf hloc
  have hview := h.file hp (by rwa [view_of_notMem hlog])
  rw [view_of_notMem (by rwa [h.logFiles])] at hview
  exact Volume.read_eq_ok.mpr ⟨_, Volume.locate_mono h.working h.keepsDirectories hloc, hview⟩

/-- New directories are a change of no files. -/
lemma onVolume_changes {v : Volume} (hw : v.working = s.volume.working)
    (h : Disk.AddsDirectories s.volume.disk v.disk) :
    Changes targets s (FileStore.onVolume s v) := by
  refine ⟨⟨rfl, hw⟩, fun q => ?_⟩
  change v.disk.view s.logFiles q = _ ∨ _ ∧ v.disk.view s.logFiles q = _ ∨ _
  rw [view, Disk.view_eq_none, Disk.view_eq_directory, Disk.view, Disk.view]
  rcases h q with hq | hq
  · exact Or.inl (by rw [hq])
  · exact Or.inr (Or.inl hq)

/-- A file at a place where no directory stands, whatever was there. -/
lemma onVolume_put {place : Place} {content : Bytes}
    (h : s.volume.disk.find? place ≠ some .directory) :
    Changes [place] s (FileStore.onVolume s
      (s.volume.withDisk (s.volume.disk.put place (.file content)))) := by
  refine ⟨⟨rfl, rfl⟩, fun q => ?_⟩
  change (s.volume.disk.put place (.file content)).view s.logFiles q = _ ∨ _ ∨
    _ ∧ _ ∧ ∃ c, (s.volume.disk.put place (.file content)).view s.logFiles q = some (.file c)
  rw [Disk.view, Disk.find?_put _ (Disk.ne_root_of_find? h)]
  by_cases hq : q = place
  · subst hq
    rw [if_pos rfl]
    exact Or.inr (Or.inr ⟨List.mem_singleton_self q, fun hd => h (view_eq_directory.mp hd), _, rfl⟩)
  · rw [if_neg hq]
    exact Or.inl rfl

end Session

end PageNotes
