import PageNotes.Proofs.Export.Near

/-!
The footprint of an export. On all sessions near a given one, the export of a page has the same
outcome and puts the same files and directories, no matter what other pages have put before.

* `Exporter.Steady`: what it means for an operation to do the same on all near sessions;
* `Exporter.copyAssets_steady`, `Exporter.writeNote_steady`: the operations of a delivery;
* `Exporter.IsSeparate`: a page that reads outside the folders, where no logs are written;
* `Exporter.exportFile_steady`: the export of such a page.
-/

namespace PageNotes

open Session (SameSetting Agrees Acts ActsTo)

namespace Exporter

variable {e : Exporter} {b s s₁ s' : Session} {source : Path} {ws written more : List Write}
  {change change' : Change} {α : Type}

/-- On all sessions near a given one an operation has the same result and makes the same change,
which puts no more than is written. -/
structure Steady (e : Exporter) (b : Session) (ws written : List Write)
    (f : Session → α × Session) (result : α) (change : Change) : Prop where
  puts : e.Puts b written change
  acts : ∀ s, e.Near b ws s → Acts f s result change

/-- What a steady operation gives, and the near session that it leads to. -/
lemma Steady.at {f : Session → α × Session} {result : α}
    (h : e.Steady b ws written f result change) (hsub : written ⊆ ws) (hfree : Write.Free ws)
    (hs : e.Near b ws s) :
    ∃ s', f s = (result, s') ∧ ActsTo s s' change ∧ e.Near b ws s' := by
  obtain ⟨s', hresult, hacts⟩ := h.acts s hs
  exact ⟨s', hresult, hacts, hs.actsTo hacts h.puts hsub hfree⟩

/-! ### Copies -/

/-- A name in the folder of assets is inside it. -/
lemma isInside_image (e : Exporter) (s : Session) (name : Text) :
    e.IsInside s (s.volume.placeOf e.imageFolder ++ [name]) :=
  Or.inr ⟨List.prefix_append _ _, by simp⟩

/-- One file put inside the folders. -/
lemma puts_file {w : Write} (content : Bytes) (hinside : e.IsInside b w.place)
    (hdir : b.view w.place ≠ some .directory)
    (horigin : ∀ p, w.origin = some p → b.volume.read p = .ok content) :
    e.Puts b [w] (Change.file w.place content) := by
  have key : ∀ {q x}, Change.file w.place content q = some x → q = w.place ∧ x = .file content := by
    intro q x hq
    rw [Change.file] at hq
    split_ifs at hq with heq
    exact ⟨heq, (Option.some.inj hq).symm⟩
  refine ⟨fun q x hq hnot => ?_, fun q content' hq => ?_, fun q hq => ?_⟩
  · exact absurd hinside ((key hq).1 ▸ hnot)
  · obtain ⟨rfl, hfile⟩ := key hq
    cases hfile
    exact ⟨hdir, w, List.mem_singleton_self w, rfl, horigin⟩
  · exact absurd (key hq).2 (by simp)

/-- An asset whose copy is steady: its file is outside the folders, and no log is written to it or
to its copy. -/
structure IsSeparateAsset (e : Exporter) (s : Session) (a : Asset) : Prop where
  name : IsName a.fileName
  original : e.IsOutside s a.resolved
  noLog : s.volume.placeOf a.resolved ∉ s.logFiles
  copyNoLog : (e.copyOf s a).place ∉ s.logFiles

/-- The answer to a refusal of the disk: an error if the path has a null character. -/
def refusal (null : Bool) : Except StoreError Bool :=
  if null then .error (.disk .nullCharacter) else .ok false

section Copied

variable {store : FileStore} {folder : Path} {a : Asset}
  (hfolder : FileStore.ensureDirectory s folder = (.ok (), s)) (hname : IsPlain a.fileName)

include hfolder hname

/-- Where the folder is there, a copy that fails is refused. -/
lemma copyAsset_failed {cause : DiskError}
    (hcopy : s.volume.copy a.resolved (folder.child a.fileName) = .error cause) :
    ∃ s', store.copyAsset s a.resolved folder (some a.fileName)
        = (refusal (decide (cause = .nullCharacter)), s') ∧ s.Agrees s' := by
  rw [FileStore.copyAsset, copyTarget_eq, Path.parent_child _ hname, hfolder]
  dsimp only
  rw [hcopy]
  cases cause with
  | nullCharacter => exact ⟨_, rfl, .refl s⟩
  | refused | sameFile => exact ⟨_, rfl, Session.log_agrees _ _ _ _⟩

/-- Where the folder is there, a copy that is made is told. -/
lemma copyAsset_made {v : Volume}
    (hcopy : s.volume.copy a.resolved (folder.child a.fileName) = .ok v) :
    ∃ s', store.copyAsset s a.resolved folder (some a.fileName) = (.ok true, s') ∧
      (FileStore.onVolume s v).Agrees s' := by
  rw [FileStore.copyAsset, copyTarget_eq, Path.parent_child _ hname, hfolder]
  dsimp only
  rw [hcopy]
  exact ⟨_, rfl, Session.log_agrees _ _ _ _⟩

end Copied

lemma copyAsset_steady {a : Asset} (ha : e.IsSeparateAsset b a)
    (hfolder : b.volume.isDirectory e.imageFolder = .ok true) (hmem : e.copyOf b a ∈ ws) :
    ∃ result change, e.Steady b ws [e.copyOf b a]
      (fun s => e.store.copyAsset s a.resolved e.imageFolder (some a.fileName)) result change := by
  have hplace : (e.copyOf b a).place = b.volume.placeOf e.imageFolder ++ [a.fileName] :=
    Volume.placeOf_child _ ha.name
  have hinside : e.IsInside b (e.copyOf b a).place := hplace ▸ e.isInside_image b a.fileName
  rcases Near.copy hmem ha.name hplace hfolder hinside ha.original ha.noLog with
    ⟨cause, hfails⟩ | ⟨content, hread, hdir, hputs⟩
  · refine ⟨refusal (decide (cause = .nullCharacter)), _, .none e b _, fun s h => ?_⟩
    obtain ⟨s', hgives, hagrees⟩ :=
      copyAsset_failed (h.ensureDirectory hfolder) ha.name.1 (hfails s h)
    exact ⟨s', hgives, hagrees.actsTo⟩
  · refine ⟨.ok true, Change.file (e.copyOf b a).place content,
      puts_file content hinside hdir fun p hp => ?_, fun s h => ?_⟩
    · rwa [← Option.some.inj hp]
    · obtain ⟨s', hgives, hagrees⟩ :=
        copyAsset_made (h.ensureDirectory hfolder) ha.name.1 (hputs s h)
      refine ⟨s', hgives, (Session.actsTo_put (fun hd => hdir ?_) ?_).agrees hagrees⟩
      · rw [Session.view_eq_directory]
        exact (h.directory_iff hmem).mp hd
      · rw [h.logFiles]
        exact ha.copyNoLog

/-- The count and the warnings with one more asset. -/
def countCopy (a : Asset) (copied : Bool) (counts : Nat × List Warning) : Nat × List Warning :=
  if copied then (counts.1 + 1, counts.2) else (counts.1, copyWarning a :: counts.2)

/-- Copying assets is steady. -/
lemma copyAssets_steady {assets : List Asset} (hassets : ∀ a ∈ assets, e.IsSeparateAsset b a)
    (hfolder : b.volume.isDirectory e.imageFolder = .ok true) (hfree : Write.Free ws)
    (hsub : assets.map (e.copyOf b) ⊆ ws) :
    ∃ result change, e.Steady b ws (assets.map (e.copyOf b)) (fun s => e.copyAssets s assets)
      result change := by
  induction assets with
  | nil => exact ⟨_, _, .none e b _, fun s _ => ⟨s, rfl, (Agrees.refl s).actsTo⟩⟩
  | cons a rest ih =>
      rw [List.map_cons, List.cons_subset] at hsub
      obtain ⟨result, change, hfirst⟩ :=
        copyAsset_steady (hassets a List.mem_cons_self) hfolder hsub.1
      obtain ⟨results, changes, hrest⟩ :=
        ih (fun a' ha' => hassets a' (List.mem_cons_of_mem _ ha')) hsub.2
      have hputs : e.Puts b ((a :: rest).map (e.copyOf b)) change := hfirst.puts.mono (by simp)
      cases result with
      | error cause =>
          refine ⟨.error cause, change, hputs, fun s h => ?_⟩
          obtain ⟨s₁, hcopy, hacts, -⟩ := hfirst.at (by simpa using hsub.1) hfree h
          refine ⟨s₁, ?_, hacts⟩
          change e.copyAssets s (a :: rest) = _
          rw [copyAssets, hcopy]
      | ok copied =>
          refine ⟨results.map (countCopy a copied), changes.after change,
            hputs.after (hrest.puts.mono (List.subset_cons_self _ _)), fun s h => ?_⟩
          obtain ⟨s₁, hcopy, hacts, hnear⟩ := hfirst.at (by simpa using hsub.1) hfree h
          obtain ⟨s₂, hcopies, hacts', -⟩ := hrest.at hsub.2 hfree hnear
          refine ⟨s₂, ?_, hacts.trans hacts'⟩
          change e.copyAssets s (a :: rest) = _
          rw [copyAssets, hcopy]
          dsimp only
          rw [hcopies]
          cases results with
          | error cause => rfl
          | ok counts => cases copied <;> rfl

/-! ### Notes -/

/-- The answer of the disk, of whose error it matters only whether it is about a null character. -/
def nullOnly (answer : Except DiskError Unit × Session) : Except Bool Unit × Session :=
  (answer.1.mapError fun cause => decide (cause = .nullCharacter), answer.2)

/-- The directories on the way to a note, as far as they can be made, put no more than the note
needs. -/
lemma puts_along {w : Write} {names : List Text} {last : Text}
    (hfolder : b.view (b.volume.placeOf e.outputFolder) = some .directory)
    (hplace : w.place = b.volume.placeOf e.outputFolder ++ (names ++ [last])) :
    e.Puts b [w] (Disk.along (b.volume.placeOf e.outputFolder)
      (Disk.openNames b.view (b.volume.placeOf e.outputFolder) names)) := by
  have key : ∀ {q x}, Disk.along (b.volume.placeOf e.outputFolder)
      (Disk.openNames b.view (b.volume.placeOf e.outputFolder) names) q = some x →
        x = .directory ∧ b.volume.placeOf e.outputFolder <+: q ∧
          q <+: b.volume.placeOf e.outputFolder ++
            Disk.openNames b.view (b.volume.placeOf e.outputFolder) names := by
    intro q x hq
    rw [Disk.along] at hq
    split_ifs at hq with hway
    exact ⟨(Option.some.inj hq).symm, hway⟩
  refine ⟨fun q x hq hnot => ?_, fun q content hq => absurd (key hq).1 (by simp), fun q hq => ?_⟩
  · obtain ⟨rfl, hbelow, -⟩ := key hq
    by_cases heq : q = b.volume.placeOf e.outputFolder
    · rw [heq, hfolder]
    · exact absurd (Or.inl ⟨hbelow, heq⟩) hnot
  · obtain ⟨-, hbelow, habove⟩ := key hq
    refine ⟨Disk.isFileEntry_of_open (by rw [hfolder]; rfl) hbelow habove, w,
      List.mem_singleton_self w, ?_, fun heq => ?_⟩
    · rw [hplace, ← List.append_assoc]
      exact (habove.trans ((List.prefix_append_right_inj _).mpr
        (Disk.openNames_isPrefix _ _ _))).trans (List.prefix_append _ _)
    · have hlength := habove.length_le
      have hnames :=
        (Disk.openNames_isPrefix b.view (b.volume.placeOf e.outputFolder) names).length_le
      rw [heq, hplace, List.length_append, List.length_append, List.length_append,
        List.length_singleton] at hlength
      omega

/-- The place of a note below the folder of notes. -/
lemma noteOf_place (hworking : ∀ name ∈ b.volume.working, IsName name)
    (hsource : ∀ name ∈ source.parts, IsPlain name) :
    (e.noteOf b source).place = b.volume.placeOf e.outputFolder ++
      ((e.relativeDirectory b.workingPath source).parts ++ [noteName source]) := by
  rw [noteOf, placeOf_outputPath hworking hsource]

/-- The directory of a note is made along names below the folder of notes. -/
lemma Near.makesAlong (h : e.Near b ws s) (hworking : ∀ name ∈ b.volume.working, IsName name)
    (hsource : ∀ name ∈ source.parts, IsPlain name)
    (hfolder : b.volume.isDirectory e.outputFolder = .ok true)
    (hfits : (e.noteDirectory b.workingPath source).Fits) :
    Volume.MakesAlong s.volume (b.volume.placeOf e.outputFolder)
      (e.relativeDirectory b.workingPath source).parts
      (s.volume.makeDirectory (e.noteDirectory b.workingPath source)) := by
  obtain ⟨place, hloc, hdir⟩ := Volume.isDirectory_eq_true.mp hfolder
  obtain rfl := Volume.locate_eq_placeOf hloc
  exact Volume.makeDirectory_along (Volume.locate_mono h.working h.keepsDirectories hloc)
    (h.keepsDirectories _ hdir) (relativeDirectory_names e b.workingPath hworking rfl hsource)
    hfits

/-- Directories that are made along names are a change of these. -/
lemma ensureDirectory_along {p : Path} {place : Place} {names : List Text}
    (h : Volume.MakesAlong s.volume place names (s.volume.makeDirectory p)) :
    Acts (fun s => nullOnly (FileStore.ensureDirectory s p)) s
      (if Disk.openNames s.volume.disk.find? place names = names then .ok () else .error false)
      (Disk.along place (Disk.openNames s.volume.disk.find? place names)) := by
  refine ⟨_, Prod.ext ?_ rfl, Session.actsTo_along h.working h.found⟩
  change (s.volume.makeDirectory p).1.mapError _ = _
  cases hresult : (s.volume.makeDirectory p).1 with
  | ok =>
      rw [if_pos (h.succeeds.mp hresult)]
      rfl
  | error cause =>
      have hnull := h.noNull
      rw [hresult] at hnull
      rw [if_neg fun hall => by simp [h.succeeds.mpr hall] at hresult]
      simpa [Except.mapError] using hnull

/-- No directory is made where its path does not fit. -/
lemma ensureDirectory_unfit {p : Path} (h : ¬p.Fits) (s : Session) :
    nullOnly (FileStore.ensureDirectory s p) = (.error p.hasNull, s) := by
  obtain ⟨cause, hcause, hnull⟩ := Volume.makeDirectory_unfit (v := s.volume) h
  dsimp only [nullOnly, FileStore.ensureDirectory]
  rw [hcause]
  refine Prod.ext ?_ rfl
  simp only [Except.mapError, Except.error.injEq]
  rw [Bool.eq_iff_iff, decide_eq_true_eq, hnull]

/-- Making the directory of a note is steady. -/
lemma ensureDirectory_steady (hworking : ∀ name ∈ b.volume.working, IsName name)
    (hsource : ∀ name ∈ source.parts, IsPlain name)
    (hfolder : b.volume.isDirectory e.outputFolder = .ok true) (hmem : e.noteOf b source ∈ ws) :
    ∃ result change, e.Steady b ws [e.noteOf b source] (fun s => nullOnly
      (FileStore.ensureDirectory s (e.noteDirectory b.workingPath source))) result change := by
  -- a path that does not fit is refused before the disk is looked at
  by_cases hfits : (e.noteDirectory b.workingPath source).Fits
  · obtain ⟨place, hloc, hdir⟩ := Volume.isDirectory_eq_true.mp hfolder
    obtain rfl := Volume.locate_eq_placeOf hloc
    have hplace := noteOf_place (e := e) hworking hsource
    refine ⟨if Disk.openNames b.view (b.volume.placeOf e.outputFolder)
        (e.relativeDirectory b.workingPath source).parts
          = (e.relativeDirectory b.workingPath source).parts then .ok () else .error false, _,
      puts_along (Session.view_eq_directory.mpr hdir) hplace, fun s h => ?_⟩
    rw [← h.openNames hmem hplace]
    exact ensureDirectory_along (h.makesAlong hworking hsource hfolder hfits)
  · exact ⟨.error (e.noteDirectory b.workingPath source).hasNull, _, .none e b _, fun s _ =>
      ⟨s, ensureDirectory_unfit hfits s, (Agrees.refl s).actsTo⟩⟩

/-- The directory of a note as it is on near sessions: it cannot be made on any of them, always or
never for a null character, or it is there on all. -/
lemma noteDirectory_steady (hworking : ∀ name ∈ b.volume.working, IsName name)
    (hsource : ∀ name ∈ source.parts, IsPlain name)
    (hfolder : b.volume.isDirectory e.outputFolder = .ok true) (hfree : Write.Free ws)
    (hmem : e.noteOf b source ∈ ws) :
    ∃ change, e.Puts b [e.noteOf b source] change ∧
      ((∃ null : Bool, ∀ s, e.Near b ws s → ∃ cause s₁,
          FileStore.ensureDirectory s (e.noteDirectory b.workingPath source) = (.error cause, s₁) ∧
            decide (cause = .nullCharacter) = null ∧ ActsTo s s₁ change) ∨
        ∀ s, e.Near b ws s → ∃ s₁,
          FileStore.ensureDirectory s (e.noteDirectory b.workingPath source) = (.ok (), s₁) ∧
            s₁.volume.isDirectory (e.noteDirectory b.workingPath source) = .ok true ∧
              ActsTo s s₁ change ∧ e.Near b ws s₁) := by
  obtain ⟨result, change, hsteady⟩ := ensureDirectory_steady hworking hsource hfolder hmem
  have hensure : ∀ s, e.Near b ws s → ∃ made s₁, FileStore.ensureDirectory s
      (e.noteDirectory b.workingPath source) = (made, s₁) ∧
        made.mapError (fun cause => decide (cause = .nullCharacter)) = result ∧
          ActsTo s s₁ change ∧ e.Near b ws s₁ := by
    intro s h
    obtain ⟨s₁, hresult, hacts, hnear⟩ := hsteady.at (by simpa using hmem) hfree h
    rw [nullOnly, Prod.mk.injEq] at hresult
    exact ⟨_, s₁, Prod.ext rfl hresult.2, hresult.1, hacts, hnear⟩
  refine ⟨change, hsteady.puts, ?_⟩
  cases result with
  | error null =>
      refine Or.inl ⟨null, fun s h => ?_⟩
      obtain ⟨made, s₁, hmade, hnull, hacts, -⟩ := hensure s h
      cases made with
      | ok => simp [Except.mapError] at hnull
      | error cause => exact ⟨cause, s₁, hmade, Except.error.inj hnull, hacts⟩
  | ok =>
      refine Or.inr fun s h => ?_
      obtain ⟨made, s₁, hmade, hok, hacts, hnear⟩ := hensure s h
      cases made with
      | error cause => simp [Except.mapError] at hok
      | ok =>
          have hdir := Volume.makeDirectory_ok (congrArg Prod.fst hmade)
          refine ⟨s₁, hmade, ?_, hacts, hnear⟩
          rw [FileStore.ensureDirectory, Prod.mk.injEq] at hmade
          rw [← hmade.2]
          exact hdir

/-- A note that the disk refuses is no change but in the log. -/
lemma writeOutput_refusal {p : Path} {content : Text} {cause : DiskError}
    (h : e.store.save s p content = (.error (FileStore.refuse (.unwritable p) cause), s₁))
    (hacts : ActsTo s s₁ change) :
    ∃ s', e.store.writeOutput s p content = (refusal (decide (cause = .nullCharacter)), s') ∧
      ActsTo s s' change := by
  rw [FileStore.writeOutput, h]
  cases cause with
  | nullCharacter => exact ⟨s₁, rfl, hacts⟩
  | refused | sameFile => exact ⟨_, rfl, hacts.agrees (Session.log_agrees _ _ _ _)⟩

/-- Writing a note is steady. -/
lemma writeNote_steady (hworking : ∀ name ∈ b.volume.working, IsName name)
    (hsource : ∀ name ∈ source.parts, IsPlain name)
    (hfolder : b.volume.isDirectory e.outputFolder = .ok true) (hfree : Write.Free ws)
    (hmem : e.noteOf b source ∈ ws) (hlog : (e.noteOf b source).place ∉ b.logFiles)
    (content : Text) :
    ∃ result change, e.Steady b ws [e.noteOf b source]
      (fun s => e.store.writeOutput s (e.outputPath b.workingPath source) content)
      result change := by
  have hname := noteName_isName source
  obtain ⟨change, hputs, hdirectory⟩ :=
    noteDirectory_steady hworking hsource hfolder hfree hmem
  have hplace : (e.noteOf b source).place
      = b.volume.placeOf (e.noteDirectory b.workingPath source) ++ [noteName source] := by
    rw [noteOf, outputPath_child, Volume.placeOf_child _ hname]
  have hinside : e.IsInside b (e.noteOf b source).place := by
    rw [noteOf_place hworking hsource]
    exact Or.inl ⟨List.prefix_append _ _, by simp⟩
  have hparent : ((e.noteDirectory b.workingPath source).child (noteName source)).parent
      = e.noteDirectory b.workingPath source := Path.parent_child _ hname.1
  rw [outputPath_child]
  rcases hdirectory with ⟨null, hunmade⟩ | hmade
  · refine ⟨refusal null, change, hputs, fun s h => ?_⟩
    obtain ⟨cause, s₁, hmake, rfl, hacts⟩ := hunmade s h
    exact writeOutput_refusal (by rw [FileStore.save, hparent, hmake]) hacts
  · -- the session itself, with the directory made, settles how writing goes on all others
    obtain ⟨b₁, -, hdir₁, -, hnear₁⟩ := hmade b (.refl e b ws)
    rcases Near.write hmem hname hplace hnear₁ hdir₁ with ⟨cause, hfails⟩ | ⟨hentry, hwrites⟩
    · refine ⟨refusal (decide (cause = .nullCharacter)), change, hputs, fun s h => ?_⟩
      obtain ⟨s₁, hmake, hdir, hacts, hnear⟩ := hmade s h
      refine writeOutput_refusal ?_ hacts
      rw [FileStore.save, hparent, hmake]
      dsimp only
      rw [hfails s₁ [] hnear hdir]
    · have hfile := fun content => puts_file content hinside hentry (by simp [noteOf])
      have hput : ∀ s content, e.Near b ws s → ActsTo s (FileStore.onVolume s (s.volume.withDisk
          (s.volume.disk.put (e.noteOf b source).place (.file content))))
            (Change.file (e.noteOf b source).place content) := by
        intro s content h
        refine Session.actsTo_put (fun hd => hentry ?_) (h.logFiles.symm ▸ hlog)
        exact Session.view_eq_directory.mpr ((h.directory_iff hmem).mp hd)
      cases hencode : e.store.encoding.encode content with
      | error cause =>
          refine ⟨.error (.unencodable cause), _, hputs.after (hfile []), fun s h => ?_⟩
          obtain ⟨s₁, hmake, hdir, hacts, hnear⟩ := hmade s h
          refine ⟨_, ?_, hacts.trans (hput s₁ [] hnear)⟩
          dsimp only
          rw [FileStore.writeOutput, FileStore.save, hparent, hmake]
          dsimp only
          rw [hwrites s₁ [] hnear hdir, hencode]
      | ok bytes =>
          refine ⟨.ok true, _, (hputs.after (hfile [])).after (hfile bytes), fun s h => ?_⟩
          obtain ⟨s₁, hmake, hdir, hacts, hnear⟩ := hmade s h
          have hnear₂ := hnear.actsTo (hput s₁ [] hnear) (hfile []) (by simpa using hmem) hfree
          have hdir₂ : (s₁.volume.withDisk (s₁.volume.disk.put (e.noteOf b source).place
              (.file []))).isDirectory (e.noteDirectory b.workingPath source) = .ok true :=
            Volume.isDirectory_mono (v := s₁.volume) rfl (Disk.keepsDirectories_put fun hd => hentry
              (Session.view_eq_directory.mpr ((hnear.directory_iff hmem).mp hd))) hdir
          refine ⟨_, ?_, (hacts.trans (hput s₁ [] hnear)).trans (hput _ bytes hnear₂)⟩
          dsimp only
          rw [FileStore.writeOutput, FileStore.save, hparent, hmake]
          dsimp only
          rw [hwrites s₁ [] hnear hdir, hencode]
          dsimp only
          have hagain := hwrites _ bytes hnear₂ hdir₂
          rw [FileStore.onVolume_volume] at hagain
          rw [hagain]
          rfl

/-! ### Pages -/

/-- Delivering a page is steady. -/
lemma deliver_steady (hworking : ∀ name ∈ b.volume.working, IsName name)
    (hprepared : e.IsPrepared b) (hfree : Write.Free ws) {c : Conversion}
    (hsource : ∀ name ∈ c.source.parts, IsPlain name)
    (hassets : ∀ a ∈ c.assets, e.IsSeparateAsset b a)
    (hlog : (e.noteOf b c.source).place ∉ b.logFiles)
    (hsub : c.assets.map (e.copyOf b) ++ [e.noteOf b c.source] ⊆ ws) :
    ∃ result change, e.Steady b ws (c.assets.map (e.copyOf b) ++ [e.noteOf b c.source])
      (fun s => e.deliver s c) result change := by
  rw [List.append_subset] at hsub
  obtain ⟨copies, change, hcopies⟩ :=
    copyAssets_steady hassets hprepared.image hfree hsub.1
  obtain ⟨written, change', hnote⟩ := writeNote_steady hworking hsource hprepared.output hfree
    (by simpa using hsub.2) hlog c.note.text
  have hputs := hcopies.puts.mono (List.subset_append_left _ [e.noteOf b c.source])
  have hputs' := hputs.after (hnote.puts.mono (List.subset_append_right _ _))
  cases copies with
  | error cause =>
      refine ⟨.error cause, change, hputs, fun s h => ?_⟩
      obtain ⟨s₁, hcopy, hacts, -⟩ := hcopies.at hsub.1 hfree h
      exact ⟨s₁, by dsimp only; rw [deliver, hcopy], hacts⟩
  | ok counts =>
      obtain ⟨copied, failures⟩ := counts
      have hsteps : ∀ s, e.Near b ws s → ∃ s₁ s₂,
          e.copyAssets s c.assets = (.ok (copied, failures), s₁) ∧
            e.store.writeOutput s₁ (e.outputPath s₁.workingPath c.source) c.note.text
              = (written, s₂) ∧
              e.outputPath s₁.workingPath c.source = e.outputPath b.workingPath c.source ∧
                ActsTo s s₂ (change'.after change) := by
        intro s h
        obtain ⟨s₁, hcopy, hacts, hnear⟩ := hcopies.at hsub.1 hfree h
        obtain ⟨s₂, hwrite, hacts', -⟩ := hnote.at hsub.2 hfree hnear
        have hpath := workingPath_eq hnear.toSameSetting
        exact ⟨s₁, s₂, hcopy, by rw [hpath, hwrite], by rw [hpath], hacts.trans hacts'⟩
      cases written with
      | error cause =>
          refine ⟨.error cause, _, hputs', fun s h => ?_⟩
          obtain ⟨s₁, s₂, hcopy, hwrite, -, hacts⟩ := hsteps s h
          refine ⟨s₂, ?_, hacts⟩
          dsimp only
          rw [deliver, hcopy]
          dsimp only
          rw [hwrite]
      | ok done =>
          cases done with
          | false =>
              refine ⟨.ok { source := c.source, status := .writeFailed, assetsCopied := copied
                            warnings := c.warnings ++ failures
                            error := some
                              s!"Error writing file {e.outputPath b.workingPath c.source}".toList },
                _, hputs', fun s h => ?_⟩
              obtain ⟨s₁, s₂, hcopy, hwrite, hpath, hacts⟩ := hsteps s h
              refine ⟨s₂, ?_, hacts⟩
              dsimp only
              rw [deliver, hcopy]
              dsimp only
              rw [hwrite, hpath]
          | true =>
              refine ⟨.ok { source := c.source, status := .success, assetsCopied := copied
                            output := some (e.outputPath b.workingPath c.source)
                            warnings := c.warnings ++ failures },
                _, hputs', fun s h => ?_⟩
              obtain ⟨s₁, s₂, hcopy, hwrite, hpath, hacts⟩ := hsteps s h
              have hlogged := hacts.agrees (Session.log_agrees s₂ .info e.channel
                s!"Converted {c.source} to {e.outputPath b.workingPath c.source}")
              refine ⟨_, ?_, hlogged⟩
              dsimp only
              rw [deliver, hcopy]
              dsimp only
              rw [hwrite, hpath]

end Exporter

/-- A conversion depends on nothing of the disk but the answers for the files that it asks for. -/
lemma Converter.run_congr {c : Converter} {store : AssetStore} {source : Path} {html : Text}
    (h : ∀ p ∈ (c.rewritten source html).search.asked, store p = c.store p) (channel : String) :
    { c with store }.run channel source html = c.run channel source html := by
  have hsettings : { c with store }.rewriting source = { c.rewriting source with store } := rfl
  have hrewriting : Rewriting.of { c.rewriting source with store }
      (Content.sanitize c.config.content (Document.parse html)).document
        = c.rewritten source html := Rewriting.of_congr h
  rw [run, run]
  dsimp only
  rw [hsettings, hrewriting]
  rfl

namespace Exporter

variable {e : Exporter} {b s : Session} {source : Path} {ws : List Write}

/-- A page that is at a place outside the folders, as are all files that it asks for, where none of
these files and none that it writes is a log. -/
structure IsSeparate (e : Exporter) (s : Session) (source : Path) : Prop where
  plain : ∀ name ∈ source.parts, IsPlain name
  outside : e.IsOutside s source
  noLog : s.volume.placeOf source ∉ s.logFiles
  asked : ∀ p ∈ e.asked s source, e.IsOutside s p ∧ s.volume.placeOf p ∉ s.logFiles
  writes : ∀ w ∈ e.writes s source, w.place ∉ s.logFiles

instance (e : Exporter) (s : Session) (source : Path) : Decidable (e.IsSeparate s source) :=
  decidable_of_iff ((∀ name ∈ source.parts, IsPlain name) ∧ e.IsOutside s source ∧
      s.volume.placeOf source ∉ s.logFiles ∧
        (∀ p ∈ e.asked s source, e.IsOutside s p ∧ s.volume.placeOf p ∉ s.logFiles) ∧
          ∀ w ∈ e.writes s source, w.place ∉ s.logFiles)
    ⟨fun h => ⟨h.1, h.2.1, h.2.2.1, h.2.2.2.1, h.2.2.2.2⟩,
      fun h => ⟨h.plain, h.outside, h.noLog, h.asked, h.writes⟩⟩

/-- A page reads the same on near sessions. -/
lemma Near.load (h : e.Near b ws s) (hpage : e.IsSeparate b source) :
    e.store.load s.volume source.toText = e.store.load b.volume source.toText := by
  rw [FileStore.load, Path.ofText_toText hpage.plain, h.read hpage.outside hpage.noLog,
    FileStore.load, Path.ofText_toText hpage.plain]

/-- It is converted the same. -/
lemma Near.run (h : e.Near b ws s) (hpage : e.IsSeparate b source) {html : Text}
    (hload : e.store.load b.volume source.toText = .ok html) (channel : String) :
    (e.converter s).run channel source html = (e.converter b).run channel source html := by
  have hconverter : e.converter s = { e.converter b with store := s.volume.isFile } := by
    rw [converter, converter, workingPath_eq h.toSameSetting]
  rw [hconverter]
  refine Converter.run_congr (fun p hp => h.isFile (hpage.asked p ?_).1) channel
  rw [Exporter.asked, hload]
  exact hp

/-- The assets of a separate page are steady. -/
lemma IsSeparate.assets (hworking : ∀ name ∈ b.volume.working, IsName name)
    (hpage : e.IsSeparate b source) {c : Conversion} (hconv : e.conversion b source = some c) :
    ∀ a ∈ c.assets, e.IsSeparateAsset b a := by
  intro a ha
  obtain ⟨html, hload, hend, -, hassets, -⟩ := conversion_eq_some hconv
  have hmem := ha
  rw [hassets] at hmem
  have hasked : a.resolved ∈ e.asked b source := by
    rw [Exporter.asked, hload]
    exact Rewriting.assets_asked _ _ a hmem
  have hnamed : a.IsNamed := by
    rw [← Path.ofText_toText hpage.plain] at hmem hend
    exact (asset_isNamed hworking hend hmem).1
  obtain ⟨houtside, hlog⟩ := hpage.asked _ hasked
  refine ⟨hnamed.fileName, houtside, hlog, hpage.writes _ ?_⟩
  rw [Exporter.writes, hconv]
  exact List.mem_append_left _ (List.mem_map_of_mem ha)

/-- What a page that is not loaded gives. -/
def unloaded (source : Path) : StoreError → Except StoreError Outcome
  | .unreadable path cause =>
    .ok { source, status := .readFailed
          error := some (StoreError.unreadable path cause).message.toList }
  | .undecodable path cause =>
    .ok { source, status := .readFailed
          error := some (StoreError.undecodable path cause).message.toList }
  | cause => .error cause

lemma exportFile_unloaded {cause : StoreError}
    (h : e.store.load s.volume source.toText = .error cause) :
    ∃ s', e.exportFile s source = (unloaded source cause, s') ∧ s.Agrees s' := by
  rw [exportFile, h]
  cases cause with
  | unreadable | undecodable => exact ⟨_, rfl, Session.log_agrees _ _ _ _⟩
  | noDirectory | unwritable | unencodable | disk => exact ⟨s, rfl, .refl s⟩

lemma exportFile_unconverted {html : Text} {cause : ConversionError} {entries : List LogEntry}
    (hload : e.store.load s.volume source.toText = .ok html)
    (hrun : (e.converter s).run e.converterChannel source html = (.error cause, entries)) :
    ∃ s', e.exportFile s source = (.ok { source, status := .conversionFailed
                                         error := some cause.message.toList }, s') ∧
      s.Agrees s' := by
  rw [exportFile, hload]
  dsimp only
  rw [← converterChannel, hrun]
  exact ⟨_, rfl, (Session.writeAll_agrees s entries).trans (Session.log_agrees _ _ _ _)⟩

lemma exportFile_converted {html : Text} {c : Conversion} {entries : List LogEntry}
    (hload : e.store.load s.volume source.toText = .ok html)
    (hrun : (e.converter s).run e.converterChannel source html = (.ok c, entries)) :
    e.exportFile s source = e.deliver (s.writeAll entries) c := by
  rw [exportFile, hload]
  dsimp only
  rw [← converterChannel, hrun]

/-- Exporting a page is steady. -/
theorem exportFile_steady (hworking : ∀ name ∈ b.volume.working, IsName name)
    (hprepared : e.IsPrepared b) (hfree : Write.Free ws) (hpage : e.IsSeparate b source)
    (hsub : e.writes b source ⊆ ws) :
    ∃ change, e.Steady b ws (e.writes b source) (fun s => e.exportFile s source)
      (e.exportFile b source).1 change := by
  -- the result is that on the session itself, which is near to itself
  suffices hsteady : ∃ result change, e.Steady b ws (e.writes b source)
      (fun s => e.exportFile s source) result change by
    obtain ⟨result, change, hsteady⟩ := hsteady
    obtain ⟨b', hresult, -⟩ := hsteady.acts b (.refl e b ws)
    exact ⟨change, (congrArg Prod.fst hresult) ▸ hsteady⟩
  cases hload : e.store.load b.volume source.toText with
  | error cause =>
      refine ⟨unloaded source cause, _, .none e b _, fun s h => ?_⟩
      obtain ⟨s', hresult, hagrees⟩ := exportFile_unloaded ((h.load hpage).trans hload)
      exact ⟨s', hresult, hagrees.actsTo⟩
  | ok html =>
      cases hrun : (e.converter b).run e.converterChannel source html with
      | mk converted entries =>
          have hload' := fun s (h : e.Near b ws s) => (h.load hpage).trans hload
          have hrun' := fun s (h : e.Near b ws s) =>
            (h.run hpage hload e.converterChannel).trans hrun
          cases converted with
          | error cause =>
              refine ⟨.ok { source, status := .conversionFailed
                            error := some cause.message.toList },
                _, .none e b _, fun s h => ?_⟩
              obtain ⟨s', hresult, hagrees⟩ := exportFile_unconverted (hload' s h) (hrun' s h)
              exact ⟨s', hresult, hagrees.actsTo⟩
          | ok c =>
              have hconv : e.conversion b source = some c := by
                rw [conversion, hload]
                dsimp only
                rw [hrun]
              obtain ⟨-, -, -, hc, -⟩ := conversion_eq_some hconv
              have hassets := hpage.assets hworking hconv
              have hwrites : e.writes b source
                  = c.assets.map (e.copyOf b) ++ [e.noteOf b c.source] := by rw [writes, hconv]
              have hlog := hpage.writes (e.noteOf b c.source) (by simp [hwrites])
              rw [hwrites] at hsub ⊢
              obtain ⟨result, change, hdeliver⟩ := deliver_steady hworking hprepared hfree
                (hc ▸ hpage.plain) hassets hlog hsub
              refine ⟨result, change, hdeliver.puts, fun s h => ?_⟩
              have hentries := Session.writeAll_agrees s entries
              obtain ⟨s', hresult, hacts⟩ := hdeliver.acts _ (h.agrees hentries)
              exact ⟨s', (exportFile_converted (hload' s h) (hrun' s h)).trans hresult,
                hentries.trans_actsTo hacts⟩

end Exporter

end PageNotes
