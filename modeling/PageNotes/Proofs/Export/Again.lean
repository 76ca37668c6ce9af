import PageNotes.Proofs.Export.Containment
import PageNotes.Proofs.Export.Footprint
import PageNotes.Proofs.Export.Growth

/-!
Exporting a page again. What comes later to the folders of notes and assets makes no difference to a
page: it never turns a file into a directory or a directory into a file, so every copy, directory
and note that could be made can be made again, and what could not be made still cannot.

* `Exporter.Later`: a session that comes after another, in which only the folders have more;
* `Exporter.Repeats`: operations that do the same again at any later time;
* `Exporter.Repeats.bind`, `Exporter.Repeats.settled`: one after another, and right after
  themselves, when they change nothing;
* `Exporter.exportFile_repeats`: the export of a page, whatever other pages write.
-/

namespace PageNotes

open Session (SameSetting Agrees Acts ActsTo)

namespace Exporter

variable {e : Exporter} {b s s₁ s' u u' : Session} {source : Path} {change : Change}
  {α β : Type} {f : Session → α × Session}

/-! ### Later sessions -/

/-- A session that comes after another: outside the folders all is as it was, and in them
directories are still directories and files still files. -/
structure Later (e : Exporter) (s s' : Session) : Prop extends SameSetting s s' where
  outside : ∀ q, ¬e.IsInside s q → s'.view q = s.view q
  directory : ∀ q, s.view q = some .directory → s'.view q = some .directory
  file : ∀ q, Disk.isFileEntry (s.view q) = true → Disk.isFileEntry (s'.view q) = true

lemma isInside_iff (h : SameSetting s s') (q : Place) : e.IsInside s' q ↔ e.IsInside s q := by
  rw [IsInside, IsInside, Volume.placeOf_eq h.working, Volume.placeOf_eq h.working]

/-- What lies below a place inside the folders lies inside them. -/
lemma IsInside.below {q r : Place} (h : e.IsInside s r) (hr : r <+: q) : e.IsInside s q := by
  have hfolder : ∀ folder : Place, folder <+: r ∧ r ≠ folder → folder <+: q ∧ q ≠ folder := by
    rintro folder ⟨hbelow, hne⟩
    refine ⟨hbelow.trans hr, ?_⟩
    rintro rfl
    exact hne (hr.eq_of_length_le hbelow.length_le)
  exact h.imp (hfolder _) (hfolder _)

namespace Later

lemma trans (h : e.Later s s₁) (h' : e.Later s₁ s') : e.Later s s' where
  toSameSetting := h.toSameSetting.trans h'.toSameSetting
  outside q hq :=
    (h'.outside q fun hq' => hq ((isInside_iff h.toSameSetting q).mp hq')).trans (h.outside q hq)
  directory q hq := h'.directory q (h.directory q hq)
  file q hq := h'.file q (h.file q hq)

lemma of_agrees (h : s.Agrees s') : e.Later s s' where
  toSameSetting := h.toSameSetting
  outside q _ := h.view q
  directory q hq := (h.view q).trans hq
  file q hq := by rwa [h.view]

lemma refl (e : Exporter) (s : Session) : e.Later s s := of_agrees (.refl s)

/-- Where the disk grows, nothing but the folders need be looked at. -/
lemma of_grows (hset : SameSetting s s') (h : s.volume.disk.Grows s'.volume.disk)
    (houtside : ∀ q, ¬e.IsInside s q → s'.view q = s.view q) : e.Later s s' where
  toSameSetting := hset
  outside := houtside
  directory q := by
    rw [Session.view_eq_directory, Session.view_eq_directory]
    exact (h.keeps q).1
  file q := by
    rw [Session.isFileEntry_view, Session.isFileEntry_view]
    exact (h.keeps q).2

/-- A page that writes nothing cannot tell a later session apart. -/
lemma near (h : e.Later s s') : e.Near s [] s' where
  toSameSetting := h.toSameSetting
  outside := h.outside
  keeps := h.directory
  noFile _ hq := by obtain ⟨w, hw, -⟩ := hq; cases hw
  noDirectory w hw := by cases hw

/-- Where a file stands, no directory does later. -/
lemma notDirectory (h : e.Later s s') {q : Place} (hq : Disk.isFileEntry (s.view q) = true) :
    s'.view q ≠ some .directory := by
  intro hdir
  have hfile := h.file q hq
  rw [hdir] at hfile
  cases hfile

/-- What was put once can be put again, which makes a session no earlier. -/
lemma again (hs : ActsTo s s₁ change) (h : e.Later s₁ u) (hu : ActsTo u u' change) :
    e.Later u u' := by
  -- a place where something is put has the same kind of entry in all three sessions
  have hput : ∀ q x, change q = some x → s₁.view q = some x ∧ u'.view q = some x := by
    intro q x hq
    rw [hs.view, hu.view, hq]
    exact ⟨rfl, rfl⟩
  have hkept : ∀ q, change q = none → u'.view q = u.view q := by
    intro q hq
    rw [hu.view, hq, Option.none_or]
  refine ⟨hu.toSameSetting, fun q hq => ?_, fun q hq => ?_, fun q hq => ?_⟩
  · cases hchange : change q with
    | none => exact hkept q hchange
    | some x =>
        obtain ⟨hs₁, hu'⟩ := hput q x hchange
        rw [h.outside q fun hin => hq ((isInside_iff h.toSameSetting q).mpr hin), hs₁, hu']
  · cases hchange : change q with
    | none => exact (hkept q hchange).trans hq
    | some x =>
        obtain ⟨hs₁, hu'⟩ := hput q x hchange
        cases x with
        | directory => exact hu'
        | file content => exact absurd hq (h.notDirectory (by rw [hs₁]; rfl))
  · cases hchange : change q with
    | none => rwa [hkept q hchange]
    | some x =>
        obtain ⟨hs₁, hu'⟩ := hput q x hchange
        cases x with
        | directory =>
            rw [h.directory q hs₁] at hq
            cases hq
        | file content => rw [hu']; rfl

end Later

/-! ### Operations that do the same again -/

/-- An operation that gives the same result again on any session that comes later, and makes the
same change. -/
structure Repeats (e : Exporter) (f : Session → α × Session) (s : Session) : Prop where
  later : e.Later s (f s).2
  again : ∃ change, ActsTo s (f s).2 change ∧ ∀ u, e.Later (f s).2 u → Acts f u (f s).1 change

namespace Repeats

/-- An operation that makes one change, now and on any later session. -/
lemma of_acts {result : α} (hgives : f s = (result, s₁)) (hs : ActsTo s s₁ change)
    (hlater : e.Later s s₁) (hagain : ∀ u, e.Later s₁ u → Acts f u result change) :
    e.Repeats f s := by
  have hresult : (f s).1 = result := congrArg Prod.fst hgives
  have hafter : (f s).2 = s₁ := congrArg Prod.snd hgives
  exact ⟨hafter ▸ hlater, change, hafter ▸ hs, hafter ▸ hresult ▸ hagain⟩

/-- No operation. -/
lemma pure (e : Exporter) (result : α) (s : Session) : e.Repeats (fun s => (result, s)) s where
  later := .refl e s
  again := ⟨_, (Agrees.refl s).actsTo, fun u _ => ⟨u, rfl, (Agrees.refl u).actsTo⟩⟩

/-- One operation after another. -/
lemma bind {g : α → Session → β × Session} (hf : e.Repeats f s)
    (hg : e.Repeats (g (f s).1) (f s).2) : e.Repeats (fun s => g (f s).1 (f s).2) s := by
  obtain ⟨change, hs, hagain⟩ := hf.again
  obtain ⟨change', hs', hagain'⟩ := hg.again
  refine ⟨hf.later.trans hg.later, _, hs.trans hs', fun u hu => ?_⟩
  have hmid := hg.later.trans hu
  obtain ⟨u₁, hresult, hacts⟩ := hagain u hmid
  obtain ⟨u₂, hresult', hacts'⟩ := hagain' u₁ (hu.trans (.again hs hmid hacts))
  exact ⟨u₂, by simp only [hresult, hresult'], hacts.trans hacts'⟩

/-- What is made of the result does not matter. -/
lemma map (hf : e.Repeats f s) (answer : α → β) :
    e.Repeats (fun s => (answer (f s).1, (f s).2)) s :=
  hf.bind (g := fun result s => (answer result, s)) (.pure e _ _)

/-- Neither does it matter what is logged. -/
lemma congr {g : Session → α × Session} (hf : e.Repeats f s)
    (h : ∀ u, e.Later s u → (g u).1 = (f u).1 ∧ (f u).2.Agrees (g u).2) : e.Repeats g s := by
  obtain ⟨hresult, hagrees⟩ := h s (.refl e s)
  obtain ⟨change, hs, hagain⟩ := hf.again
  refine ⟨hf.later.trans (.of_agrees hagrees), change, hs.agrees hagrees, fun u hu => ?_⟩
  have hu₁ := (Later.of_agrees hagrees).trans hu
  obtain ⟨u', hgives, hacts⟩ := hagain u hu₁
  obtain ⟨hresult', hagrees'⟩ := h u (hf.later.trans hu₁)
  rw [hgives] at hresult' hagrees'
  exact ⟨(g u).2, Prod.ext (hresult'.trans hresult.symm) rfl, hacts.agrees hagrees'⟩

/-- Right after itself an operation gives the same and leaves all as it is. -/
lemma settled (hf : e.Repeats f s) (hu : (f s).2.Agrees u) :
    (f u).1 = (f s).1 ∧ (f s).2.Agrees (f u).2 := by
  obtain ⟨change, hs, hagain⟩ := hf.again
  obtain ⟨u', hgives, hacts⟩ := hagain u (.of_agrees hu)
  rw [hgives]
  refine ⟨rfl, hu.toSameSetting.trans hacts.toSameSetting, fun q => ?_⟩
  rw [hacts.view, hu.view, hs.view]
  cases change q <;> rfl

end Repeats

/-! ### Files -/

/-- Puts a file; of an error it is told only whether it is about a null character. -/
def putFile (p : Path) (content : Bytes) (s : Session) : Except Bool Unit × Session :=
  match s.volume.write p content with
  | .error cause => (.error (decide (cause = .nullCharacter)), s)
  | .ok v => (.ok (), FileStore.onVolume s v)

/-- A file is put where no directory stands and no log is written. -/
lemma putFile_acts {p : Path} {place : Place} (content : Bytes)
    (hlocate : s.volume.locate p = .ok place) (hdirectory : s.view place ≠ some .directory)
    (hlog : place ∉ s.logFiles) :
    Acts (putFile p content) s (.ok ()) (Change.file place content) := by
  rw [Ne, Session.view_eq_directory] at hdirectory
  have hwrite : s.volume.write p content = .ok _ :=
    Volume.write_eq_ok.mpr ⟨place, hlocate, hdirectory, rfl⟩
  exact ⟨_, by rw [putFile, hwrite], Session.actsTo_put hdirectory hlog⟩

/-- A file inside the folders makes a session no earlier where no directory stood. -/
lemma Later.put {place : Place} {content : Bytes} (hinside : e.IsInside s place)
    (hdirectory : s.view place ≠ some .directory)
    (h : ActsTo s s' (Change.file place content)) : e.Later s s' := by
  refine ⟨h.toSameSetting, fun q hq => ?_, fun q hq => ?_, fun q hq => ?_⟩
  all_goals rw [h.view, Change.file]
  · rw [if_neg (by rintro rfl; exact hq hinside), Option.none_or]
  · rw [if_neg (by rintro rfl; exact hdirectory hq), Option.none_or, hq]
  · split_ifs
    · rfl
    · exact hq

/-- A file is put again under a name in a directory that is there. -/
lemma putFile_repeats {directory : Path} {name : Text} (content : Bytes) (hname : IsName name)
    (hdirectory : s.volume.isDirectory directory = .ok true)
    (hinside : e.IsInside s (s.volume.placeOf directory ++ [name]))
    (hlog : s.volume.placeOf directory ++ [name] ∉ s.logFiles) :
    e.Repeats (putFile (directory.child name) content) s := by
  have hlocate : ∀ u, e.Later s u → u.volume.locate (directory.child name)
      = s.volume.locate (directory.child name) := fun u hu =>
    Volume.locate_child_congr hu.working hname hdirectory (hu.near.isDirectory hdirectory)
  have hrefused : ∀ cause, (∀ u, e.Later s u →
      u.volume.write (directory.child name) content = .error cause) →
        e.Repeats (putFile (directory.child name) content) s := by
    intro cause h
    refine (Repeats.pure e (.error (decide (cause = .nullCharacter))) s).congr fun u hu => ?_
    rw [putFile, h u hu]
    exact ⟨rfl, .refl u⟩
  cases hloc : s.volume.locate (directory.child name) with
  | error cause =>
      exact hrefused cause fun u hu => by rw [Volume.write, hlocate u hu, hloc]
  | ok place =>
      obtain rfl := Volume.locate_child_ok hname hloc
      by_cases hdir : s.view (s.volume.placeOf directory ++ [name]) = some .directory
      · refine hrefused (.refused .isDirectory (directory.child name)) fun u hu => ?_
        rw [Volume.write, hlocate u hu, hloc]
        dsimp only
        rw [Session.view_eq_directory.mp (hu.directory _ hdir)]
      · obtain ⟨s₁, hgives, hacts⟩ := putFile_acts content hloc hdir hlog
        have hlater := Later.put hinside hdir hacts
        have hthere : s₁.view (s.volume.placeOf directory ++ [name]) = some (.file content) := by
          rw [hacts.view, Change.file, if_pos rfl]
          rfl
        refine .of_acts hgives hacts hlater fun u hu => ?_
        have hu₀ := hlater.trans hu
        exact putFile_acts content ((hlocate u hu₀).trans hloc)
          (hu.notDirectory (by rw [hthere]; rfl)) (hu₀.logFiles.symm ▸ hlog)

/-! ### Copies -/

/-- Whether a file was put, or the error about a null character. -/
def answer : Except Bool Unit → Except StoreError Bool
  | .ok () => .ok true
  | .error null => refusal null

/-- A copy of a file from outside the folders is made again. -/
lemma copyAsset_repeats {a : Asset} (hb : e.Later b s) (ha : e.IsSeparateAsset b a)
    (hfolder : b.volume.isDirectory e.imageFolder = .ok true) :
    e.Repeats (fun s => e.store.copyAsset s a.resolved e.imageFolder (some a.fileName)) s := by
  have hplace : s.volume.placeOf e.imageFolder ++ [a.fileName]
      = b.volume.placeOf e.imageFolder ++ [a.fileName] := by
    rw [Volume.placeOf_eq hb.working]
  have hinside := e.isInside_image b a.fileName
  have hthere : ∀ u, e.Later s u → FileStore.ensureDirectory u e.imageFolder = (.ok (), u) :=
    fun u hu => (hb.trans hu).near.ensureDirectory hfolder
  rcases Near.copy_eq ha.name hfolder hinside ha.original ha.noLog with
    ⟨cause, hfails⟩ | ⟨content, -, hputs⟩
  · refine (Repeats.pure e (refusal (decide (cause = .nullCharacter))) s).congr fun u hu => ?_
    obtain ⟨u', hgives, hagrees⟩ :=
      copyAsset_failed (hthere u hu) ha.name.1 (hfails u (hb.trans hu).near)
    rw [hgives]
    exact ⟨rfl, hagrees⟩
  · have hput := putFile_repeats (e := e) (s := s) content ha.name
      (hb.near.isDirectory hfolder)
      (by rw [hplace, isInside_iff hb.toSameSetting]; exact hinside)
      (by rw [hplace, hb.logFiles, ← Volume.placeOf_child _ ha.name]; exact ha.copyNoLog)
    refine (hput.map answer).congr fun u hu => ?_
    have hcopy := hputs u (hb.trans hu).near
    dsimp only [putFile]
    cases hwrite : u.volume.write (e.imageFolder.child a.fileName) content with
    | ok v =>
        obtain ⟨u', hgives, hagrees⟩ :=
          copyAsset_made (hthere u hu) ha.name.1 (hcopy.trans hwrite)
        rw [hgives]
        exact ⟨rfl, hagrees⟩
    | error cause =>
        obtain ⟨u', hgives, hagrees⟩ :=
          copyAsset_failed (hthere u hu) ha.name.1 (hcopy.trans hwrite)
        rw [hgives]
        exact ⟨rfl, hagrees⟩

/-- The copies of assets are made again. -/
lemma copyAssets_repeats {assets : List Asset} (hb : e.Later b s)
    (hassets : ∀ a ∈ assets, e.IsSeparateAsset b a)
    (hfolder : b.volume.isDirectory e.imageFolder = .ok true) :
    e.Repeats (fun s => e.copyAssets s assets) s := by
  induction assets generalizing s with
  | nil => exact .pure e _ s
  | cons a rest ih =>
      have hfirst := copyAsset_repeats hb (hassets a List.mem_cons_self) hfolder
      have hrest := ih (hb.trans hfirst.later) fun a' ha' =>
        hassets a' (List.mem_cons_of_mem _ ha')
      refine (hfirst.bind (g := fun copied s => match copied with
        | .error cause => (.error cause, s)
        | .ok copied => ((e.copyAssets s rest).1.map (countCopy a copied),
            (e.copyAssets s rest).2)) ?_).congr fun u _ => ?_
      · split
        · exact .pure e _ _
        · exact hrest.map fun results => results.map (countCopy a _)
      · rw [copyAssets]
        generalize e.store.copyAsset u a.resolved e.imageFolder (some a.fileName) = copied
        obtain ⟨result, u₁⟩ := copied
        cases result with
        | error cause => exact ⟨rfl, .refl u₁⟩
        | ok copied =>
            dsimp only
            generalize e.copyAssets u₁ rest = more
            obtain ⟨results, u₂⟩ := more
            cases results with
            | error cause => exact ⟨rfl, .refl u₂⟩
            | ok counts => cases copied <;> exact ⟨rfl, .refl u₂⟩

/-! ### Notes -/

/-- The directory of a note is made again as far as it can be. -/
lemma noteDirectory_repeats (hb : e.Later b s) (hworking : ∀ name ∈ b.volume.working, IsName name)
    (hsource : ∀ name ∈ source.parts, IsPlain name)
    (hfolder : b.volume.isDirectory e.outputFolder = .ok true) :
    e.Repeats (fun s => nullOnly
      (FileStore.ensureDirectory s (e.noteDirectory b.workingPath source))) s := by
  by_cases hfits : (e.noteDirectory b.workingPath source).Fits
  · have hacts := fun u (hu : e.Later s u) => ensureDirectory_along
      ((hb.trans hu).near.makesAlong hworking hsource hfolder hfits)
    obtain ⟨s₁, hgives, hs₁⟩ := hacts s (.refl e s)
    have hgrows : s.volume.disk.Grows s₁.volume.disk := by
      have hmade := FileStore.ensureDirectory_grows s (e.noteDirectory b.workingPath source)
      rwa [show (FileStore.ensureDirectory s (e.noteDirectory b.workingPath source)).2 = s₁ from
        congrArg Prod.snd hgives] at hmade
    obtain ⟨place, hloc, hdir⟩ := Volume.isDirectory_eq_true.mp hfolder
    obtain rfl := Volume.locate_eq_placeOf hloc
    have hthere := hb.directory _ (Session.view_eq_directory.mpr hdir)
    have hlater : e.Later s s₁ := .of_grows hs₁.toSameSetting hgrows fun q hq => by
      rw [hs₁.view, Disk.along]
      split_ifs with hway
      · by_cases heq : q = b.volume.placeOf e.outputFolder
        · rw [heq, hthere]
          rfl
        · rw [isInside_iff hb.toSameSetting] at hq
          exact absurd (Or.inl ⟨hway.1, heq⟩) hq
      · rfl
    refine .of_acts hgives hs₁ hlater fun u hu => ?_
    have hu₀ := hlater.trans hu
    -- what was made stands along the names that were open, and what closed them is still there
    have hopen : Disk.openNames u.volume.disk.find? (b.volume.placeOf e.outputFolder)
        (e.relativeDirectory b.workingPath source).parts
          = Disk.openNames s.volume.disk.find? (b.volume.placeOf e.outputFolder)
            (e.relativeDirectory b.workingPath source).parts := by
      refine Disk.openNames_later (fun q hq => ?_) fun q hq hq' => ?_
      · rw [← Session.isFileEntry_view] at hq ⊢
        exact hu₀.file q hq
      · rw [← Session.isFileEntry_view, hu.directory q]
        · rfl
        · rw [hs₁.view, Disk.along, if_pos ⟨hq, hq'⟩]
          rfl
    have hagain := hacts u hu₀
    rwa [hopen] at hagain
  · refine (Repeats.pure e (.error (e.noteDirectory b.workingPath source).hasNull) s).congr
      fun u _ => ?_
    rw [ensureDirectory_unfit hfits u]
    exact ⟨rfl, .refl u⟩

/-- A directory that was made is there. -/
lemma isDirectory_of_nullOnly {p : Path}
    (h : (nullOnly (FileStore.ensureDirectory s p)).1 = .ok ()) :
    (FileStore.ensureDirectory s p).2.volume.isDirectory p = .ok true := by
  refine Volume.makeDirectory_ok ?_
  rw [nullOnly, FileStore.ensureDirectory] at h
  dsimp only at h
  cases hresult : (s.volume.makeDirectory p).1 with
  | ok => rfl
  | error cause =>
      rw [hresult] at h
      cases h

/-- Goes on after an operation unless the disk refused it. -/
def unlessRefused (f : Session → Except Bool Unit × Session)
    (next : Session → Except StoreError Bool × Session) (s : Session) :
    Except StoreError Bool × Session :=
  match f s with
  | (.ok (), s) => next s
  | (.error null, s) => (refusal null, s)

lemma Repeats.unlessRefused {f : Session → Except Bool Unit × Session}
    {next : Session → Except StoreError Bool × Session} (hf : e.Repeats f s)
    (hnext : (f s).1 = .ok () → e.Repeats next (f s).2) :
    e.Repeats (Exporter.unlessRefused f next) s := by
  refine (hf.bind (g := fun result s => match result with
    | .ok () => next s
    | .error null => (refusal null, s)) ?_).congr fun u _ => ?_
  · cases hresult : (f s).1 with
    | ok => exact hnext hresult
    | error null => exact .pure e (refusal null) _
  · rw [Exporter.unlessRefused]
    generalize f u = made
    obtain ⟨result, u₁⟩ := made
    cases result <;> exact ⟨rfl, .refl _⟩

/-- Puts a text into a file that is there. -/
def fillFile (encoding : Encoding) (p : Path) (content : Text) (s : Session) :
    Except StoreError Bool × Session :=
  match encoding.encode content with
  | .error cause => (.error (.unencodable cause), s)
  | .ok bytes => (answer (putFile p bytes s).1, (putFile p bytes s).2)

/-- Writes a note as the store does, without a log. -/
def writeSteps (store : FileStore) (p : Path) (content : Text) :
    Session → Except StoreError Bool × Session :=
  unlessRefused (fun s => nullOnly (FileStore.ensureDirectory s p.parent))
    (unlessRefused (putFile p []) (fillFile store.encoding p content))

lemma writeOutput_steps (store : FileStore) (p : Path) (content : Text) (s : Session) :
    (store.writeOutput s p content).1 = (writeSteps store p content s).1 ∧
      (writeSteps store p content s).2.Agrees (store.writeOutput s p content).2 := by
  rw [FileStore.writeOutput, FileStore.save, writeSteps, unlessRefused]
  generalize FileStore.ensureDirectory s p.parent = made
  obtain ⟨result, s₁⟩ := made
  cases result with
  | error cause =>
      cases cause with
      | nullCharacter => exact ⟨rfl, .refl s₁⟩
      | refused | sameFile => exact ⟨rfl, Session.log_agrees _ _ _ _⟩
  | ok =>
      dsimp only [nullOnly, Except.mapError, unlessRefused, putFile]
      cases s₁.volume.write p [] with
      | error cause =>
          cases cause with
          | nullCharacter => exact ⟨rfl, .refl s₁⟩
          | refused | sameFile => exact ⟨rfl, Session.log_agrees _ _ _ _⟩
      | ok emptied =>
          dsimp only [unlessRefused, fillFile, putFile]
          cases store.encoding.encode content with
          | error cause => exact ⟨rfl, .refl _⟩
          | ok bytes =>
              dsimp only [FileStore.onVolume_volume]
              cases emptied.write p bytes with
              | ok written => exact ⟨rfl, .refl _⟩
              | error cause =>
                  cases cause with
                  | nullCharacter => exact ⟨rfl, .refl _⟩
                  | refused | sameFile => exact ⟨rfl, Session.log_agrees _ _ _ _⟩

/-- A note is written again. -/
lemma writeNote_repeats (hb : e.Later b s) (hworking : ∀ name ∈ b.volume.working, IsName name)
    (hsource : ∀ name ∈ source.parts, IsPlain name)
    (hfolder : b.volume.isDirectory e.outputFolder = .ok true)
    (hlog : (e.noteOf b source).place ∉ b.logFiles) (content : Text) :
    e.Repeats (fun s => e.store.writeOutput s (e.outputPath b.workingPath source) content) s := by
  have hname := noteName_isName source
  have hplace : (e.noteOf b source).place
      = b.volume.placeOf (e.noteDirectory b.workingPath source) ++ [noteName source] := by
    rw [noteOf, outputPath_child, Volume.placeOf_child _ hname]
  have hinside : e.IsInside b (e.noteOf b source).place := by
    rw [noteOf_place hworking hsource]
    exact Or.inl ⟨List.prefix_append _ _, by simp⟩
  -- once its directory is there, the file of a note is put again
  have hput : ∀ u bytes, e.Later b u →
      u.volume.isDirectory (e.noteDirectory b.workingPath source) = .ok true →
        e.Repeats (putFile (e.outputPath b.workingPath source) bytes) u := by
    intro u bytes hu hthere
    rw [outputPath_child]
    refine putFile_repeats bytes hname hthere ?_ ?_
    · rwa [Volume.placeOf_eq hu.working, ← hplace, isInside_iff hu.toSameSetting]
    · rwa [Volume.placeOf_eq hu.working, ← hplace, hu.logFiles]
  refine Repeats.congr (f := writeSteps e.store (e.outputPath b.workingPath source) content) ?_
    fun u _ => writeOutput_steps _ _ _ u
  have hparent : (e.outputPath b.workingPath source).parent
      = e.noteDirectory b.workingPath source := by
    rw [outputPath_child, Path.parent_child _ hname.1]
  have hmade := noteDirectory_repeats hb hworking hsource hfolder
  rw [writeSteps, hparent]
  refine hmade.unlessRefused fun hok => ?_
  have hthere := isDirectory_of_nullOnly hok
  have hb₁ := hb.trans hmade.later
  have hopened := hput _ [] hb₁ hthere
  refine hopened.unlessRefused fun _ => ?_
  have hfilled := fun bytes =>
    hput _ bytes (hb₁.trans hopened.later) (hopened.later.near.isDirectory hthere)
  cases hencode : e.store.encoding.encode content with
  | error cause =>
      refine (Repeats.pure e (.error (.unencodable cause)) _).congr fun u _ => ?_
      rw [fillFile, hencode]
      exact ⟨rfl, .refl u⟩
  | ok bytes =>
      refine ((hfilled bytes).map answer).congr fun u _ => ?_
      rw [fillFile, hencode]
      exact ⟨rfl, .refl _⟩

/-! ### Pages -/

/-- The outcome of a page whose assets have been copied and whose note was written or not. -/
def outcomeOf (c : Conversion) (output : Path) (copied : Nat) (failures : List Warning) :
    Except StoreError Bool → Except StoreError Outcome
  | .error cause => .error cause
  | .ok false => .ok { source := c.source, status := .writeFailed, assetsCopied := copied
                       warnings := c.warnings ++ failures
                       error := some s!"Error writing file {output}".toList }
  | .ok true => .ok { source := c.source, status := .success, output := some output
                      assetsCopied := copied, warnings := c.warnings ++ failures }

/-- A page is delivered again. -/
lemma deliver_repeats {c : Conversion} (hb : e.Later b s)
    (hworking : ∀ name ∈ b.volume.working, IsName name) (hprepared : e.IsPrepared b)
    (hsource : ∀ name ∈ c.source.parts, IsPlain name)
    (hassets : ∀ a ∈ c.assets, e.IsSeparateAsset b a)
    (hlog : (e.noteOf b c.source).place ∉ b.logFiles) : e.Repeats (fun s => e.deliver s c) s := by
  have hcopies := copyAssets_repeats hb hassets hprepared.image
  have hnote := writeNote_repeats (hb.trans hcopies.later) hworking hsource hprepared.output hlog
    c.note.text
  refine (hcopies.bind (g := fun counts s => match counts with
    | .error cause => (.error cause, s)
    | .ok (copied, failures) =>
      (outcomeOf c (e.outputPath b.workingPath c.source) copied failures
        (e.store.writeOutput s (e.outputPath b.workingPath c.source) c.note.text).1,
        (e.store.writeOutput s (e.outputPath b.workingPath c.source) c.note.text).2)) ?_).congr
    fun u hu => ?_
  · split
    · exact .pure e _ _
    · exact hnote.map _
  · have hcopied := (e.copyAssets_changes u c.assets).toSameSetting
    rw [deliver]
    generalize e.copyAssets u c.assets = copies at hcopied
    obtain ⟨counts, u₁⟩ := copies
    cases counts with
    | error cause => exact ⟨rfl, .refl u₁⟩
    | ok counts =>
        dsimp only
        rw [workingPath_eq ((hb.trans hu).toSameSetting.trans hcopied)]
        generalize e.store.writeOutput u₁ (e.outputPath b.workingPath c.source) c.note.text
          = written
        obtain ⟨result, u₂⟩ := written
        cases result with
        | error cause => exact ⟨rfl, .refl u₂⟩
        | ok done =>
            cases done with
            | false => exact ⟨rfl, .refl u₂⟩
            | true => exact ⟨rfl, Session.log_agrees _ _ _ _⟩

/-- A page is exported again, whatever other pages have written by then. -/
theorem exportFile_repeats (hb : e.Later b s) (hworking : ∀ name ∈ b.volume.working, IsName name)
    (hprepared : e.IsPrepared b) (hpage : e.IsSeparate b source) :
    e.Repeats (fun s => e.exportFile s source) s := by
  have hload' := fun u (hu : e.Later s u) => (hb.trans hu).near.load hpage
  cases hload : e.store.load b.volume source.toText with
  | error cause =>
      refine (Repeats.pure e (unloaded source cause) s).congr fun u hu => ?_
      obtain ⟨u', hresult, hagrees⟩ := exportFile_unloaded ((hload' u hu).trans hload)
      rw [hresult]
      exact ⟨rfl, hagrees⟩
  | ok html =>
      have hrun' := fun u (hu : e.Later s u) =>
        (hb.trans hu).near.run hpage hload e.converterChannel
      cases hrun : (e.converter b).run e.converterChannel source html with
      | mk converted entries =>
          cases converted with
          | error cause =>
              refine (Repeats.pure e (.ok { source, status := .conversionFailed
                                            error := some cause.message.toList }) s).congr
                fun u hu => ?_
              obtain ⟨u', hresult, hagrees⟩ := exportFile_unconverted ((hload' u hu).trans hload)
                ((hrun' u hu).trans hrun)
              rw [hresult]
              exact ⟨rfl, hagrees⟩
          | ok c =>
              have hconv : e.conversion b source = some c := by
                rw [conversion, hload]
                dsimp only
                rw [hrun]
              obtain ⟨-, -, -, hc, -⟩ := conversion_eq_some hconv
              have hlog := hpage.writes (e.noteOf b c.source) (by simp [writes, hconv])
              have hlogged : e.Repeats (fun s => ((), s.writeAll entries)) s :=
                (Repeats.pure e () s).congr fun u _ => ⟨rfl, u.writeAll_agrees entries⟩
              refine (hlogged.bind (g := fun _ s => e.deliver s c) (deliver_repeats
                (hb.trans hlogged.later) hworking hprepared (hc ▸ hpage.plain)
                (hpage.assets hworking hconv) hlog)).congr fun u hu => ?_
              rw [exportFile_converted ((hload' u hu).trans hload) ((hrun' u hu).trans hrun)]
              exact ⟨rfl, .refl _⟩

end Exporter

end PageNotes
