import PageNotes.Export.Exporter
import PageNotes.Proofs.Session.View

/-!
What the steps of an export change. Copying an asset and writing a note put one file each, with all
directories that it lies in; where they fail, no file is put.

* `FileStore.copyAsset_changes`, `FileStore.copyAsset_copied`: a copy, and what a copy that is made
  holds;
* `FileStore.writeOutput_changes`, `FileStore.writeOutput_written`: the same for notes;
* `Exporter.copyAssets_changes`, `Exporter.deliver_changes`: the steps in a row.
-/

namespace PageNotes

open Session (Changes Agrees SameSetting)

variable {s s' : Session} {targets : List Place}

namespace FileStore

variable {store : FileStore} {p source directory : Path} {name : Option Text} {content : Text}

@[simp] lemma onVolume_volume (s : Session) (v : Volume) : (onVolume s v).volume = v := rfl

lemma ensureDirectory_changes (s : Session) (p : Path) (targets : List Place) :
    Changes targets s (ensureDirectory s p).2 := by
  obtain ⟨hw, hadds⟩ := Volume.makeDirectory_adds s.volume p
  exact Session.onVolume_changes hw hadds

/-! ### Notes -/

/-- A file is written where its path leads, or nothing is. -/
lemma write_changes {bytes : Bytes} {v : Volume} (h : s.volume.write p bytes = .ok v) :
    Changes [s.volume.placeOf p] s (onVolume s v) := by
  obtain ⟨place, hloc, hdir, rfl⟩ := Volume.write_eq_ok.mp h
  rw [← Volume.locate_eq_placeOf hloc]
  exact Session.onVolume_put hdir

/-- What is written is read. -/
lemma read_write {v v' : Volume} {bytes : Bytes} (h : v.write p bytes = .ok v') :
    v'.read p = .ok bytes := by
  obtain ⟨place, hloc, hdir, rfl⟩ := Volume.write_eq_ok.mp h
  refine Volume.read_eq_ok.mpr ⟨place, ?_, ?_⟩
  · exact Volume.locate_mono (Volume.withDisk_working v _) (Disk.keepsDirectories_put hdir) hloc
  · rw [Volume.withDisk_disk, Disk.find?_put _ (Disk.ne_root_of_find? hdir), if_pos rfl]

/-- Where a file was written, one can be written again. -/
lemma write_again {v v' : Volume} {bytes : Bytes} (h : v.write p bytes = .ok v') (more : Bytes) :
    ∃ v'', v'.write p more = .ok v'' := by
  obtain ⟨place, hloc, hfile⟩ := Volume.read_eq_ok.mp (read_write h)
  exact ⟨_, Volume.write_eq_ok.mpr ⟨place, hloc, by simp [hfile], rfl⟩⟩

/-- How saving a file can go. -/
inductive Saves (store : FileStore) (s : Session) (p : Path) (content : Text) :
    Except StoreError Unit × Session → Prop
  /-- The directory cannot be made, or the file cannot be opened. -/
  | refused {e : DiskError} {s' : Session} (h : ∀ targets, Changes targets s s') :
      Saves store s p content (.error (refuse (.unwritable p) e), s')
  /-- The file is emptied, but there is nothing to write. -/
  | emptied {e : EncodeError} {s' : Session} (h : Changes [s.volume.placeOf p] s s')
      (hread : s'.volume.read p = .ok []) (he : store.encoding.encode content = .error e) :
      Saves store s p content (.error (.unencodable e), s')
  | saved {bytes : Bytes} {s' : Session} (h : Changes [s.volume.placeOf p] s s')
      (hread : s'.volume.read p = .ok bytes) (he : store.encoding.encode content = .ok bytes) :
      Saves store s p content (.ok (), s')

/-- Saving goes in one of these ways. -/
lemma saves (store : FileStore) (s : Session) (p : Path) (content : Text) :
    Saves store s p content (store.save s p content) := by
  have hmade := ensureDirectory_changes s p.parent
  rw [save]
  generalize ensureDirectory s p.parent = made at hmade
  obtain ⟨result, s₁⟩ := made
  have hplace : s₁.volume.placeOf p = s.volume.placeOf p :=
    Volume.placeOf_eq (hmade []).working p
  cases result with
  | error e => exact .refused hmade
  | ok =>
      dsimp only
      cases hopen : s₁.volume.write p [] with
      | error e => exact .refused hmade
      | ok v =>
          have hemptied := (hmade []).trans (write_changes hopen)
          rw [hplace] at hemptied
          dsimp only
          cases hencode : store.encoding.encode content with
          | error e => exact .emptied hemptied (read_write hopen) hencode
          | ok bytes =>
              obtain ⟨v', hv'⟩ := write_again hopen bytes
              have hwritten := hemptied.trans (write_changes (s := onVolume s₁ v) hv')
              have hsame : (onVolume s₁ v).volume.placeOf p = s.volume.placeOf p :=
                Volume.placeOf_eq hemptied.working p
              rw [hsame] at hwritten
              dsimp only
              rw [hv']
              exact .saved (hwritten.mono (by simp)) (read_write hv') hencode

/-- Writing a note puts no file but the note. -/
lemma writeOutput_changes (store : FileStore) (s : Session) (p : Path) (content : Text) :
    Changes [s.volume.placeOf p] s (store.writeOutput s p content).2 := by
  have hway := saves store s p content
  rw [writeOutput]
  generalize store.save s p content = result at hway
  cases hway with
  | @refused e _ h =>
      cases e with
      | nullCharacter => exact h _
      | refused | sameFile =>
          exact ((h []).trans ((Session.log_agrees _ _ _ _).changes [])).mono (by simp)
  | emptied h => exact h
  | saved h => exact h

/-- A note that is written is there. -/
lemma writeOutput_written (h : store.writeOutput s p content = (.ok true, s')) :
    ∃ bytes, store.encoding.encode content = .ok bytes ∧ s'.volume.read p = .ok bytes := by
  have hway := saves store s p content
  rw [writeOutput] at h
  generalize store.save s p content = result at hway h
  cases hway with
  | @refused e _ _ => cases e <;> simp [refuse] at h
  | emptied => simp at h
  | saved _ hread he =>
      simp only [Prod.mk.injEq, true_and] at h
      exact ⟨_, he, h ▸ hread⟩

/-- A note that is not written changes no file. -/
lemma writeOutput_refused (targets : List Place)
    (h : store.writeOutput s p content = (.ok false, s')) :
    Changes targets s s' := by
  have hway := saves store s p content
  rw [writeOutput] at h
  generalize store.save s p content = result at hway h
  cases hway with
  | @refused e _ hs =>
      cases e with
      | nullCharacter => simp [refuse] at h
      | refused | sameFile =>
          simp only [refuse, Prod.mk.injEq, true_and] at h
          rw [← h]
          exact ((hs []).trans ((Session.log_agrees _ _ _ _).changes [])).mono (by simp)
  | emptied => simp at h
  | saved => simp at h

/-! ### Assets -/

/-- How copying a file can go. -/
inductive Copies (s : Session) (source target : Path) : Except StoreError Bool × Session → Prop
  | null {s' : Session} (h : ∀ targets, Changes targets s s') :
      Copies s source target (.error (.disk .nullCharacter), s')
  | failed {s' : Session} (h : ∀ targets, Changes targets s s') :
      Copies s source target (.ok false, s')
  /-- The directory is there, and the file is read and written. -/
  | copied {s₁ s' : Session} {bytes : Bytes} (h : ∀ targets, Changes targets s s₁)
      (hsame : s₁.volume.sameEntry source target = .ok false)
      (hread : s₁.volume.read source = .ok bytes)
      (hplace : s₁.volume.locate target = .ok (s.volume.placeOf target))
      (h' : Changes [s.volume.placeOf target] s₁ s')
      (hview : s.volume.placeOf target ∉ s.logFiles →
        s'.view (s.volume.placeOf target) = some (.file bytes)) :
      Copies s source target (.ok true, s')

/-- Copying goes in one of these ways. -/
lemma copies (store : FileStore) (s : Session) (source directory : Path) (name : Option Text) :
    Copies s source (copyTarget source directory name)
      (store.copyAsset s source directory name) := by
  have hlogged : ∀ {s₁ : Session} {channel message : String},
      (∀ targets, Changes targets s s₁) → ∀ targets,
        Changes targets s (s₁.log .error channel message) := fun h targets =>
    ((h []).trans ((Session.log_agrees _ _ _ _).changes targets)).mono (by simp)
  have hmade := ensureDirectory_changes s (copyTarget source directory name).parent
  rw [copyAsset]
  generalize ensureDirectory s (copyTarget source directory name).parent = made at hmade
  obtain ⟨result, s₁⟩ := made
  have hplace : s₁.volume.placeOf (copyTarget source directory name)
      = s.volume.placeOf (copyTarget source directory name) :=
    Volume.placeOf_eq (hmade []).working _
  cases result with
  | error e =>
      cases e with
      | nullCharacter => exact .null hmade
      | refused | sameFile => exact .failed (hlogged hmade)
  | ok =>
      dsimp only
      cases hcopy : s₁.volume.copy source (copyTarget source directory name) with
      | error e =>
          cases e with
          | nullCharacter => exact .null hmade
          | refused | sameFile => exact .failed (hlogged hmade)
      | ok v =>
          obtain ⟨hsame, bytes, hread, hwrite⟩ := Volume.copy_eq_ok.mp hcopy
          have hlog := Session.log_agrees (onVolume s₁ v) .info store.channel
            s!"Copied: {source} -> {copyTarget source directory name}"
          have hwritten := (write_changes hwrite).trans (hlog.changes [])
          rw [hplace] at hwritten
          obtain ⟨place, hloc, hfile⟩ := Volume.read_eq_ok.mp (read_write hwrite)
          obtain ⟨place', hloc', -, -⟩ := Volume.write_eq_ok.mp hwrite
          rw [Volume.locate_eq_placeOf hloc', hplace] at hloc'
          refine .copied hmade hsame hread hloc' (hwritten.mono (by simp)) fun hnot => ?_
          have hv : (onVolume s₁ v).volume.placeOf (copyTarget source directory name)
              = s.volume.placeOf (copyTarget source directory name) :=
            (Volume.placeOf_eq (write_changes hwrite).working _).trans hplace
          have hlogs : (onVolume s₁ v).logFiles = s.logFiles := (hmade []).logFiles
          rw [hlog.view, Session.view_of_notMem (by rwa [hlogs])]
          rw [Volume.locate_eq_placeOf hloc, ← onVolume_volume s₁ v, hv] at hfile
          exact hfile

/-- A copy puts no file but itself. -/
lemma copyAsset_changes (store : FileStore) (s : Session) (source directory : Path)
    (name : Option Text) :
    Changes [s.volume.placeOf (copyTarget source directory name)] s
      (store.copyAsset s source directory name).2 := by
  have hway := copies store s source directory name
  generalize store.copyAsset s source directory name = result at hway
  cases hway with
  | null h => exact h _
  | failed h => exact h _
  | copied h _ _ _ h' => exact (h []).trans h'

/-- A copy that is made holds what its source held, which lies elsewhere. -/
lemma copyAsset_copied {store : FileStore} {source directory : Path} {name : Option Text}
    (h : store.copyAsset s source directory name = (.ok true, s')) :
    s.volume.placeOf source ≠ s.volume.placeOf (copyTarget source directory name) ∧
      (s.volume.placeOf source ∉ s.logFiles →
        s.volume.placeOf (copyTarget source directory name) ∉ s.logFiles →
          ∀ bytes, s.volume.read source = .ok bytes →
            s'.volume.read (copyTarget source directory name) = .ok bytes) := by
  have hway := copies store s source directory name
  rw [h] at hway
  generalize hresult : ((.ok true, s') : Except StoreError Bool × Session) = result at hway
  cases hway with
  | null => simp at hresult
  | failed => simp at hresult
  | @copied s₁ _ bytes hmade hsame hread hplace h' hview =>
      cases hresult
      obtain ⟨place, hloc, hfile⟩ := Volume.read_eq_ok.mp hread
      obtain rfl : place = s.volume.placeOf source :=
        (Volume.locate_eq_placeOf hloc).trans (Volume.placeOf_eq (hmade []).working source)
      refine ⟨fun heq => ?_, fun hsource htarget content hcontent => ?_⟩
      · rw [Volume.sameEntry_eq hloc hplace, hfile, decide_eq_true heq] at hsame
        simp at hsame
      · have hbytes := (hmade []).read (by simp) hsource hcontent
        obtain rfl := Except.ok.inj (hread.symm.trans hbytes)
        have hthere := hview htarget
        rw [Session.view_of_notMem
          (by rwa [h'.logFiles, (hmade []).logFiles])] at hthere
        exact Volume.read_eq_ok.mpr
          ⟨_, Volume.locate_mono h'.working h'.keepsDirectories hplace, hthere⟩

end FileStore

namespace Exporter

variable {e : Exporter} {assets : List Asset} {c : Conversion}

/-! ### Many assets -/

/-- Where an asset is copied to. -/
def assetTarget (e : Exporter) (a : Asset) : Path := e.imageFolder.child a.fileName

lemma copyTarget_eq (directory : Path) (a : Asset) :
    FileStore.copyTarget a.resolved directory (some a.fileName) = directory.child a.fileName := by
  unfold FileStore.copyTarget
  split
  · rfl
  · rfl
  · rename_i hname
    rw [Option.some.inj hname]

/-- Copying assets puts no files but the copies. -/
lemma copyAssets_changes (e : Exporter) (s : Session) (assets : List Asset) :
    Changes (assets.map fun a => s.volume.placeOf (e.assetTarget a)) s
      (e.copyAssets s assets).2 := by
  induction assets generalizing s with
  | nil => exact (Agrees.refl s).changes _
  | cons a rest ih =>
      have hfirst := FileStore.copyAsset_changes e.store s a.resolved e.imageFolder
        (some a.fileName)
      rw [copyTarget_eq] at hfirst
      rw [copyAssets, List.map_cons, ← List.singleton_append]
      generalize e.store.copyAsset s a.resolved e.imageFolder (some a.fileName) = first at hfirst
      obtain ⟨result, s₁⟩ := first
      have hrest := ih s₁
      have hplaces : (fun a => s₁.volume.placeOf (e.assetTarget a))
          = fun a => s.volume.placeOf (e.assetTarget a) :=
        funext fun a => Volume.placeOf_eq hfirst.working _
      rw [hplaces] at hrest
      cases result with
      | error cause => exact hfirst.mono (List.subset_append_left _ _)
      | ok copied =>
          dsimp only
          generalize e.copyAssets s₁ rest = more at hrest
          obtain ⟨result, s₂⟩ := more
          cases result with
          | error cause => exact hfirst.trans hrest
          | ok counts =>
              dsimp only
              split <;> exact hfirst.trans hrest

/-! ### A page -/

/-- How the delivery of a page can go. -/
inductive Delivers (e : Exporter) (s : Session) (c : Conversion) :
    Except StoreError Outcome × Session → Prop
  | stopped {cause : StoreError} {s₁ : Session} (h : e.copyAssets s c.assets = (.error cause, s₁)) :
      Delivers e s c (.error cause, s₁)
  | raised {copied : Nat × List Warning} {cause : StoreError} {s₁ s₂ : Session}
      (h : e.copyAssets s c.assets = (.ok copied, s₁))
      (h' : e.store.writeOutput s₁ (e.outputPath s₁.workingPath c.source) c.note.text
        = (.error cause, s₂)) :
      Delivers e s c (.error cause, s₂)
  | unwritten {copied : Nat} {failures : List Warning} {s₁ s₂ : Session} {o : Outcome}
      (h : e.copyAssets s c.assets = (.ok (copied, failures), s₁))
      (h' : e.store.writeOutput s₁ (e.outputPath s₁.workingPath c.source) c.note.text
        = (.ok false, s₂))
      (hsource : o.source = c.source) (hstatus : o.status = .writeFailed)
      (hwarnings : o.warnings = c.warnings ++ failures) :
      Delivers e s c (.ok o, s₂)
  | written {copied : Nat} {failures : List Warning} {s₁ s₂ s₃ : Session} {o : Outcome}
      (h : e.copyAssets s c.assets = (.ok (copied, failures), s₁))
      (h' : e.store.writeOutput s₁ (e.outputPath s₁.workingPath c.source) c.note.text
        = (.ok true, s₂))
      (hlog : s₂.Agrees s₃) (hsource : o.source = c.source) (hstatus : o.status = .success)
      (houtput : o.output = some (e.outputPath s₁.workingPath c.source))
      (hwarnings : o.warnings = c.warnings ++ failures) :
      Delivers e s c (.ok o, s₃)

lemma delivers (e : Exporter) (s : Session) (c : Conversion) :
    Delivers e s c (e.deliver s c) := by
  rw [deliver]
  cases hcopies : e.copyAssets s c.assets with
  | mk result s₁ =>
      cases result with
      | error cause => exact .stopped hcopies
      | ok copied =>
          obtain ⟨copied, failures⟩ := copied
          dsimp only
          cases hwrite :
            e.store.writeOutput s₁ (e.outputPath s₁.workingPath c.source) c.note.text with
          | mk result s₂ =>
              cases result with
              | error cause => exact .raised hcopies hwrite
              | ok written =>
                  cases written with
                  | false => exact .unwritten hcopies hwrite rfl rfl rfl
                  | true =>
                      exact .written hcopies hwrite (Session.log_agrees _ _ _ _) rfl rfl rfl rfl

/-- The places that a page is delivered to: the copies of its assets and its note. -/
def deliveryPlaces (e : Exporter) (s : Session) (c : Conversion) : List Place :=
  c.assets.map (fun a => s.volume.placeOf (e.assetTarget a)) ++
    [s.volume.placeOf (e.outputPath s.workingPath c.source)]

lemma workingPath_eq (h : SameSetting s s') : s'.workingPath = s.workingPath := by
  rw [Session.workingPath, h.working, Session.workingPath]

/-- Delivering a page puts no files but the copies of its assets and its note. -/
lemma deliver_changes (e : Exporter) (s : Session) (c : Conversion) :
    Changes (e.deliveryPlaces s c) s (e.deliver s c).2 := by
  have hcopies := e.copyAssets_changes s c.assets
  have hwrites := fun s₁ (hset : SameSetting s s₁) => by
    have := FileStore.writeOutput_changes e.store s₁ (e.outputPath s₁.workingPath c.source)
      c.note.text
    rwa [Volume.placeOf_eq hset.working, workingPath_eq hset] at this
  have hway := delivers e s c
  generalize e.deliver s c = result at hway
  cases hway with
  | stopped h =>
      rw [h] at hcopies
      exact hcopies.mono (List.subset_append_left _ _)
  | raised h h' =>
      rw [h] at hcopies
      have hwrite := hwrites _ hcopies.toSameSetting
      rw [← workingPath_eq hcopies.toSameSetting, h'] at hwrite
      rw [deliveryPlaces, ← workingPath_eq hcopies.toSameSetting]
      exact hcopies.trans hwrite
  | unwritten h h' =>
      rw [h] at hcopies
      exact hcopies.trans (FileStore.writeOutput_refused _ h')
  | written h h' hlog =>
      rw [h] at hcopies
      have hwrite := hwrites _ hcopies.toSameSetting
      rw [← workingPath_eq hcopies.toSameSetting, h'] at hwrite
      rw [deliveryPlaces, ← workingPath_eq hcopies.toSameSetting]
      exact (hcopies.trans (hwrite.trans (hlog.changes []))).mono (by simp)

end Exporter

end PageNotes
