import Mathlib.Data.List.Pairwise
import PageNotes.Proofs.Disk.Directories
import PageNotes.Proofs.Export.Outputs

/-!
Sessions that a page cannot tell apart. A page reads what lies outside the folders of notes and
assets and writes inside them, so it matters little what other pages have put there before.

* `Change`, `Session.ActsTo`, `Session.Acts`: what an operation puts on the disk of a session;
* `Write`, `Exporter.writes`, `Exporter.asked`: what a page writes and which files it asks for;
* `Exporter.Near`: the sessions that differ by what may be written;
* `Exporter.Puts`: the changes that put no more than that, which lead from one near session to
  another;
* `Exporter.Near.copy`: a copy on near sessions.
-/

namespace PageNotes

open Session (SameSetting Agrees Changes)

/-! ### Changes -/

/-- What is put at some places. -/
abbrev Change := Place → Option Entry

/-- One change after another. -/
def Change.after (later earlier : Change) : Change := fun q => (later q).or (earlier q)

/-- A file at one place. -/
def Change.file (place : Place) (content : Bytes) : Change :=
  fun q => if q = place then some (.file content) else none

namespace Session

variable {α : Type} {s s₁ s' : Session}

/-- The session `s'` has the view of `s` with a change, in the same setting. -/
structure ActsTo (s s' : Session) (change : Change) : Prop extends SameSetting s s' where
  view : ∀ q, s'.view q = (change q).or (s.view q)

/-- On a session an operation has a result and makes a change. -/
def Acts (f : Session → α × Session) (s : Session) (result : α) (change : Change) : Prop :=
  ∃ s', f s = (result, s') ∧ ActsTo s s' change

lemma Agrees.actsTo (h : Agrees s s') : ActsTo s s' fun _ => none :=
  ⟨h.toSameSetting, fun q => by rw [h.view, Option.none_or]⟩

lemma ActsTo.trans {change change' : Change} (h : ActsTo s s₁ change)
    (h' : ActsTo s₁ s' change') : ActsTo s s' (change'.after change) :=
  ⟨h.toSameSetting.trans h'.toSameSetting, fun q => by
    rw [h'.view, h.view, Change.after, Option.or_assoc]⟩

lemma ActsTo.agrees {change : Change} (h : ActsTo s s₁ change) (h' : Agrees s₁ s') :
    ActsTo s s' change :=
  ⟨h.toSameSetting.trans h'.toSameSetting, fun q => by rw [h'.view, h.view]⟩

lemma Agrees.trans_actsTo {change : Change} (h : Agrees s s₁) (h' : ActsTo s₁ s' change) :
    ActsTo s s' change :=
  ⟨h.toSameSetting.trans h'.toSameSetting, fun q => by rw [h'.view, h.view]⟩

/-- A file that is put where no directory stands and no log is written. -/
lemma actsTo_put {place : Place} {content : Bytes}
    (h : s.volume.disk.find? place ≠ some .directory) (hlog : place ∉ s.logFiles) :
    ActsTo s (FileStore.onVolume s (s.volume.withDisk (s.volume.disk.put place (.file content))))
      (Change.file place content) := by
  refine ⟨⟨rfl, rfl⟩, fun q => ?_⟩
  change (s.volume.disk.put place (.file content)).view s.logFiles q = _
  rw [Disk.view_put (Disk.ne_root_of_find? h) (Or.inr hlog), Change.file]
  split_ifs
  · rfl
  · rfl

/-- A file is seen where it stands. -/
lemma isFileEntry_view (q : Place) :
    Disk.isFileEntry (s.view q) = Disk.isFileEntry (s.volume.disk.find? q) := by
  rw [Session.view, Disk.view]
  split
  · rename_i hfile
    rw [hfile]
    rfl
  · rfl

/-- Directories that are made along names. -/
lemma actsTo_along {v : Volume} {place : Place} {names : List Text}
    (hw : v.working = s.volume.working)
    (h : ∀ q, v.disk.find? q = (Disk.along place names q).or (s.volume.disk.find? q)) :
    ActsTo s (FileStore.onVolume s v) (Disk.along place names) := by
  refine ⟨⟨rfl, hw⟩, fun q => ?_⟩
  change v.disk.view s.logFiles q = _
  rw [Disk.view, h, Session.view, Disk.view]
  rw [Disk.along]
  split_ifs <;> rfl

end Session

open Session (Acts ActsTo)

/-! ### What a page reads and writes -/

/-- A file that is written, and the one that it is a copy of. -/
structure Write where
  place : Place
  origin : Option Path
  deriving DecidableEq

/-- Neither of two files lies on the way to the other, or both are copies of one file in one
place. -/
def Write.Apart (w w' : Write) : Prop :=
  (¬w.place <+: w'.place ∧ ¬w'.place <+: w.place) ∨
    (w.place = w'.place ∧ w.origin = w'.origin ∧ w.origin.isSome)

lemma Write.Apart.symm {w w' : Write} (h : w.Apart w') : w'.Apart w := by
  rcases h with ⟨h, h'⟩ | ⟨hplace, horigin, hsome⟩
  · exact Or.inl ⟨h', h⟩
  · exact Or.inr ⟨hplace.symm, horigin.symm, horigin ▸ hsome⟩

instance (w w' : Write) : Decidable (w.Apart w') :=
  inferInstanceAs (Decidable ((¬w.place <+: w'.place ∧ ¬w'.place <+: w.place) ∨
    (w.place = w'.place ∧ w.origin = w'.origin ∧ w.origin.isSome)))

instance : Std.Symm Write.Apart := ⟨fun _ _ => Write.Apart.symm⟩

/-- Whether a place lies on the way to one that is written. -/
def Write.IsAbove (ws : List Write) (q : Place) : Prop := ∃ w ∈ ws, q <+: w.place ∧ q ≠ w.place

/-- Whether none of some files lies on the way to another. -/
def Write.Free (ws : List Write) : Prop := ∀ w ∈ ws, ¬Write.IsAbove ws w.place

/-- Files that are written apart are free. -/
lemma Write.free_of_apart {ws : List Write} (h : ws.Pairwise Write.Apart) : Write.Free ws := by
  rintro w hw ⟨w', hw', hbelow, hne⟩
  by_cases heq : w = w'
  · exact hne (heq ▸ rfl)
  · rcases h.forall hw hw' heq with ⟨hnot, -⟩ | ⟨hplace, -⟩
    · exact hnot hbelow
    · exact hne hplace

namespace Exporter

variable {e : Exporter} {b s s' : Session} {source : Path} {ws written more : List Write}
  {change change' : Change}

/-- The file that the copy of an asset is. -/
def copyOf (e : Exporter) (s : Session) (a : Asset) : Write :=
  ⟨s.volume.placeOf (e.assetTarget a), some a.resolved⟩

/-- The file that the note of a page is. -/
def noteOf (e : Exporter) (s : Session) (source : Path) : Write :=
  ⟨s.volume.placeOf (e.outputPath s.workingPath source), none⟩

/-- The files that a page writes when it is exported. -/
def writes (e : Exporter) (s : Session) (source : Path) : List Write :=
  match e.conversion s source with
  | none => []
  | some c => c.assets.map (e.copyOf s) ++ [e.noteOf s c.source]

/-- The files that the references of a page are looked for at. -/
def asked (e : Exporter) (s : Session) (source : Path) : List Path :=
  match e.store.load s.volume source.toText with
  | .error _ => []
  | .ok html => ((e.converter s).rewritten source html).search.asked

/-- Whether a place lies in the folder of notes or in that of assets. -/
def IsInside (e : Exporter) (s : Session) (q : Place) : Prop :=
  (s.volume.placeOf e.outputFolder <+: q ∧ q ≠ s.volume.placeOf e.outputFolder) ∨
    (s.volume.placeOf e.imageFolder <+: q ∧ q ≠ s.volume.placeOf e.imageFolder)

instance (e : Exporter) (s : Session) (q : Place) : Decidable (e.IsInside s q) :=
  inferInstanceAs (Decidable
    ((s.volume.placeOf e.outputFolder <+: q ∧ q ≠ s.volume.placeOf e.outputFolder) ∨
      (s.volume.placeOf e.imageFolder <+: q ∧ q ≠ s.volume.placeOf e.imageFolder)))

/-- Whether a path leads to a place outside both folders, and passes through nothing in them but
directories that are there. -/
structure IsOutside (e : Exporter) (s : Session) (p : Path) : Prop where
  place : ¬e.IsInside s (s.volume.placeOf p)
  way : ∀ q ∈ s.volume.trail p, e.IsInside s q → s.view q = some .directory

instance (e : Exporter) (s : Session) (p : Path) : Decidable (e.IsOutside s p) :=
  decidable_of_iff (¬e.IsInside s (s.volume.placeOf p) ∧
      ∀ q ∈ s.volume.trail p, e.IsInside s q → s.view q = some .directory)
    ⟨fun h => ⟨h.1, h.2⟩, fun h => ⟨h.place, h.way⟩⟩

/-- Whether both folders are there. -/
structure IsPrepared (e : Exporter) (s : Session) : Prop where
  output : s.volume.isDirectory e.outputFolder = .ok true
  image : s.volume.isDirectory e.imageFolder = .ok true

/-! ### Near sessions -/

/-- A session near another, as pages that write some files see it: it is the same outside the
folders, directories are still there, on the way to the files no file was put or taken away, and no
directory was put in their place. -/
structure Near (e : Exporter) (b : Session) (ws : List Write) (s : Session) : Prop
    extends SameSetting b s where
  outside : ∀ q, ¬e.IsInside b q → s.view q = b.view q
  keeps : ∀ q, b.view q = some .directory → s.view q = some .directory
  noFile : ∀ q, Write.IsAbove ws q → Disk.isFileEntry (s.view q) = Disk.isFileEntry (b.view q)
  noDirectory : ∀ w ∈ ws, s.view w.place = some .directory → b.view w.place = some .directory

lemma Near.refl (e : Exporter) (b : Session) (ws : List Write) : e.Near b ws b :=
  ⟨.refl b, fun _ _ => rfl, fun _ h => h, fun _ _ => rfl, fun _ _ h => h⟩

/-- Logging leaves a session near. -/
lemma Near.agrees (h : e.Near b ws s) (h' : s.Agrees s') : e.Near b ws s' where
  toSameSetting := h.toSameSetting.trans h'.toSameSetting
  outside q hq := (h'.view q).trans (h.outside q hq)
  keeps q hq := (h'.view q).trans (h.keeps q hq)
  noFile q hq := by rw [h'.view, h.noFile q hq]
  noDirectory w hw hdir := h.noDirectory w hw (by rwa [← h'.view])

/-- A change that puts no more than is written: files in their places, copies with the bytes of
their originals, and directories on the way to them, all inside the folders. -/
structure Puts (e : Exporter) (b : Session) (written : List Write) (change : Change) : Prop where
  inside : ∀ q x, change q = some x → ¬e.IsInside b q → b.view q = some x
  file : ∀ q content, change q = some (.file content) → b.view q ≠ some .directory ∧
    ∃ w ∈ written, w.place = q ∧ ∀ p, w.origin = some p → b.volume.read p = .ok content
  directory : ∀ q, change q = some .directory →
    Disk.isFileEntry (b.view q) = false ∧ Write.IsAbove written q

lemma Puts.none (e : Exporter) (b : Session) (written : List Write) :
    e.Puts b written fun _ => none where
  inside _ _ h := by simp at h
  file _ _ h := by simp at h
  directory _ h := by simp at h

lemma Puts.mono (h : e.Puts b written change) (hsub : written ⊆ more) : e.Puts b more change where
  inside := h.inside
  file q content hq := by
    obtain ⟨hdir, w, hw, hplace⟩ := h.file q content hq
    exact ⟨hdir, w, hsub hw, hplace⟩
  directory q hq := by
    obtain ⟨hfile, w, hw, habove⟩ := h.directory q hq
    exact ⟨hfile, w, hsub hw, habove⟩

lemma Puts.after (h : e.Puts b written change) (h' : e.Puts b written change') :
    e.Puts b written (change'.after change) := by
  have key : ∀ {q x}, change'.after change q = some x → change' q = some x ∨ change q = some x :=
    fun hq => (Option.or_eq_some_iff.mp hq).imp_right And.right
  refine ⟨fun q x hq => ?_, fun q content hq => ?_, fun q hq => ?_⟩
  · exact (key hq).elim (h'.inside q x) (h.inside q x)
  · exact (key hq).elim (h'.file q content) (h.file q content)
  · exact (key hq).elim (h'.directory q) (h.directory q)

/-- What is put for files that are written apart is the same where both put something. -/
lemma Puts.agree (h : e.Puts b written change) (h' : e.Puts b more change')
    (hapart : ∀ w ∈ written, ∀ w' ∈ more, w.Apart w') {q : Place} {x y : Entry}
    (hx : change q = some x) (hy : change' q = some y) : x = y := by
  cases x with
  | directory =>
      cases y with
      | directory => rfl
      | file content =>
          obtain ⟨-, w, hw, hbelow, hne⟩ := h.directory q hx
          obtain ⟨-, w', hw', rfl, -⟩ := h'.file q content hy
          rcases hapart w hw w' hw' with ⟨-, hnot⟩ | ⟨hplace, -⟩
          · exact absurd hbelow hnot
          · exact absurd hplace.symm hne
  | file content =>
      obtain ⟨-, w, hw, rfl, horigin⟩ := h.file q content hx
      cases y with
      | directory =>
          obtain ⟨-, w', hw', hbelow, hne⟩ := h'.directory _ hy
          rcases hapart w hw w' hw' with ⟨hnot, -⟩ | ⟨hplace, -⟩
          · exact absurd hbelow hnot
          · exact absurd hplace hne
      | file content' =>
          obtain ⟨-, w', hw', hsame, horigin'⟩ := h'.file _ content' hy
          rcases hapart w hw w' hw' with ⟨hnot, -⟩ | ⟨-, heq, hsome⟩
          · exact absurd (hsame ▸ List.prefix_rfl) hnot
          · obtain ⟨p, hp⟩ := Option.isSome_iff_exists.mp hsome
            have hread := horigin p hp
            rw [horigin' p (heq ▸ hp)] at hread
            rw [Except.ok.inj hread]

/-- A change that puts no more than is written leads to a near session. -/
lemma Near.actsTo (h : e.Near b ws s) (h' : ActsTo s s' change) (hputs : e.Puts b written change)
    (hsub : written ⊆ ws) (hfree : Write.Free ws) : e.Near b ws s' := by
  have hputs := hputs.mono hsub
  refine ⟨h.toSameSetting.trans h'.toSameSetting, fun q hq => ?_, fun q hq => ?_, fun q hq => ?_,
    fun w hw hdir => ?_⟩
  · rw [h'.view]
    cases hchange : change q with
    | none => exact h.outside q hq
    | some x => exact (hputs.inside q x hchange hq).symm
  · rw [h'.view]
    cases hchange : change q with
    | none => exact h.keeps q hq
    | some x =>
        cases x with
        | directory => rfl
        | file content => exact absurd hq (hputs.file q content hchange).1
  · rw [h'.view]
    cases hchange : change q with
    | none => exact h.noFile q hq
    | some x =>
        cases x with
        | directory => exact (hputs.directory q hchange).1.symm
        | file content =>
            obtain ⟨-, w, hw, rfl, -⟩ := hputs.file q content hchange
            exact absurd hq (hfree w hw)
  · rw [h'.view] at hdir
    cases hchange : change w.place with
    | none =>
        rw [hchange, Option.none_or] at hdir
        exact h.noDirectory w hw hdir
    | some x =>
        rw [hchange, Option.some_or] at hdir
        rw [Option.some.inj hdir] at hchange
        exact absurd (hputs.directory _ hchange).2 (hfree w hw)

/-! ### Paths on near sessions -/

namespace Near

variable {p : Path}

/-- On the way of a path that leads outside the folders, a near disk is the same. -/
lemma trailView (h : e.Near b ws s) (hp : e.IsOutside b p) :
    ∀ q ∈ b.volume.trail p,
      s.volume.disk.view b.logFiles q = b.volume.disk.view b.logFiles q := by
  intro q hq
  have hview : s.view q = b.view q := by
    by_cases hinside : e.IsInside b q
    · rw [hp.way q hq hinside, h.keeps q (hp.way q hq hinside)]
    · exact h.outside q hinside
  rwa [Session.view, Session.view, h.logFiles] at hview

/-- Outside the folders a path means the same. -/
lemma locate (h : e.Near b ws s) (hp : e.IsOutside b p) :
    s.volume.locate p = b.volume.locate p :=
  Volume.locate_congr h.working (h.trailView hp)

lemma isFile (h : e.Near b ws s) (hp : e.IsOutside b p) :
    s.volume.isFile p = b.volume.isFile p :=
  Volume.isFile_congr h.working (h.trailView hp)

lemma read (h : e.Near b ws s) (hp : e.IsOutside b p)
    (hlog : b.volume.placeOf p ∉ b.logFiles) : s.volume.read p = b.volume.read p :=
  Volume.read_congr h.working (h.trailView hp) hlog

lemma keepsDirectories (h : e.Near b ws s) :
    Disk.KeepsDirectories b.volume.disk s.volume.disk := fun q hq =>
  Session.view_eq_directory.mp (h.keeps q (Session.view_eq_directory.mpr hq))

lemma isDirectory (h : e.Near b ws s) (hp : b.volume.isDirectory p = .ok true) :
    s.volume.isDirectory p = .ok true :=
  Volume.isDirectory_mono h.working h.keepsDirectories hp

/-- A directory stands in the place of a file that is written if it did before. -/
lemma directory_iff (h : e.Near b ws s) {w : Write} (hw : w ∈ ws) :
    s.volume.disk.find? w.place = some .directory ↔
      b.volume.disk.find? w.place = some .directory := by
  rw [← Session.view_eq_directory, ← Session.view_eq_directory]
  exact ⟨h.noDirectory w hw, h.keeps w.place⟩

/-- The names along which directories can be made on the way to a file that is written. -/
lemma openNames (h : e.Near b ws s) {w : Write} (hw : w ∈ ws) {place : Place} {names : List Text}
    {last : Text} (hplace : w.place = place ++ (names ++ [last])) :
    Disk.openNames s.volume.disk.find? place names = Disk.openNames b.view place names := by
  refine Disk.openNames_congr fun q _ hq => ?_
  rw [← Session.isFileEntry_view]
  refine h.noFile q ⟨w, hw, ?_, fun heq => ?_⟩
  · rw [hplace, ← List.append_assoc]
    exact hq.trans (List.prefix_append _ _)
  · have hlength := hq.length_le
    rw [heq, hplace, List.length_append, List.length_append, List.length_append,
      List.length_singleton] at hlength
    omega

/-- A folder that is there is not made. -/
lemma ensureDirectory (h : e.Near b ws s) (hp : b.volume.isDirectory p = .ok true) :
    FileStore.ensureDirectory s p = (.ok (), s) := by
  rw [FileStore.ensureDirectory, Volume.makeDirectory_there (h.isDirectory hp)]
  rfl

end Near

/-! ### Files on near sessions -/

/-- Writing under a name in a directory fails on all near sessions, or on all of them it puts the
file. -/
lemma Near.write {s₀ : Session} {directory : Path} {name : Text} {w : Write} (hw : w ∈ ws)
    (hname : IsName name) (hplace : w.place = b.volume.placeOf directory ++ [name])
    (h₀ : e.Near b ws s₀) (hdir₀ : s₀.volume.isDirectory directory = .ok true) :
    (∃ cause, ∀ s content, e.Near b ws s → s.volume.isDirectory directory = .ok true →
        s.volume.write (directory.child name) content = .error cause) ∨
      b.view w.place ≠ some .directory ∧
        ∀ s content, e.Near b ws s → s.volume.isDirectory directory = .ok true →
          s.volume.write (directory.child name) content
            = .ok (s.volume.withDisk (s.volume.disk.put w.place (.file content))) := by
  have hlocate : ∀ s, e.Near b ws s → s.volume.isDirectory directory = .ok true →
      s.volume.locate (directory.child name) = s₀.volume.locate (directory.child name) :=
    fun s h hdir => Volume.locate_child_congr (h₀.toSameSetting.symm.trans h.toSameSetting).working
      hname hdir₀ hdir
  cases hloc : s₀.volume.locate (directory.child name) with
  | error cause =>
      exact Or.inl ⟨cause, fun s content h hdir => by rw [Volume.write, hlocate s h hdir, hloc]⟩
  | ok place =>
      have hwhere : place = w.place := by
        rw [Volume.locate_child_ok hname hloc, Volume.placeOf_eq h₀.working, hplace]
      subst hwhere
      by_cases hentry : b.volume.disk.find? w.place = some .directory
      · refine Or.inl ⟨.refused .isDirectory (directory.child name), fun s content h hdir => ?_⟩
        rw [Volume.write, hlocate s h hdir, hloc]
        dsimp only
        rw [(h.directory_iff hw).mpr hentry]
      · refine Or.inr ⟨fun hd => hentry (Session.view_eq_directory.mp hd),
          fun s content h hdir => ?_⟩
        exact Volume.write_eq_ok.mpr ⟨_, (hlocate s h hdir).trans hloc,
          fun hd => hentry ((h.directory_iff hw).mp hd), rfl⟩

/-- Copying from outside the folders to a name in one of them fails on all near sessions, or on all
of them it is the writing of the bytes of the original. -/
lemma Near.copy_eq {original directory : Path} {name : Text} (hname : IsName name)
    (hdirectory : b.volume.isDirectory directory = .ok true)
    (hinside : e.IsInside b (b.volume.placeOf directory ++ [name]))
    (horiginal : e.IsOutside b original) (hlog : b.volume.placeOf original ∉ b.logFiles) :
    (∃ cause, ∀ s, e.Near b ws s →
        s.volume.copy original (directory.child name) = .error cause) ∨
      ∃ content, b.volume.read original = .ok content ∧ ∀ s, e.Near b ws s →
        s.volume.copy original (directory.child name)
          = s.volume.write (directory.child name) content := by
  have hsame : ∀ s, e.Near b ws s → s.volume.sameEntry original (directory.child name)
      = b.volume.sameEntry original (directory.child name) := by
    intro s h
    refine Volume.sameEntry_congr (h.locate horiginal) (Volume.locate_child_congr h.working hname
      hdirectory (h.isDirectory hdirectory)) fun place place' hl hl' heq => ?_
    rw [Volume.locate_child_ok hname hl', Volume.locate_eq_placeOf hl] at heq
    -- the copy lies inside a folder and its original does not, so they are two files
    exact horiginal.place (heq ▸ hinside)
  cases hentry : b.volume.sameEntry original (directory.child name) with
  | error cause =>
      exact Or.inl ⟨cause, fun s h => by rw [Volume.copy, hsame s h, hentry]⟩
  | ok same =>
      cases same with
      | true =>
          exact Or.inl ⟨.sameFile original (directory.child name), fun s h => by
            rw [Volume.copy, hsame s h, hentry]⟩
      | false =>
          cases hread : b.volume.read original with
          | error cause =>
              exact Or.inl ⟨cause, fun s h => by
                rw [Volume.copy, hsame s h, hentry, h.read horiginal hlog, hread]⟩
          | ok content =>
              exact Or.inr ⟨content, rfl, fun s h => by
                rw [Volume.copy, hsame s h, hentry, h.read horiginal hlog, hread]⟩

/-- A copy from outside the folders to a name in one of them fails on all near sessions, or on all
of them it puts the bytes of its original. -/
lemma Near.copy {original directory : Path} {name : Text} {w : Write} (hw : w ∈ ws)
    (hname : IsName name) (hplace : w.place = b.volume.placeOf directory ++ [name])
    (hdirectory : b.volume.isDirectory directory = .ok true) (hinside : e.IsInside b w.place)
    (horiginal : e.IsOutside b original) (hlog : b.volume.placeOf original ∉ b.logFiles) :
    (∃ cause, ∀ s, e.Near b ws s →
        s.volume.copy original (directory.child name) = .error cause) ∨
      ∃ content, b.volume.read original = .ok content ∧ b.view w.place ≠ some .directory ∧
        ∀ s, e.Near b ws s → s.volume.copy original (directory.child name)
          = .ok (s.volume.withDisk (s.volume.disk.put w.place (.file content))) := by
  rcases Near.copy_eq hname hdirectory (hplace ▸ hinside) horiginal hlog with
    ⟨cause, hfails⟩ | ⟨content, hread, hcopy⟩
  · exact Or.inl ⟨cause, hfails⟩
  · rcases Near.write hw hname hplace (.refl e b ws) hdirectory with
      ⟨cause, hfails⟩ | ⟨hdir, hputs⟩
    · exact Or.inl ⟨cause, fun s h => by
        rw [hcopy s h]
        exact hfails s content h (h.isDirectory hdirectory)⟩
    · exact Or.inr ⟨content, hread, hdir, fun s h => by
        rw [hcopy s h]
        exact hputs s content h (h.isDirectory hdirectory)⟩

end Exporter

end PageNotes
