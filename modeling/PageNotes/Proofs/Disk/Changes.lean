import PageNotes.Proofs.Disk.Walk

/-!
What the operations on a disk change. Writing and copying put one file where no directory stands;
making a directory adds directories where nothing was.

* `Volume.write_eq_ok`, `Volume.copy_eq_ok`, `Volume.makeOne_eq_ok`: when an operation succeeds, and
  the volume that it gives;
* `Disk.AddsDirectories`, `Volume.makeDirectory_adds`: making a directory, whether or not it
  succeeds, changes nothing else;
* `Volume.makeDirectory_ok`: afterwards the directory is there.
-/

namespace PageNotes

namespace Volume

variable {v v' : Volume} {p : Path}

@[simp] lemma withDisk_disk (v : Volume) (d : Disk) : (v.withDisk d).disk = d := rfl

@[simp] lemma withDisk_working (v : Volume) (d : Disk) : (v.withDisk d).working = v.working := rfl

/-! ### Files -/

/-- A file is written where no directory stands. -/
lemma write_eq_ok {content : Bytes} :
    v.write p content = .ok v' ↔
      ∃ place, v.locate p = .ok place ∧ v.disk.find? place ≠ some .directory ∧
        v' = v.withDisk (v.disk.put place (.file content)) := by
  rw [write]
  cases hl : v.locate p with
  | error e => simp
  | ok place =>
      cases hf : v.disk.find? place with
      | none => simp [hf, eq_comm]
      | some entry => cases entry <;> simp [hf, eq_comm]

/-- Two paths that mean places lead to one entry when the places are the same and something stands
there. -/
lemma sameEntry_eq {q : Path} {a b : Place} (ha : v.locate p = .ok a) (hb : v.locate q = .ok b) :
    v.sameEntry p q = .ok (a = b && (v.disk.find? a).isSome) := by
  rw [sameEntry, ha, hb]

/-- Whether two paths lead to one entry does not depend on what stands there when they mean other
places. -/
lemma sameEntry_congr {q : Path} (hp : v'.locate p = v.locate p) (hq : v'.locate q = v.locate q)
    (hne : ∀ a b, v.locate p = .ok a → v.locate q = .ok b → a ≠ b) :
    v'.sameEntry p q = v.sameEntry p q := by
  rw [sameEntry, sameEntry, hp, hq]
  cases hl : v.locate p with
  | error cause =>
      cases v.locate q with
      | error cause' => cases cause <;> cases cause' <;> rfl
      | ok place' => cases cause <;> rfl
  | ok place =>
      cases hl' : v.locate q with
      | error cause' => cases cause' <;> rfl
      | ok place' => simp [hne place place' hl hl']

/-- A copy is what is read from the source, written at the target, unless they are one file. -/
lemma copy_eq_ok {source target : Path} :
    v.copy source target = .ok v' ↔
      v.sameEntry source target = .ok false ∧
        ∃ content, v.read source = .ok content ∧ v.write target content = .ok v' := by
  rw [copy]
  cases hs : v.sameEntry source target with
  | error e => simp
  | ok same =>
      cases same with
      | true => simp
      | false =>
          cases hr : v.read source with
          | error e => simp
          | ok content => simp

/-! ### Directories -/

/-- A path leads to a directory when one stands at its place. -/
lemma isDirectory_eq_true :
    v.isDirectory p = .ok true ↔
      ∃ place, v.locate p = .ok place ∧ v.disk.find? place = some .directory := by
  rw [isDirectory, ask, entry]
  cases hl : v.locate p with
  | error e => cases e with
    | refused cause path => cases cause <;> simp
    | sameFile source target => simp
    | nullCharacter => simp
  | ok place =>
      cases hf : v.disk.find? place with
      | none => simp [hf]
      | some entry => cases entry <;> simp [hf]

/-- A directory is there as long as directories are kept. -/
lemma isDirectory_mono (hw : v'.working = v.working)
    (hd : Disk.KeepsDirectories v.disk v'.disk) (h : v.isDirectory p = .ok true) :
    v'.isDirectory p = .ok true := by
  obtain ⟨place, hloc, hdir⟩ := isDirectory_eq_true.mp h
  exact isDirectory_eq_true.mpr ⟨place, locate_mono hw hd hloc, hd place hdir⟩

/-- A directory is made where nothing stands. -/
lemma makeOne_eq_ok :
    v.makeOne p = .ok v' ↔
      ∃ place, v.locate p = .ok place ∧ v.disk.find? place = none ∧
        v' = v.withDisk (v.disk.put place .directory) := by
  rw [makeOne]
  cases hl : v.locate p with
  | error e => simp
  | ok place => cases hf : v.disk.find? place <;> simp [hf, eq_comm]

/-- An error is taken back only where the directory is there. -/
lemma unlessThere_eq_ok {e : DiskError} (h : v.unlessThere p e = .ok ()) :
    v.isDirectory p = .ok true := by
  unfold unlessThere at h
  split at h
  · simp at h
  · split at h <;> simp_all

end Volume

namespace Disk

/-- Nothing is changed but that there are new directories. -/
def AddsDirectories (d d' : Disk) : Prop :=
  ∀ q, d'.find? q = d.find? q ∨ (d.find? q = none ∧ d'.find? q = some .directory)

variable {d d' d'' : Disk}

lemma AddsDirectories.refl (d : Disk) : AddsDirectories d d := fun _ => Or.inl rfl

lemma AddsDirectories.trans (h : AddsDirectories d d') (h' : AddsDirectories d' d'') :
    AddsDirectories d d'' := by
  intro q
  rcases h q with hq | ⟨hnone, hdir⟩
  · rcases h' q with hq' | ⟨hnone', hdir'⟩
    · exact Or.inl (hq'.trans hq)
    · exact Or.inr ⟨hq ▸ hnone', hdir'⟩
  · rcases h' q with hq' | ⟨hnone', -⟩
    · exact Or.inr ⟨hnone, hq'.trans hdir⟩
    · rw [hdir] at hnone'
      exact absurd hnone' (by simp)

lemma AddsDirectories.keepsDirectories (h : AddsDirectories d d') : KeepsDirectories d d' := by
  intro q hq
  rcases h q with hq' | ⟨hnone, -⟩
  · exact hq'.trans hq
  · rw [hq] at hnone
    exact absurd hnone (by simp)

/-- A file is still there, with its content. -/
lemma AddsDirectories.file (h : AddsDirectories d d') {q : Place} {content : Bytes}
    (hq : d.find? q = some (.file content)) : d'.find? q = some (.file content) := by
  rcases h q with hq' | ⟨hnone, -⟩
  · exact hq'.trans hq
  · rw [hq] at hnone
    exact absurd hnone (by simp)

lemma addsDirectories_put {place : Place} (h : d.find? place = none) :
    AddsDirectories d (d.put place .directory) := by
  intro q
  have hroot : place ≠ [] := ne_root_of_find? (d := d) (by simp [h])
  rw [find?_put d hroot]
  split_ifs with hq
  · exact Or.inr ⟨hq ▸ h, rfl⟩
  · exact Or.inl rfl

end Disk

namespace Volume

variable {v v' : Volume} {p : Path}

lemma makeOne_adds (h : v.makeOne p = .ok v') :
    v'.working = v.working ∧ Disk.AddsDirectories v.disk v'.disk := by
  obtain ⟨place, -, hnone, rfl⟩ := makeOne_eq_ok.mp h
  exact ⟨rfl, Disk.addsDirectories_put hnone⟩

lemma makeOne_isDirectory (h : v.makeOne p = .ok v') : v'.isDirectory p = .ok true := by
  obtain ⟨place, hl, hnone, rfl⟩ := makeOne_eq_ok.mp h
  have hadds := Disk.addsDirectories_put hnone
  have hroot : place ≠ [] := Disk.ne_root_of_find? (d := v.disk) (by simp [hnone])
  refine isDirectory_eq_true.mpr ⟨place, ?_, ?_⟩
  · exact locate_mono (withDisk_working v _) hadds.keepsDirectories hl
  · rw [withDisk_disk, Disk.find?_put _ hroot, if_pos rfl]

/-- The disk with a directory; an error is taken back if the directory is there after all. -/
def makeLast (v : Volume) (p : Path) : Except DiskError Unit × Volume :=
  match v.makeOne p with
  | .ok made => (.ok (), made)
  | .error (.refused .notFound q) => (.error (.refused .notFound q), v)
  | .error e => (v.unlessThere p e, v)

/-- How making a directory `p` below those of `above` can go, with all that it lies in. -/
inductive MakesBelow (v : Volume) (root : PathRoot) (p : Path) (above : List Text) :
    Except DiskError Unit × Volume → Prop
  /-- Nothing is missing above. -/
  | direct (h : ∀ q, v.makeOne p ≠ .error (.refused .notFound q)) :
      MakesBelow v root p above (v.makeLast p)
  /-- The directory above cannot be made. -/
  | stopped {q : Path} {e : DiskError} {v' : Volume}
      (h : v.makeOne p = .error (.refused .notFound q))
      (habove : v.makeBelow root above = (.error e, v')) :
      MakesBelow v root p above (.error e, v')
  /-- The directory above is made first. -/
  | after {q : Path} {v' : Volume} (h : v.makeOne p = .error (.refused .notFound q))
      (habove : v.makeBelow root above = (.ok (), v')) :
      MakesBelow v root p above (v'.makeLast p)

/-- Making a directory goes in one of these ways. -/
lemma makesBelow (v : Volume) (root : PathRoot) (name : Text) (above : List Text) :
    MakesBelow v root ⟨root, (name :: above).reverse⟩ above
      (v.makeBelow root (name :: above)) := by
  rw [makeBelow]
  split
  · rename_i made h
    have hlast : v.makeLast ⟨root, (name :: above).reverse⟩ = (.ok (), made) := by
      rw [makeLast, h]
    rw [← hlast]
    refine .direct fun q hq => ?_
    rw [h] at hq
    cases hq
  · rename_i q h
    split
    · exact .stopped h ‹_›
    · rename_i v' habove
      exact .after h habove
  · rename_i e hne h
    have hlast : v.makeLast ⟨root, (name :: above).reverse⟩
        = (v.unlessThere ⟨root, (name :: above).reverse⟩ e, v) := by
      rw [makeLast, h]
      split <;> simp_all
    rw [← hlast]
    refine .direct fun q hq => hne q ?_
    rw [h] at hq
    exact Except.error.inj hq

lemma makeLast_adds (v : Volume) (p : Path) :
    (v.makeLast p).2.working = v.working ∧
      Disk.AddsDirectories v.disk (v.makeLast p).2.disk := by
  rw [makeLast]
  split
  · rename_i made h
    exact makeOne_adds h
  · exact ⟨rfl, Disk.AddsDirectories.refl _⟩
  · exact ⟨rfl, Disk.AddsDirectories.refl _⟩

lemma makeLast_ok (h : (v.makeLast p).1 = .ok ()) : (v.makeLast p).2.isDirectory p = .ok true := by
  rw [makeLast] at h ⊢
  split
  · exact makeOne_isDirectory ‹_›
  · simp_all
  · rename_i e hne hmade
    simp only [hmade] at h
    exact unlessThere_eq_ok h

/-- Making a directory with all above it adds directories and nothing else. -/
lemma makeBelow_adds (v : Volume) (root : PathRoot) (above : List Text) :
    (v.makeBelow root above).2.working = v.working ∧
      Disk.AddsDirectories v.disk (v.makeBelow root above).2.disk := by
  induction above generalizing v with
  | nil => exact ⟨rfl, Disk.AddsDirectories.refl _⟩
  | cons name above ih =>
      have hup := ih v
      have hway := makesBelow v root name above
      generalize v.makeBelow root (name :: above) = result at hway ⊢
      cases hway with
      | direct => exact makeLast_adds v _
      | stopped _ habove => simpa only [habove] using hup
      | @after _ v' _ habove =>
          rw [habove] at hup
          obtain ⟨hw, hadds⟩ := makeLast_adds v' ⟨root, (name :: above).reverse⟩
          exact ⟨hw.trans hup.1, hup.2.trans hadds⟩

lemma makeDirectory_adds (v : Volume) (p : Path) :
    (v.makeDirectory p).2.working = v.working ∧
      Disk.AddsDirectories v.disk (v.makeDirectory p).2.disk :=
  makeBelow_adds v p.root p.parts.reverse

/-- A directory that was made with all above it is there. -/
lemma makeBelow_ok {root : PathRoot} {above : List Text}
    (h : (v.makeBelow root above).1 = .ok ()) :
    (v.makeBelow root above).2.isDirectory ⟨root, above.reverse⟩ = .ok true := by
  cases above with
  | nil =>
      rw [makeBelow] at h ⊢
      dsimp only at h ⊢
      exact unlessThere_eq_ok h
  | cons name above =>
      have hway := makesBelow v root name above
      generalize v.makeBelow root (name :: above) = result at hway h ⊢
      cases hway with
      | direct => exact makeLast_ok h
      | stopped => simp at h
      | after => exact makeLast_ok h

lemma makeDirectory_ok (h : (v.makeDirectory p).1 = .ok ()) :
    (v.makeDirectory p).2.isDirectory p = .ok true := by
  have := makeBelow_ok h
  rwa [List.reverse_reverse] at this

end Volume

end PageNotes
