import Mathlib.Tactic.Common
import PageNotes.Disk.Operations
import PageNotes.Proofs.Path.Names

/-!
Where paths lead on a disk. A walk looks at nothing but the places that it passes, its trail, and at
these only for whether a directory stands there. So it is enough to know a disk by its view, in
which the contents of some files, those that logs are written to, are left out.

* `Disk.view`: what stands at the places of a disk, but for the contents of some files;
* `Disk.trail`, `Disk.leadsTo`: the places that a walk passes and the last of them;
* `Disk.walk_congr`, `Disk.walk_mono`: a walk depends on the view of its trail, and it still
  succeeds when directories stay directories;
* `Volume.locate_congr`, `Volume.isFile_congr`, `Volume.read_congr`: the same for questions about
  paths.
-/

namespace PageNotes

instance (place : Place) (places : List Place) : Decidable (place ∈ places) := inferInstance

namespace Disk

/-! ### Views -/

/-- What stands at a place, the contents of the files at the places `hidden` left out. -/
def view (hidden : List Place) (d : Disk) (place : Place) : Option Entry :=
  match d.find? place with
  | some (.file content) => some (.file (if place ∈ hidden then [] else content))
  | entry => entry

variable {hidden : List Place} {d d' : Disk}

lemma view_of_notMem {place : Place} (h : place ∉ hidden) :
    d.view hidden place = d.find? place := by
  rw [view]
  split <;> simp_all

lemma view_eq_directory {place : Place} :
    d.view hidden place = some .directory ↔ d.find? place = some .directory := by
  rw [view]
  split <;> simp_all

lemma view_eq_none {place : Place} : d.view hidden place = none ↔ d.find? place = none := by
  rw [view]
  split <;> simp_all

lemma find?_of_view_file {place : Place} {content : Bytes}
    (h : d.view hidden place = some (.file content)) :
    ∃ c, d.find? place = some (.file c) := by
  rw [view] at h
  split at h <;> simp_all

/-- The view with an entry that was put; a file must not be one whose content is left out. -/
lemma view_put {place : Place} (hp : place ≠ []) {entry : Entry}
    (h : entry = .directory ∨ place ∉ hidden) (q : Place) :
    (d.put place entry).view hidden q = if q = place then some entry else d.view hidden q := by
  rw [view, find?_put d hp]
  by_cases hq : q = place
  · subst hq
    rw [if_pos rfl, if_pos rfl]
    cases entry with
    | directory => rfl
    | file content => simp [h.resolve_left (by simp)]
  · rw [if_neg hq, if_neg hq, view]

/-- No disk has an entry of its own for the root. -/
lemma ne_root_of_find? {place : Place} (h : d.find? place ≠ some .directory) : place ≠ [] := by
  rintro rfl
  exact h rfl

/-! ### Walking -/

/-- Where a name leads from a directory. -/
def stepTo (place : Place) (name : Text) : Place :=
  if name = ['.', '.'] then place.dropLast
  else if name = [] || name = ['.'] then place
  else place ++ [name]

/-- Where names lead from a directory, one after another. -/
def leadsTo (place : Place) (names : List Text) : Place := names.foldl stepTo place

/-- The places that names pass, the first and the last included. -/
def trail (place : Place) : List Text → List Place
  | [] => [place]
  | name :: rest => place :: trail (stepTo place name) rest

lemma mem_trail_self (place : Place) (names : List Text) : place ∈ trail place names := by
  cases names <;> simp [trail]

lemma leadsTo_mem_trail (place : Place) (names : List Text) :
    leadsTo place names ∈ trail place names := by
  induction names generalizing place with
  | nil => simp [leadsTo, trail]
  | cons name rest ih => exact List.mem_cons_of_mem _ (ih (stepTo place name))

lemma leadsTo_append (place : Place) (names more : List Text) :
    leadsTo place (names ++ more) = leadsTo (leadsTo place names) more :=
  List.foldl_append

/-- A name leads to the place below that is called so. -/
lemma stepTo_name (place : Place) {name : Text} (h : IsName name) :
    stepTo place name = place ++ [name] := by
  obtain ⟨⟨hnil, hdot, -⟩, hdots⟩ := h
  simp [stepTo, hnil, hdot, hdots]

/-- Names lead to the place below that is called by them. -/
lemma leadsTo_names (place : Place) {names : List Text} (h : ∀ name ∈ names, IsName name) :
    leadsTo place names = place ++ names := by
  induction names generalizing place with
  | nil => simp [leadsTo]
  | cons name rest ih =>
      have hstep := stepTo_name place (h name List.mem_cons_self)
      have ih := ih (stepTo place name) fun n hn => h n (List.mem_cons_of_mem _ hn)
      rw [hstep] at ih
      simpa [leadsTo, hstep] using ih

/-- What entering needs: a directory and a name that is not too long. -/
lemma enter_eq_ok {place next : Place} {name : Text} :
    d.enter place name = .ok next ↔
      d.find? place = some .directory ∧ (utf8Encode name).length ≤ nameLimit ∧
        next = stepTo place name := by
  rw [enter, stepTo]
  cases hf : d.find? place with
  | none => simp
  | some entry =>
      cases entry with
      | file content => simp
      | directory =>
          by_cases hlen : nameLimit < (utf8Encode name).length
          · simp [hlen, Nat.not_le_of_lt hlen]
          · have hle : (utf8Encode name).length ≤ nameLimit := Nat.le_of_not_lt hlen
            simp only [hlen, if_false, hle, true_and]
            split_ifs <;> simp [eq_comm]

/-- Entering depends on the view of the directory alone. -/
lemma enter_congr {place : Place} (name : Text)
    (h : d'.view hidden place = d.view hidden place) :
    d'.enter place name = d.enter place name := by
  unfold enter
  cases hf : d.find? place with
  | none => rw [view_eq_none.mp (h.trans (view_eq_none.mpr hf))]
  | some entry =>
      cases entry with
      | directory => rw [view_eq_directory.mp (h.trans (view_eq_directory.mpr hf))]
      | file content =>
          have hv : d.view hidden place
              = some (.file (if place ∈ hidden then [] else content)) := by rw [view, hf]
          obtain ⟨c, hc⟩ := find?_of_view_file (h.trans hv)
          rw [hc]

/-- A walk depends on the view of its trail alone. -/
lemma walk_congr {place : Place} {names : List Text}
    (h : ∀ q ∈ trail place names, d'.view hidden q = d.view hidden q) :
    d'.walk place names = d.walk place names := by
  induction names generalizing place with
  | nil => rfl
  | cons name rest ih =>
      rw [walk, walk, enter_congr name (h place (mem_trail_self place _))]
      cases he : d.enter place name with
      | error cause => rfl
      | ok next =>
          obtain ⟨-, -, rfl⟩ := enter_eq_ok.mp he
          exact ih fun q hq => h q (List.mem_cons_of_mem _ hq)

/-- A walk that ends leads where its names do. -/
lemma walk_eq_leadsTo {place q : Place} {names : List Text} (h : d.walk place names = .ok q) :
    q = leadsTo place names := by
  induction names generalizing place with
  | nil => simpa [walk, leadsTo, eq_comm] using h
  | cons name rest ih =>
      rw [walk] at h
      cases he : d.enter place name with
      | error cause => simp [he] at h
      | ok next =>
          obtain ⟨-, -, rfl⟩ := enter_eq_ok.mp he
          rw [he] at h
          exact ih h

/-- A walk of some names and then more. -/
lemma walk_append (place : Place) (names more : List Text) :
    d.walk place (names ++ more) =
      match d.walk place names with
      | .ok next => d.walk next more
      | .error cause => .error cause := by
  induction names generalizing place with
  | nil => rfl
  | cons name rest ih =>
      rw [List.cons_append, walk, walk]
      cases d.enter place name with
      | error cause => rfl
      | ok next => exact ih next

/-- Directories stay directories. -/
def KeepsDirectories (d d' : Disk) : Prop :=
  ∀ q, d.find? q = some .directory → d'.find? q = some .directory

lemma KeepsDirectories.refl (d : Disk) : KeepsDirectories d d := fun _ h => h

lemma KeepsDirectories.trans {d'' : Disk} (h : KeepsDirectories d d')
    (h' : KeepsDirectories d' d'') : KeepsDirectories d d'' :=
  fun q hq => h' q (h q hq)

/-- An entry that is put where no directory stands, or as a directory, leaves directories. -/
lemma keepsDirectories_put {place : Place} {entry : Entry}
    (h : d.find? place ≠ some .directory) : KeepsDirectories d (d.put place entry) := by
  intro q hq
  have hne : q ≠ place := fun e => h (e ▸ hq)
  rw [find?_put d (ne_root_of_find? h), if_neg hne]
  exact hq

/-- A walk that ends still does when directories stay directories. -/
lemma walk_mono (hd : KeepsDirectories d d') {place q : Place} {names : List Text}
    (h : d.walk place names = .ok q) : d'.walk place names = .ok q := by
  induction names generalizing place with
  | nil => exact h
  | cons name rest ih =>
      rw [walk] at h ⊢
      cases he : d.enter place name with
      | error cause => simp [he] at h
      | ok next =>
          obtain ⟨hdir, hlen, hnext⟩ := enter_eq_ok.mp he
          rw [enter_eq_ok.mpr ⟨hd place hdir, hlen, hnext⟩]
          rw [he] at h
          exact ih h

end Disk

namespace Volume

/-! ### Paths -/

variable {hidden : List Place} {v v' : Volume} {p : Path}

/-- Where a path starts. -/
def startOf (v : Volume) (p : Path) : Place := if p.isAbsolute then [] else v.working

/-- The places that a path passes. -/
def trail (v : Volume) (p : Path) : List Place := Disk.trail (v.startOf p) p.parts

/-- The place that a path is for, whether or not its directories are there. -/
def placeOf (v : Volume) (p : Path) : Place := Disk.leadsTo (v.startOf p) p.parts

lemma placeOf_mem_trail (v : Volume) (p : Path) : v.placeOf p ∈ v.trail p :=
  Disk.leadsTo_mem_trail _ _

lemma startOf_eq (hw : v'.working = v.working) (p : Path) : v'.startOf p = v.startOf p := by
  rw [startOf, startOf, hw]

lemma placeOf_eq (hw : v'.working = v.working) (p : Path) : v'.placeOf p = v.placeOf p := by
  rw [placeOf, placeOf, startOf_eq hw]

/-- What a path needs to mean a place. -/
lemma locate_eq_ok {place : Place} :
    v.locate p = .ok place ↔ p.hasNull = false ∧ (utf8Encode p.toText).length ≤ Disk.pathLimit ∧
      v.disk.walk (v.startOf p) p.parts = .ok place := by
  rw [locate, startOf]
  cases hn : p.hasNull with
  | true => simp
  | false =>
      by_cases hlen : Disk.pathLimit < (utf8Encode p.toText).length
      · simp [hlen, Nat.not_le_of_lt hlen]
      · have hle : (utf8Encode p.toText).length ≤ Disk.pathLimit := Nat.le_of_not_lt hlen
        simp only [Bool.false_eq_true, if_false, hlen, hle, true_and]
        split <;> rename_i heq <;> simp [heq]

/-- A path that means a place is for it. -/
lemma locate_eq_placeOf {place : Place} (h : v.locate p = .ok place) : place = v.placeOf p :=
  Disk.walk_eq_leadsTo (locate_eq_ok.mp h).2.2

/-- What a path means depends on the view of its trail alone. -/
lemma locate_congr (hw : v'.working = v.working)
    (h : ∀ q ∈ v.trail p, v'.disk.view hidden q = v.disk.view hidden q) :
    v'.locate p = v.locate p := by
  have hwalk : v'.disk.walk (v.startOf p) p.parts = v.disk.walk (v.startOf p) p.parts :=
    Disk.walk_congr h
  rw [startOf] at hwalk
  unfold locate
  rw [hw, hwalk]

/-- A path still means its place when directories stay directories. -/
lemma locate_mono (hw : v'.working = v.working) (hd : Disk.KeepsDirectories v.disk v'.disk)
    {place : Place} (h : v.locate p = .ok place) : v'.locate p = .ok place := by
  rw [locate_eq_ok] at h ⊢
  rw [startOf_eq hw]
  exact ⟨h.1, h.2.1, Disk.walk_mono hd h.2.2⟩

/-- A question that tells only files from directories has the same answer in equal views. -/
lemma ask_congr (hw : v'.working = v.working)
    (h : ∀ q ∈ v.trail p, v'.disk.view hidden q = v.disk.view hidden q) {question : Entry → Bool}
    (hq : ∀ c c', question (.file c) = question (.file c')) :
    v'.ask p question = v.ask p question := by
  unfold ask entry
  rw [locate_congr hw h]
  cases hl : v.locate p with
  | error e => rfl
  | ok place =>
      have hview := h place (locate_eq_placeOf hl ▸ placeOf_mem_trail v p)
      dsimp only
      cases hf : v.disk.find? place with
      | none => rw [Disk.view_eq_none.mp (hview.trans (Disk.view_eq_none.mpr hf))]
      | some entry =>
          cases entry with
          | directory =>
              rw [Disk.view_eq_directory.mp (hview.trans (Disk.view_eq_directory.mpr hf))]
          | file content =>
              obtain ⟨c, hc⟩ := Disk.find?_of_view_file (hview.trans (by rw [Disk.view, hf]))
              rw [hc]
              dsimp only
              rw [hq]

lemma isFile_congr (hw : v'.working = v.working)
    (h : ∀ q ∈ v.trail p, v'.disk.view hidden q = v.disk.view hidden q) :
    v'.isFile p = v.isFile p :=
  ask_congr hw h fun _ _ => rfl

/-- A file that is no log reads the same in equal views. -/
lemma read_congr (hw : v'.working = v.working)
    (h : ∀ q ∈ v.trail p, v'.disk.view hidden q = v.disk.view hidden q)
    (hh : v.placeOf p ∉ hidden) : v'.read p = v.read p := by
  unfold read entry
  rw [locate_congr hw h]
  cases hl : v.locate p with
  | error e => rfl
  | ok place =>
      obtain rfl := locate_eq_placeOf hl
      have hview := h _ (placeOf_mem_trail v p)
      rw [Disk.view_of_notMem hh, Disk.view_of_notMem hh] at hview
      dsimp only
      rw [hview]

/-! ### Places of names -/

/-- The place of a path from the root down. -/
lemma placeOf_names (habs : p.isAbsolute = true) (hnames : ∀ name ∈ p.parts, IsName name) :
    v.placeOf p = p.parts := by
  rw [placeOf, startOf, if_pos habs, Disk.leadsTo_names [] hnames, List.nil_append]

/-- The place of names below a directory. -/
lemma placeOf_append (p : Path) {names : List Text} (h : ∀ name ∈ names, IsName name) :
    v.placeOf ⟨p.root, p.parts ++ names⟩ = v.placeOf p ++ names := by
  have hstart : v.startOf ⟨p.root, p.parts ++ names⟩ = v.startOf p := rfl
  rw [placeOf, hstart, Disk.leadsTo_append, Disk.leadsTo_names _ h, ← placeOf]

/-- The place of a name in a directory. -/
lemma placeOf_child (p : Path) {name : Text} (h : IsName name) :
    v.placeOf (p.child name) = v.placeOf p ++ [name] := by
  rw [Path.child_eq p h.1, placeOf_append p (by simpa using h)]

/-! ### Reading -/

/-- A file that is read stands at the place of its path. -/
lemma read_eq_ok {content : Bytes} :
    v.read p = .ok content ↔
      ∃ place, v.locate p = .ok place ∧ v.disk.find? place = some (.file content) := by
  rw [read, entry]
  cases hl : v.locate p with
  | error e => simp
  | ok place =>
      cases hf : v.disk.find? place with
      | none => simp [hf]
      | some entry => cases entry <;> simp [hf]

/-- A path leads to a file when one stands at its place. -/
lemma isFile_eq_true : v.isFile p = .ok true ↔ ∃ content, v.read p = .ok content := by
  rw [isFile, ask, read]
  cases v.entry p with
  | error e => cases e with
    | refused cause path => cases cause <;> simp
    | sameFile source target => simp
    | nullCharacter => simp
  | ok entry => cases entry <;> simp

end Volume

end PageNotes
