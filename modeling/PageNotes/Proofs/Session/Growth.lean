import Mathlib.Logic.Relation
import PageNotes.Proofs.Disk.Directories
import PageNotes.Proofs.Session.View

/-!
How disks grow. Whatever is done with a disk, it only gets new directories where nothing stands and
files where no directory stands. So nothing is taken away, and the files below a place stay the same
list unless a new one is put there.

* `Disk.Step`, `Disk.Grows`: one entry that is put, and any number of them;
* `Disk.Grows.places`, `Disk.Grows.filesUnder`: the places with entries and the files below a place
  afterwards;
* `Volume.makeDirectory_grows`, `Session.write_grows`: making directories and logging;
* `Volume.IsNamed`: all names on a volume are names that a file may have.
-/

namespace PageNotes

open Relation (ReflTransGen)

namespace Disk

variable {d d' : Disk} {place : Place}

/-- The places with entries, in order. -/
def places (d : Disk) : List Place := d.entries.map Prod.fst

/-- One entry is put. -/
inductive Step (d : Disk) : Disk → Prop
  | directory {place : Place} (h : d.find? place = none) : Step d (d.put place .directory)
  | file {place : Place} {content : Bytes} (h : d.find? place ≠ some .directory) :
      Step d (d.put place (.file content))

/-- Entries are put one after another. -/
def Grows : Disk → Disk → Prop := ReflTransGen Step

lemma Grows.refl (d : Disk) : Grows d d := ReflTransGen.refl

lemma Grows.trans {d'' : Disk} (h : Grows d d') (h' : Grows d' d'') : Grows d d'' :=
  ReflTransGen.trans h h'

lemma Step.grows (h : Step d d') : Grows d d' := ReflTransGen.single h

/-! ### What stays -/

/-- Directories stay directories, and files stay files. -/
lemma Step.keeps (h : Step d d') (q : Place) :
    (d.find? q = some .directory → d'.find? q = some .directory) ∧
      (isFileEntry (d.find? q) = true → isFileEntry (d'.find? q) = true) := by
  cases h with
  | directory h =>
      rw [find?_put d (ne_root_of_find? (d := d) (by simp [h]))]
      split_ifs with hq
      · subst hq
        simp [h, isFileEntry]
      · exact ⟨id, id⟩
  | file h =>
      rw [find?_put d (ne_root_of_find? h)]
      split_ifs with hq
      · subst hq
        exact ⟨fun hd => absurd hd h, fun _ => rfl⟩
      · exact ⟨id, id⟩

lemma Grows.keeps (h : Grows d d') (q : Place) :
    (d.find? q = some .directory → d'.find? q = some .directory) ∧
      (isFileEntry (d.find? q) = true → isFileEntry (d'.find? q) = true) := by
  induction h with
  | refl => exact ⟨id, id⟩
  | tail _ hstep ih =>
      have hlast := hstep.keeps q
      exact ⟨fun hq => hlast.1 (ih.1 hq), fun hq => hlast.2 (ih.2 hq)⟩

/-- Where something stands, something still does. -/
lemma Grows.isSome (h : Grows d d') {q : Place} (hq : (d.find? q).isSome) :
    (d'.find? q).isSome := by
  obtain ⟨entry, hentry⟩ := Option.isSome_iff_exists.mp hq
  obtain ⟨hdirectory, hfile⟩ := h.keeps q
  rw [hentry] at hdirectory hfile
  cases entry with
  | directory => simp [hdirectory rfl]
  | file content =>
      have hstill := hfile rfl
      cases hlast : d'.find? q with
      | none => simp [hlast, isFileEntry] at hstill
      | some => rfl

/-! ### Places -/

lemma map_fst_putEntry (place : Place) (entry : Entry) (l : List (Place × Entry)) :
    ∀ q ∈ (putEntry place entry l).map Prod.fst,
      q ∈ l.map Prod.fst ∨ (q = place ∧ List.lookup place l = none) := by
  induction l with
  | nil => simp [putEntry]
  | cons head rest ih =>
      obtain ⟨p, old⟩ := head
      intro q hq
      rw [putEntry] at hq
      split_ifs at hq with hp
      · exact Or.inl (by simpa [hp] using hq)
      · rw [lookup_cons_eq, if_neg (Ne.symm hp)]
        rcases List.mem_cons.mp hq with rfl | hq
        · simp
        · rcases ih q hq with hold | hnew
          · exact Or.inl (List.mem_cons_of_mem _ hold)
          · exact Or.inr hnew

lemma places_put {place : Place} (hp : place ≠ []) (entry : Entry) :
    ∀ q ∈ (d.put place entry).places, q ∈ d.places ∨ (q = place ∧ d.find? place = none) := by
  intro q hq
  rcases map_fst_putEntry place entry d.entries q hq with hold | ⟨rfl, hnone⟩
  · exact Or.inl hold
  · exact Or.inr ⟨rfl, by rw [find?, if_neg hp, hnone]⟩

/-- A place with an entry had one before, or something is new there. -/
lemma Grows.places (h : Grows d d') :
    ∀ q ∈ d'.places, q ∈ d.places ∨ (d.find? q = none ∧ (d'.find? q).isSome) := by
  induction h with
  | refl => exact fun q hq => Or.inl hq
  | @tail d₁ d₂ hgrows hstep ih =>
      have hgone : ∀ {q}, d₁.find? q = none → d.find? q = none := fun {q} hq => by
        cases hd : d.find? q with
        | none => rfl
        | some entry =>
            have := Grows.isSome hgrows (q := q) (by simp [hd])
            simp [hq] at this
      have hput : ∀ q ∈ d₂.places, q ∈ d₁.places ∨ (d₁.find? q = none ∧ (d₂.find? q).isSome) := by
        cases hstep with
        | @directory place hnone =>
            have hroot : place ≠ [] := ne_root_of_find? (d := d₁) (by simp [hnone])
            intro q hq
            refine (places_put hroot _ q hq).imp_right ?_
            rintro ⟨rfl, -⟩
            exact ⟨hnone, by simp [find?_put _ hroot]⟩
        | @file place content hnot =>
            have hroot := ne_root_of_find? hnot
            intro q hq
            refine (places_put hroot _ q hq).imp_right ?_
            rintro ⟨rfl, hnone⟩
            exact ⟨hnone, by simp [find?_put _ hroot]⟩
      intro q hq
      rcases hput q hq with hq₁ | ⟨hnone, hsome⟩
      · exact (ih q hq₁).imp_right fun hnew => ⟨hnew.1, hstep.grows.isSome hnew.2⟩
      · exact Or.inr ⟨hgone hnone, hsome⟩

/-! ### Files below a place -/

/-- The names from a place to a file below it. -/
def nameBelow? (place : Place) : Place × Entry → Option (List Text)
  | (p, .file _) =>
    if place.isPrefixOf p && place.length < p.length then some (p.drop place.length) else none
  | (_, .directory) => none

lemma filesUnder_eq (d : Disk) (place : Place) :
    Volume.filesUnder d place = d.entries.filterMap (nameBelow? place) := by
  rw [Volume.filesUnder]
  congr 1
  funext x
  obtain ⟨p, entry⟩ := x
  cases entry <;> rfl

/-- The files below a place after an entry that is none of them, or was one before. -/
lemma filterMap_putEntry {place q : Place} {entry : Entry} {l : List (Place × Entry)}
    (hold : ∀ old, List.lookup q l = some old →
      nameBelow? place (q, entry) = nameBelow? place (q, old))
    (hnew : List.lookup q l = none → nameBelow? place (q, entry) = none) :
    (putEntry q entry l).filterMap (nameBelow? place) = l.filterMap (nameBelow? place) := by
  induction l with
  | nil => rw [putEntry, List.filterMap_cons, hnew rfl]
  | cons head rest ih =>
      obtain ⟨p, old⟩ := head
      rw [putEntry]
      split_ifs with hp
      · subst hp
        rw [List.filterMap_cons, List.filterMap_cons, hold old (by simp)]
      · rw [lookup_cons_eq, if_neg (Ne.symm hp)] at hold hnew
        rw [List.filterMap_cons, List.filterMap_cons, ih hold hnew]

/-- Whether a place lies below another. -/
def IsBelow (place q : Place) : Prop := place <+: q ∧ q ≠ place

/-- The files below a place stay the same list when none of them is new. -/
lemma Step.filesUnder (h : Step d d')
    (hnew : ∀ q, IsBelow place q → isFileEntry (d'.find? q) = true →
      isFileEntry (d.find? q) = true) :
    Volume.filesUnder d' place = Volume.filesUnder d place := by
  rw [filesUnder_eq, filesUnder_eq]
  cases h with
  | @directory q h =>
      have hroot : q ≠ [] := ne_root_of_find? (d := d) (by simp [h])
      rw [find?, if_neg hroot] at h
      exact filterMap_putEntry (by simp [h]) fun _ => rfl
  | @file q content h =>
      have hroot := ne_root_of_find? h
      have hlookup : d.find? q = List.lookup q d.entries := by rw [find?, if_neg hroot]
      refine filterMap_putEntry (fun old hold => ?_) fun hnone => ?_
      · cases old with
        | directory => exact absurd (hlookup.trans hold) h
        | file => rfl
      · rw [nameBelow?, if_neg]
        intro hbelow
        rw [Bool.and_eq_true, decide_eq_true_eq, List.isPrefixOf_iff_prefix] at hbelow
        have hfile := hnew q ⟨hbelow.1, fun heq => by rw [heq] at hbelow; omega⟩
          (by rw [find?_put d hroot, if_pos rfl]; rfl)
        rw [hlookup, hnone] at hfile
        cases hfile

lemma Grows.filesUnder (h : Grows d d')
    (hnew : ∀ q, IsBelow place q → isFileEntry (d'.find? q) = true →
      isFileEntry (d.find? q) = true) :
    Volume.filesUnder d' place = Volume.filesUnder d place := by
  induction h using ReflTransGen.head_induction_on with
  | refl => rfl
  | @head d d₁ hstep hgrows ih =>
      -- a file that the first step puts is still there at the end, so it was there before
      have hrest : ∀ q, IsBelow place q → isFileEntry (d'.find? q) = true →
          isFileEntry (d₁.find? q) = true := fun q hq hfile =>
        (hstep.keeps q).2 (hnew q hq hfile)
      have hfirst : ∀ q, IsBelow place q → isFileEntry (d₁.find? q) = true →
          isFileEntry (d.find? q) = true := fun q hq hfile =>
        hnew q hq ((Grows.keeps hgrows q).2 hfile)
      exact (ih hrest).trans (hstep.filesUnder hfirst)

end Disk

/-! ### Volumes -/

namespace Volume

variable {v v' : Volume} {p : Path}

lemma write_grows {content : Bytes} (h : v.write p content = .ok v') :
    v.disk.Grows v'.disk := by
  obtain ⟨place, -, hnot, rfl⟩ := write_eq_ok.mp h
  exact (Disk.Step.file hnot).grows

lemma copy_grows {source target : Path} (h : v.copy source target = .ok v') :
    v.disk.Grows v'.disk := by
  obtain ⟨-, content, -, hwrite⟩ := copy_eq_ok.mp h
  exact write_grows hwrite

lemma makeLast_grows (v : Volume) (p : Path) : v.disk.Grows (v.makeLast p).2.disk := by
  rw [makeLast]
  split
  · rename_i made h
    obtain ⟨place, -, hnone, rfl⟩ := makeOne_eq_ok.mp h
    exact (Disk.Step.directory hnone).grows
  · exact .refl _
  · exact .refl _

lemma makeBelow_grows (v : Volume) (root : PathRoot) (above : List Text) :
    v.disk.Grows (v.makeBelow root above).2.disk := by
  induction above generalizing v with
  | nil => exact .refl _
  | cons name above ih =>
      have hup := ih v
      have hway := makesBelow v root name above
      generalize v.makeBelow root (name :: above) = result at hway ⊢
      cases hway with
      | direct => exact makeLast_grows v _
      | stopped _ habove => simpa only [habove] using hup
      | @after _ v' _ habove =>
          rw [habove] at hup
          exact hup.trans (makeLast_grows v' _)

lemma makeDirectory_grows (v : Volume) (p : Path) : v.disk.Grows (v.makeDirectory p).2.disk :=
  makeBelow_grows v p.root p.parts.reverse

end Volume

/-! ### Logging -/

namespace Session

variable {s s' : Session}

lemma appendTo_grows (s : Session) (place : Place) (bytes : Bytes) :
    s.volume.disk.Grows (s.appendTo place bytes).volume.disk := by
  rw [appendTo]
  split
  · rename_i content hfile
    exact (Disk.Step.file (by simp [hfile])).grows
  · exact .refl _

lemma handle_grows (entry : LogEntry) (s : Session) (h : LogHandler) :
    s.volume.disk.Grows (s.handle entry h).volume.disk := by
  rw [handle]
  split
  · exact .refl _
  · split
    · split <;> exact .refl _
    · split
      · exact appendTo_grows s _ _
      · exact .refl _

lemma write_grows (s : Session) (entry : LogEntry) :
    s.volume.disk.Grows (s.write entry).volume.disk := by
  have fold : ∀ (hs : List LogHandler) (s : Session),
      s.volume.disk.Grows (hs.foldl (handle entry) s).volume.disk := by
    intro hs
    induction hs with
    | nil => exact fun s => .refl _
    | cons h hs ih => exact fun s => (handle_grows entry s h).trans (ih _)
  rw [write]
  split
  · exact .refl _
  · dsimp only
    split
    · exact fold s.logging.handlers { s with entries := s.entries ++ [entry] }
    · exact .refl _

lemma log_grows (s : Session) (level : Level) (channel message : String) :
    s.volume.disk.Grows (s.log level channel message).volume.disk :=
  write_grows s _

lemma writeAll_grows (s : Session) (entries : List LogEntry) :
    s.volume.disk.Grows (s.writeAll entries).volume.disk := by
  rw [writeAll]
  induction entries generalizing s with
  | nil => exact .refl _
  | cons entry entries ih => exact (write_grows s entry).trans (ih _)

end Session

/-! ### Names -/

/-- A name that an entry can have: no way to another directory, and no null character. -/
def IsEntryName (name : Text) : Prop := IsName name ∧ '\x00' ∉ name

instance (name : Text) : Decidable (IsEntryName name) :=
  inferInstanceAs (Decidable (IsName name ∧ '\x00' ∉ name))

/-- All names on a volume are names that an entry can have. -/
structure Volume.IsNamed (v : Volume) : Prop where
  working : ∀ name ∈ v.working, IsEntryName name
  places : ∀ place ∈ v.disk.places, ∀ name ∈ place, IsEntryName name

instance (v : Volume) : Decidable v.IsNamed :=
  decidable_of_iff ((∀ name ∈ v.working, IsEntryName name) ∧
      ∀ place ∈ v.disk.places, ∀ name ∈ place, IsEntryName name)
    ⟨fun h => ⟨h.1, h.2⟩, fun h => ⟨h.working, h.places⟩⟩

namespace Volume

variable {v v' : Volume} {p : Path}

/-- Names lead from a place to one whose names can all be those of entries. -/
lemma leadsTo_named {place : Place} {names : List Text}
    (hplace : ∀ name ∈ place, IsEntryName name)
    (hnames : ∀ name ∈ names, IsPlain name ∧ '\x00' ∉ name) :
    ∀ name ∈ Disk.leadsTo place names, IsEntryName name := by
  induction names generalizing place with
  | nil => exact hplace
  | cons next rest ih =>
      obtain ⟨hplain, hnull⟩ := hnames next List.mem_cons_self
      have hnext : ∀ name ∈ Disk.stepTo place next, IsEntryName name := by
        rw [Disk.stepTo]
        split_ifs with hdots hdot
        · exact fun n hn => hplace n (List.dropLast_subset _ hn)
        · exact hplace
        · intro n hn
          rcases List.mem_append.mp hn with hn | hn
          · exact hplace n hn
          · rw [List.mem_singleton.mp hn]
            exact ⟨⟨hplain, hdots⟩, hnull⟩
      exact ih hnext fun n hn => hnames n (List.mem_cons_of_mem _ hn)

/-- The place that a path means has names that entries can have. -/
lemma IsNamed.locate (h : v.IsNamed) (hp : ∀ name ∈ p.parts, IsPlain name) {place : Place}
    (hlocate : v.locate p = .ok place) : ∀ name ∈ place, IsEntryName name := by
  rw [locate_eq_placeOf hlocate, placeOf]
  refine leadsTo_named ?_ fun name hname => ⟨hp name hname, fun hnull => ?_⟩
  · rw [startOf]
    split_ifs
    · simp
    · exact h.working
  · have hnone := (locate_eq_ok.mp hlocate).1
    rw [Path.hasNull, List.any_eq_false] at hnone
    exact hnone name hname (by simpa using hnull)

/-- A file at a place that a path means leaves a volume with such names. -/
lemma IsNamed.put (h : v.IsNamed) (hp : ∀ name ∈ p.parts, IsPlain name) {place : Place}
    (hlocate : v.locate p = .ok place) (hroot : place ≠ []) (entry : Entry) :
    (v.withDisk (v.disk.put place entry)).IsNamed := by
  refine ⟨h.working, fun q hq => ?_⟩
  rcases Disk.places_put hroot entry q hq with hold | ⟨rfl, -⟩
  · exact h.places q hold
  · exact h.locate hp hlocate

end Volume

/-- Where nothing is new to be seen, the names are as they were. -/
lemma Session.Agrees.isNamed {s s' : Session} (h : s.Agrees s')
    (hgrows : s.volume.disk.Grows s'.volume.disk) (hnamed : s.volume.IsNamed) :
    s'.volume.IsNamed := by
  refine ⟨h.working ▸ hnamed.working, fun q hq => ?_⟩
  rcases hgrows.places q hq with hold | ⟨hnone, hsome⟩
  · exact hnamed.places q hold
  · rw [← Session.view_eq_none, ← h.view q, Session.view_eq_none] at hnone
    simp [hnone] at hsome

end PageNotes
