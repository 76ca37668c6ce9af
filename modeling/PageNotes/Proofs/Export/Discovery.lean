import PageNotes.Export.Exporter
import PageNotes.Proofs.Disk.Alike
import PageNotes.Proofs.Disk.Null
import PageNotes.Proofs.Export.Near
import PageNotes.Proofs.Session.Growth

/-!
The pages that an exporter finds. They are the files below the input folder by the order of their
paths, so they stay the same as long as no file comes there.

* `Exporter.find_agrees`, `Exporter.find_later`: what is logged, and what is written elsewhere, does
  not change which pages are found;
* `Exporter.find_named`: their names are names of files;
* `Disk.IsRooted`: disks on which every entry lies in a directory;
* `Exporter.Found`: where a page lies that is found on such a disk.
-/

namespace PageNotes

open Session (Agrees)

lemma Session.Agrees.alike {s s' : Session} (h : s.Agrees s') :
    Volume.Alike s.logFiles s.volume s'.volume :=
  ⟨h.working, fun q => by
    have hview := h.view q
    rwa [Session.view, Session.view, h.logFiles] at hview⟩

namespace Exporter

variable {e : Exporter} {s s' : Session}

/-- The pages that are found do not depend on what is logged. -/
lemma find_agrees (h : s.Agrees s') (hgrows : s.volume.disk.Grows s'.volume.disk) (root : Path)
    (ending : Text) :
    FileStore.find s'.volume root ending = FileStore.find s.volume root ending := by
  have hlocate : s'.volume.locate root = s.volume.locate root :=
    Volume.locate_congr h.alike.working fun q _ => h.alike.view q
  have hunder : ∀ place, Volume.filesUnder s'.volume.disk place
      = Volume.filesUnder s.volume.disk place := fun place =>
    hgrows.filesUnder fun q _ hfile => by
      rwa [← Session.isFileEntry_view, ← h.view, Session.isFileEntry_view]
  have hbelow : s'.volume.filesBelow root ending = s.volume.filesBelow root ending := by
    rw [Volume.filesBelow, Volume.filesBelow, h.alike.isDirectory, hlocate]
    simp only [hunder]
  rw [FileStore.find, FileStore.find, hbelow]

/-- The files below a place whose names have an ending, as paths from a folder on. -/
def foundBelow (d : Disk) (place : Place) (root : Path) (ending : Text) : List Path :=
  (((Volume.filesUnder d place).filter fun names =>
    Volume.hasEnding ending (names.getLast?.getD [])).map fun names =>
      { root with parts := root.parts ++ names }).mergeSort Path.le

/-- A search gives the files below the place of the folder, if a directory is there. -/
lemma find_eq_ok_iff {v : Volume} {root : Path} {ending : Text} {pages : List Path} :
    FileStore.find v root ending = .ok pages ↔ ∃ place, v.locate root = .ok place ∧
      v.disk.find? place = some .directory ∧ foundBelow v.disk place root ending = pages := by
  constructor
  · intro h
    rw [FileStore.find, Volume.filesBelow] at h
    cases hdirectory : v.isDirectory root with
    | error cause =>
        rw [hdirectory] at h
        dsimp only at h
        split at h <;> simp_all
    | ok there =>
        cases there with
        | false => simp [hdirectory] at h
        | true =>
            obtain ⟨place, hlocate, hplace⟩ := Volume.isDirectory_eq_true.mp hdirectory
            rw [hdirectory, hlocate] at h
            exact ⟨place, hlocate, hplace, Except.ok.inj h⟩
  · rintro ⟨place, hlocate, hplace, rfl⟩
    have hdirectory := Volume.isDirectory_eq_true.mpr ⟨place, hlocate, hplace⟩
    rw [FileStore.find, Volume.filesBelow, hdirectory, hlocate]
    rfl

/-- A page that is found lies below the place of the folder. -/
lemma find_eq_ok {v : Volume} {root : Path} {ending : Text} {pages : List Path}
    (h : FileStore.find v root ending = .ok pages) :
    ∃ place, v.locate root = .ok place ∧ v.disk.find? place = some .directory ∧ ∀ p ∈ pages,
      ∃ names ∈ Volume.filesUnder v.disk place, p = { root with parts := root.parts ++ names } := by
  obtain ⟨place, hlocate, hplace, rfl⟩ := find_eq_ok_iff.mp h
  refine ⟨place, hlocate, hplace, fun p hp => ?_⟩
  obtain ⟨names, hnames, rfl⟩ := List.mem_map.mp (List.mem_mergeSort.mp hp)
  exact ⟨names, List.mem_of_mem_filter hnames, rfl⟩

/-- The names of files below a place are names that entries can have. -/
lemma filesUnder_named {v : Volume} (hv : v.IsNamed) (place : Place) :
    ∀ names ∈ Volume.filesUnder v.disk place, ∀ name ∈ names, IsEntryName name := by
  intro names hnames name hname
  rw [Disk.filesUnder_eq] at hnames
  obtain ⟨⟨q, entry⟩, hmem, hbelow⟩ := List.mem_filterMap.mp hnames
  cases entry with
  | directory => cases hbelow
  | file content =>
      rw [Disk.nameBelow?] at hbelow
      split_ifs at hbelow
      obtain rfl := Option.some.inj hbelow
      exact hv.places q (List.mem_map_of_mem hmem) name (List.mem_of_mem_drop hname)

/-- A page that is found has a path of names without null characters. -/
lemma find_named {v : Volume} (hv : v.IsNamed) {root : Path} {ending : Text} {pages : List Path}
    (hroot : ∀ name ∈ root.parts, IsPlain name) (h : FileStore.find v root ending = .ok pages) :
    ∀ p ∈ pages, (∀ name ∈ p.parts, IsPlain name) ∧ p.hasNull = false := by
  obtain ⟨place, hlocate, -, hpages⟩ := find_eq_ok h
  have hnone := (Volume.locate_eq_ok.mp hlocate).1
  intro p hp
  obtain ⟨names, hnames, rfl⟩ := hpages p hp
  have hentry := filesUnder_named hv place names hnames
  refine ⟨fun name hname => ?_, ?_⟩
  · rcases List.mem_append.mp hname with hname | hname
    · exact hroot name hname
    · exact (hentry name hname).1.1
  · rw [Bool.eq_false_iff, ne_eq, Path.hasNull_append]
    rintro (hnull | hnull)
    · exact Bool.eq_false_iff.mp hnone hnull
    · rw [Path.hasNull, List.any_eq_true] at hnull
      obtain ⟨name, hname, hnull⟩ := hnull
      exact (hentry name hname).2 (by simpa using hnull)

/-- The same pages are found later, as long as no file has come below the folder. -/
lemma find_later {root : Path} {ending : Text} {pages : List Path}
    (h : FileStore.find s.volume root ending = .ok pages)
    (hset : Session.SameSetting s s') (hgrows : s.volume.disk.Grows s'.volume.disk)
    (hnew : ∀ q, Disk.IsBelow (s.volume.placeOf root) q →
      Disk.isFileEntry (s'.view q) = true → Disk.isFileEntry (s.view q) = true) :
    FileStore.find s'.volume root ending = .ok pages := by
  have hkeeps : Disk.KeepsDirectories s.volume.disk s'.volume.disk := fun q => (hgrows.keeps q).1
  obtain ⟨place, hlocate, hplace, rfl⟩ := find_eq_ok_iff.mp h
  have hunder : Volume.filesUnder s'.volume.disk place = Volume.filesUnder s.volume.disk place := by
    refine hgrows.filesUnder fun q hq hfile => ?_
    rw [Volume.locate_eq_placeOf hlocate] at hq
    rw [← Session.isFileEntry_view] at hfile ⊢
    exact hnew q hq hfile
  refine find_eq_ok_iff.mpr ⟨place, Volume.locate_mono hset.working hkeeps hlocate,
    hkeeps place hplace, ?_⟩
  rw [foundBelow, foundBelow, hunder]

end Exporter

/-! ### Where pages lie -/

namespace Disk

variable {d : Disk} {q r : Place}

/-- Whether every entry lies in a directory. -/
def IsRooted (d : Disk) : Prop := ∀ q ∈ d.places, d.find? q.dropLast = some .directory

instance (d : Disk) : Decidable d.IsRooted :=
  inferInstanceAs (Decidable (∀ q ∈ d.places, d.find? q.dropLast = some .directory))

lemma mem_places (hroot : q ≠ []) : q ∈ d.places ↔ (d.find? q).isSome := by
  rw [places, find?, if_neg hroot]
  induction d.entries with
  | nil => simp
  | cons head rest ih =>
      rw [lookup_cons_eq, List.map_cons, List.mem_cons, ih]
      split_ifs with hq <;> simp [hq]

/-- On such a disk an entry lies in directories all the way from the root. -/
lemma IsRooted.above (h : d.IsRooted) (hq : q ∈ d.places) (hr : r <+: q) (hne : r ≠ q) :
    d.find? r = some .directory := by
  induction q using List.reverseRecOn with
  | nil => exact absurd (List.prefix_nil.mp hr) hne
  | append_singleton init last ih =>
      have hinit := h _ hq
      rw [List.dropLast_concat] at hinit
      have hr' := (List.prefix_concat_iff.mp hr).resolve_left hne
      by_cases heq : r = init
      · rw [heq, hinit]
      · refine ih ?_ hr' heq
        refine (mem_places fun hnil => ?_).mpr (by rw [hinit]; rfl)
        rw [hnil] at hr' heq
        exact heq (List.prefix_nil.mp hr')

/-- A file below a place has an entry. -/
lemma mem_places_of_filesUnder {place : Place} {names : List Text}
    (h : names ∈ Volume.filesUnder d place) : place ++ names ∈ d.places ∧ names ≠ [] := by
  rw [filesUnder_eq] at h
  obtain ⟨⟨q, entry⟩, hmem, hbelow⟩ := List.mem_filterMap.mp h
  cases entry with
  | directory => cases hbelow
  | file content =>
      rw [nameBelow?] at hbelow
      split_ifs at hbelow with hprefix
      rw [Bool.and_eq_true, List.isPrefixOf_iff_prefix, decide_eq_true_eq] at hprefix
      obtain ⟨⟨rest, rfl⟩, hlength⟩ := hprefix
      obtain rfl := Option.some.inj hbelow
      rw [List.drop_left]
      refine ⟨List.mem_map_of_mem hmem, fun hnil => ?_⟩
      simp [hnil] at hlength

/-- Names that lead somewhere pass through directories alone. -/
lemma directory_of_walk {place : Place} {names : List Text} (h : d.walk place names = .ok q) :
    ∀ r ∈ trail place names, d.find? r = some .directory ∨ r = q := by
  induction names generalizing place with
  | nil =>
      intro r hr
      rw [walk] at h
      rw [trail, List.mem_singleton] at hr
      exact Or.inr (hr.trans (Except.ok.inj h))
  | cons name rest ih =>
      rw [walk] at h
      cases henter : d.enter place name with
      | error cause => simp [henter] at h
      | ok next =>
          rw [henter] at h
          obtain ⟨hdir, -, rfl⟩ := enter_eq_ok.mp henter
          intro r hr
          rcases List.mem_cons.mp hr with rfl | hr
          · exact Or.inl hdir
          · exact ih h r hr

/-- The places that names pass are those of the first names and those of the rest. -/
lemma mem_trail_append {place : Place} {names more : List Text}
    (h : r ∈ trail place (names ++ more)) :
    r ∈ trail place names ∨ r ∈ trail (leadsTo place names) more := by
  induction names generalizing place with
  | nil => exact Or.inr h
  | cons name rest ih =>
      rcases List.mem_cons.mp h with rfl | h
      · exact Or.inl List.mem_cons_self
      · exact (ih h).imp_left (List.mem_cons_of_mem _)

/-- Names pass no places but those on the way to the last. -/
lemma prefix_of_mem_trail {place : Place} {names : List Text} (hnames : ∀ name ∈ names, IsName name)
    (h : r ∈ trail place names) : r <+: place ++ names := by
  induction names generalizing place with
  | nil =>
      rw [List.mem_singleton.mp h]
      exact List.prefix_append _ _
  | cons name rest ih =>
      rcases List.mem_cons.mp h with rfl | h
      · exact List.prefix_append _ _
      · rw [stepTo_name place (hnames name List.mem_cons_self)] at h
        simpa using ih (fun n hn => hnames n (List.mem_cons_of_mem _ hn)) h

end Disk

namespace Exporter

variable {e : Exporter} {s s' : Session} {p : Path}

/-- The pages below the input folder. -/
def pages (e : Exporter) (s : Session) : List Path :=
  match FileStore.find s.volume e.inputFolder pageEnding with
  | .ok pages => pages
  | .error _ => []

/-- Where a page lies that is found: below the input folder, at a place with an entry, with
directories all the way. -/
structure Found (e : Exporter) (s : Session) (p : Path) : Prop where
  named : ∀ name ∈ p.parts, IsPlain name
  below : s.volume.placeOf e.inputFolder <+: s.volume.placeOf p
  entry : (s.volume.disk.find? (s.volume.placeOf p)).isSome
  way : ∀ q ∈ s.volume.trail p, q ≠ s.volume.placeOf p → s.volume.disk.find? q = some .directory

lemma mem_pages : p ∈ e.pages s ↔
    ∃ pages, FileStore.find s.volume e.inputFolder pageEnding = .ok pages ∧ p ∈ pages := by
  rw [pages]
  cases FileStore.find s.volume e.inputFolder pageEnding <;> simp

/-- A page that is found lies below the input folder. -/
lemma found (hnamed : s.volume.IsNamed) (hrooted : s.volume.disk.IsRooted) (hp : p ∈ e.pages s) :
    e.Found s p := by
  obtain ⟨pages, hfind, hp⟩ := mem_pages.mp hp
  obtain ⟨place, hlocate, hdirectory, hpages⟩ := find_eq_ok hfind
  obtain rfl := Volume.locate_eq_placeOf hlocate
  have hplain := (find_named hnamed (Path.ofText_plain _) hfind p hp).1
  obtain ⟨names, hnames, rfl⟩ := hpages p hp
  have hentry := filesUnder_named hnamed _ names hnames
  obtain ⟨hmem, hne⟩ := Disk.mem_places_of_filesUnder hnames
  have hplace : s.volume.placeOf { e.inputFolder with parts := e.inputFolder.parts ++ names }
      = s.volume.placeOf e.inputFolder ++ names :=
    Volume.placeOf_append e.inputFolder fun n hn => (hentry n hn).1
  refine ⟨hplain, ?_, ?_, fun q hq hnot => ?_⟩
  · rw [hplace]
    exact List.prefix_append _ _
  · rw [hplace]
    exact (Disk.mem_places (by simp [hne])).mp hmem
  · obtain ⟨-, -, hwalk⟩ := Volume.locate_eq_ok.mp hlocate
    rw [hplace] at hnot
    rcases Disk.mem_trail_append hq with hq | hq
    · rcases Disk.directory_of_walk hwalk q hq with hdir | rfl
      · exact hdir
      · exact hdirectory
    · exact hrooted.above hmem (Disk.prefix_of_mem_trail (fun n hn => (hentry n hn).1) hq) hnot

end Exporter

end PageNotes
