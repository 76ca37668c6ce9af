import PageNotes.Proofs.Export.Assets

/-!
Where notes go. The note of a page mirrors the directory of the page below the folder of notes, and
its name is the slug of the page, so two pages have one note just when they have one directory and
one slug.

* `noteName_isName`: the name of a note is a name;
* `Exporter.slot`: the directory and the slug of a page;
* `Exporter.outputPath_eq_iff`: two pages have one note when they have one slot.
-/

namespace PageNotes

/-! ### Slugs as names -/

/-- The name of a note is a name. -/
lemma noteName_isName (source : Path) : IsName (noteName source) := by
  have hlast : (noteName source).getLast? = some 'd' := by
    rw [noteName, List.getLast?_append]
    rfl
  refine ⟨⟨fun h => ?_, fun h => ?_, fun h => ?_⟩, fun h => ?_⟩
  · rw [h] at hlast
    simp at hlast
  · rw [h] at hlast
    simp at hlast
  · rcases List.mem_append.mp h with h | h
    · have := isSlugChar_of_mem h
      revert this
      decide +kernel
    · revert h
      decide
  · rw [h] at hlast
    simp at hlast

namespace Exporter

variable {e : Exporter} {s : Session} {working source : Path}

/-! ### Slots -/

/-- The directory of a page below the input folder, and its slug. -/
def slot (e : Exporter) (working source : Path) : List Text × Text :=
  ((e.relativeDirectory working source).parts, slugify source.stem)

lemma relativeDirectory_root (e : Exporter) (working source : Path) :
    (e.relativeDirectory working source).root = .relative := by
  rw [relativeDirectory]
  split
  · rfl
  · split <;> rfl

/-- The names of the path of a note. -/
lemma outputPath_eq (e : Exporter) (working source : Path) :
    e.outputPath working source = ⟨e.outputFolder.root,
      e.outputFolder.parts ++ (e.relativeDirectory working source).parts ++ [noteName source]⟩ := by
  rw [outputPath, Path.child_eq _ (noteName_isName source).1, Path.join, if_neg]
  rw [Path.isAbsolute, relativeDirectory_root]
  decide

/-- Two pages have one note when they have one slot. -/
theorem outputPath_eq_iff {p q : Path} :
    e.outputPath working p = e.outputPath working q ↔ e.slot working p = e.slot working q := by
  rw [outputPath_eq, outputPath_eq, slot, slot, Path.mk.injEq, Prod.mk.injEq]
  constructor
  · rintro ⟨-, h⟩
    obtain ⟨hdirectory, hname⟩ := List.append_inj' h (by simp)
    rw [noteName, noteName, List.cons.injEq] at hname
    exact ⟨List.append_cancel_left hdirectory, List.append_cancel_right hname.1⟩
  · rintro ⟨hdirectory, hslug⟩
    rw [hdirectory, noteName, noteName, hslug]
    exact ⟨rfl, rfl⟩

/-- The directory of a page that was read has names alone. -/
lemma relativeDirectory_names (e : Exporter) (working : Path)
    (hworking : ∀ name ∈ working.parts, IsName name)
    (habs : working.isAbsolute = true) (hsource : ∀ name ∈ source.parts, IsPlain name) :
    ∀ name ∈ (e.relativeDirectory working source).parts, IsName name := by
  have hresolved : ∀ name ∈ (Path.resolve working source).parts, IsName name :=
    Path.normalize_names (Path.join_isAbsolute habs)
      (Path.join_plain (fun n hn => (hworking n hn).1) hsource)
  rw [relativeDirectory]
  split
  · simp
  · split
    · rename_i names hnames
      rw [Path.relativeTo?] at hnames
      split_ifs at hnames
      obtain rfl := Option.some.inj hnames
      exact fun name hname =>
        hresolved name (List.dropLast_subset _ (List.mem_of_mem_drop hname))
    · simp

/-! ### Places of notes -/

/-- The directory of the note of a page. -/
def noteDirectory (e : Exporter) (working source : Path) : Path :=
  ⟨e.outputFolder.root, e.outputFolder.parts ++ (e.relativeDirectory working source).parts⟩

/-- A note is called by its name in its directory. -/
lemma outputPath_child (e : Exporter) (working source : Path) :
    e.outputPath working source = (e.noteDirectory working source).child (noteName source) := by
  rw [outputPath_eq, Path.child_eq _ (noteName_isName source).1]
  rfl

/-- The place of the note of a page that was read. -/
lemma placeOf_outputPath (hworking : ∀ name ∈ s.volume.working, IsName name) {source : Path}
    (hsource : ∀ name ∈ source.parts, IsPlain name) :
    s.volume.placeOf (e.outputPath s.workingPath source) = s.volume.placeOf e.outputFolder ++
      ((e.relativeDirectory s.workingPath source).parts ++ [noteName source]) := by
  have hstart : s.volume.startOf (e.outputPath s.workingPath source)
      = s.volume.startOf e.outputFolder := by
    rw [outputPath_eq]
    rfl
  have hnames : ∀ name ∈ (e.relativeDirectory s.workingPath source).parts ++ [noteName source],
      IsName name := by
    intro name hname
    rcases List.mem_append.mp hname with hname | hname
    · exact relativeDirectory_names e s.workingPath hworking rfl hsource name hname
    · exact List.mem_singleton.mp hname ▸ noteName_isName source
  rw [Volume.placeOf, hstart, outputPath_eq, List.append_assoc, Disk.leadsTo_append,
    Disk.leadsTo_names _ hnames, ← Volume.placeOf]

/-- Pages of one place have one slot. -/
lemma slot_eq_of_place (hworking : ∀ name ∈ s.volume.working, IsName name) {p q : Path}
    (hp : ∀ name ∈ p.parts, IsPlain name) (hq : ∀ name ∈ q.parts, IsPlain name)
    (h : s.volume.placeOf (e.outputPath s.workingPath p)
      = s.volume.placeOf (e.outputPath s.workingPath q)) :
    e.slot s.workingPath p = e.slot s.workingPath q := by
  rw [placeOf_outputPath hworking hp, placeOf_outputPath hworking hq] at h
  rw [← outputPath_eq_iff, outputPath_eq, outputPath_eq, List.append_assoc,
    List.append_cancel_left h, ← List.append_assoc]

end Exporter

end PageNotes
