import PageNotes.Proofs.Export.Outputs
import PageNotes.Proofs.Export.Overwriting

/-!
Errors that escape. What goes wrong with a page is its outcome, but for two things: a path with a
null character, and a note with a character that the encoding of the store lacks. Their errors
escape from the export of the page.

* `FileStore.copyAsset_error_iff`, `FileStore.writeOutput_error_iff`: the errors of the steps;
* `Exporter.Escapes`: the errors that escape from the export of a page;
* `Exporter.exportFile_error_iff`: they are all the errors that an export gives;
* `Exporter.exportFile_endsWith`: otherwise it has an outcome, whose status tells how far it came.
-/

namespace PageNotes

open Session (Agrees)

/-! ### The steps of an export -/

namespace FileStore

variable {store : FileStore} {s : Session} {v : Volume} {p source directory : Path}
  {name content : Text} {cause : StoreError}

lemma load_null {path : Text} :
    store.load v path = .error (.disk .nullCharacter) ↔ (Path.ofText path).hasNull = true := by
  rw [← Volume.read_null (v := v), load]
  cases v.read (.ofText path) with
  | error e => cases e <;> simp [refuse]
  | ok bytes =>
      dsimp only
      split <;> simp

/-- Copying a file gives no error but the one for a directory with a null character. -/
lemma copyAsset_error_iff (hsource : source.hasNull = false) (hname : IsPlain name)
    (hnull : '\x00' ∉ name) :
    (store.copyAsset s source directory (some name)).1 = .error cause ↔
      directory.hasNull = true ∧ cause = .disk .nullCharacter := by
  have htarget : copyTarget source directory (some name) = directory.child name := by
    rw [copyTarget]
    exact fun hnil => hname.1 hnil
  have hdirectory := ensureDirectory_null (s := s) (p := directory)
  rw [copyAsset, htarget, Path.parent_child _ hname]
  cases hmade : ensureDirectory s directory with
  | mk result s₁ =>
      rw [hmade] at hdirectory
      cases result with
      | error e =>
          cases e with
          | nullCharacter => simp [hdirectory.mp rfl, eq_comm]
          | refused | sameFile => simp [← hdirectory]
      | ok =>
          have hnone : directory.hasNull = false :=
            Bool.eq_false_iff.mpr fun hnull => by simpa using hdirectory.mpr hnull
          have hchild : (directory.child name).hasNull = false := by
            rw [Path.child_eq _ hname, Bool.eq_false_iff, Ne, Path.hasNull_append]
            rintro (hup | hlast)
            · rw [hnone] at hup
              simp at hup
            · simp [Path.hasNull, hnull] at hlast
          dsimp only
          cases hcopy : s₁.volume.copy source (directory.child name) with
          | ok v => simp [hnone]
          | error e =>
              have hother : e ≠ .nullCharacter := fun he => by
                rw [he, Volume.copy_null] at hcopy
                simp [hsource, hchild] at hcopy
              cases e with
              | nullCharacter => exact absurd rfl hother
              | refused | sameFile => simp [hnone]

/-- Writing a note whose name has no null character gives an error for a directory with one, and for
a text with a character that the encoding lacks where an empty note could be written. -/
lemma writeOutput_error_iff (hname : p.hasNull = true ↔ p.parent.hasNull = true) :
    (store.writeOutput s p content).1 = .error cause ↔
      (p.hasNull = true ∧ cause = .disk .nullCharacter) ∨
        ∃ e, store.encoding.encode content = .error e ∧ cause = .unencodable e ∧
          (store.writeOutput s p []).1 = .ok true := by
  rw [writeOutput_escapes_iff]
  constructor
  · intro h
    cases h with
    | directory h => exact Or.inl ⟨hname.mpr h, rfl⟩
    | file hmade h => exact Or.inl ⟨h, rfl⟩
    | text hopen he => exact Or.inr ⟨_, he, rfl, hopen⟩
  · rintro (⟨hnull, rfl⟩ | ⟨e, he, rfl, hopen⟩)
    · exact .directory (hname.mp hnull)
    · exact .text hopen he

end FileStore

namespace Exporter

variable {e : Exporter} {s s₁ : Session} {source : Path} {c : Conversion} {cause : StoreError}
  {assets : List Asset} {o : Outcome}

/-- Copying assets gives no error but the one for an image folder with a null character. -/
lemma copyAssets_error_iff
    (hassets : ∀ a ∈ assets, a.resolved.hasNull = false ∧ IsPlain a.fileName) :
    (e.copyAssets s assets).1 = .error cause ↔
      assets ≠ [] ∧ e.imageFolder.hasNull = true ∧ cause = .disk .nullCharacter := by
  induction assets generalizing s with
  | nil => simp [copyAssets]
  | cons a rest ih =>
      obtain ⟨hsource, hname⟩ := hassets a (by simp)
      have hfirst : ∀ cause, (e.store.copyAsset s a.resolved e.imageFolder (some a.fileName)).1
          = .error cause ↔ e.imageFolder.hasNull = true ∧ cause = .disk .nullCharacter :=
        fun cause => FileStore.copyAsset_error_iff hsource hname (Path.name_noNull hsource)
      rw [copyAssets]
      generalize e.store.copyAsset s a.resolved e.imageFolder (some a.fileName) = first at hfirst
      obtain ⟨result, s₁⟩ := first
      cases result with
      | error cause' =>
          obtain ⟨hnull, rfl⟩ := (hfirst cause').mp rfl
          simp [hnull, eq_comm]
      | ok copied =>
          -- the first copy shows that the folder has no null character, so no other copy fails
          have hnone : ¬e.imageFolder.hasNull = true := fun hnull => by
            simpa using (hfirst (.disk .nullCharacter)).mpr ⟨hnull, rfl⟩
          have hrest := ih (s := s₁) fun b hb => hassets b (by simp [hb])
          dsimp only
          generalize e.copyAssets s₁ rest = more at hrest
          obtain ⟨result, s₂⟩ := more
          cases result with
          | error cause' =>
              exact iff_of_false (fun h => hnone (hrest.mp h).2.1) fun h => hnone h.2.1
          | ok counts =>
              dsimp only
              split <;> simp [hnone]

/-- The name of a note has no null character. -/
lemma noteName_noNull (source : Path) : '\x00' ∉ noteName source := by
  intro h
  rcases List.mem_append.mp h with h | h
  · have := isSlugChar_of_mem h
    revert this
    decide +kernel
  · revert h
    decide

/-- The path of a note has a null character just when that of its directory has one. -/
lemma outputPath_hasNull (e : Exporter) (working source : Path) :
    (e.outputPath working source).hasNull = true ↔
      (e.outputPath working source).parent.hasNull = true := by
  refine ⟨fun h => ?_, Path.hasNull_parent⟩
  rw [outputPath_child, Path.parent_child _ (noteName_isName source).1]
  rw [outputPath_child, Path.child_eq _ (noteName_isName source).1, Path.hasNull_append] at h
  refine h.resolve_right fun hname => ?_
  simp [Path.hasNull, noteName_noNull] at hname

/-! ### Deliveries -/

/-- The error of a delivery is that of a copy or that of the note. -/
lemma deliver_error_iff :
    (e.deliver s c).1 = .error cause ↔
      (e.copyAssets s c.assets).1 = .error cause ∨
        ∃ counts s₁, e.copyAssets s c.assets = (.ok counts, s₁) ∧
          (e.store.writeOutput s₁ (e.outputPath s₁.workingPath c.source) c.note.text).1
            = .error cause := by
  have hway := delivers e s c
  generalize e.deliver s c = result at hway ⊢
  cases hway with
  | stopped h => simp [h]
  | raised h h' => simp [h, h']
  | unwritten h h' => simp [h, h']
  | written h h' => simp [h, h']

/-! ### Errors that escape -/

/-- The errors that escape from the export of a page. -/
inductive Escapes (e : Exporter) (s : Session) (source : Path) : StoreError → Prop
  /-- The path of the page has a null character. -/
  | page (h : source.hasNull = true) : Escapes e s source (.disk .nullCharacter)
  /-- There are assets to copy to a path with a null character. -/
  | copies {c : Conversion} {s₁ : Session} (hdelivery : e.delivery? s source = some (c, s₁))
      (hassets : c.assets ≠ []) (h : e.imageFolder.hasNull = true) :
      Escapes e s source (.disk .nullCharacter)
  /-- The path of the note has a null character. -/
  | note {c : Conversion} {s₁ : Session} (hdelivery : e.delivery? s source = some (c, s₁))
      (h : (e.outputPath s.workingPath source).hasNull = true) :
      Escapes e s source (.disk .nullCharacter)
  /-- The note has a character that the encoding lacks, and could be written if it were empty. -/
  | text {c : Conversion} {s₁ s₂ : Session} {counts : Nat × List Warning} {cause : EncodeError}
      (hdelivery : e.delivery? s source = some (c, s₁))
      (hcopies : e.copyAssets s₁ c.assets = (.ok counts, s₂))
      (hencode : e.store.encoding.encode c.note.text = .error cause)
      (hopen : (e.store.writeOutput s₂ (e.outputPath s.workingPath source) []).1 = .ok true) :
      Escapes e s source (.unencodable cause)

/-- The assets of a page that is delivered have names without null characters. -/
lemma delivery?_assets (hworking : ∀ name ∈ s.volume.working, IsName name)
    (hsource : ∀ name ∈ source.parts, IsPlain name) (h : e.delivery? s source = some (c, s₁)) :
    c.source = source ∧ ∀ a ∈ c.assets, a.resolved.hasNull = false ∧ IsPlain a.fileName := by
  have hconversion : e.conversion s source = some c := by rw [conversion_eq_delivery, h]; rfl
  obtain ⟨html, -, hend, hc, hassets, -⟩ := conversion_eq_some hconversion
  refine ⟨hc, fun a ha => ?_⟩
  rw [← Path.ofText_toText hsource] at hend hassets
  rw [hassets] at ha
  obtain ⟨hnamed, bytes, hread⟩ := asset_isNamed hworking hend ha
  refine ⟨Bool.eq_false_iff.mpr fun hnull => ?_, hnamed.fileName.1⟩
  rw [Volume.read_null.mpr hnull] at hread
  simp at hread

variable (hworking : ∀ name ∈ s.volume.working, IsName name)
include hworking

/-- The errors that escape from a delivery. -/
lemma deliver_escapes (hsource : ∀ name ∈ source.parts, IsPlain name)
    (hpage : source.hasNull = false) (h : e.delivery? s source = some (c, s₁)) :
    (e.deliver s₁ c).1 = .error cause ↔ e.Escapes s source cause := by
  obtain ⟨hc, hassets⟩ := delivery?_assets hworking hsource h
  have hwritten : ∀ {counts : Nat × List Warning} {s₂ : Session},
      e.copyAssets s₁ c.assets = (.ok counts, s₂) →
        ((e.store.writeOutput s₂ (e.outputPath s₂.workingPath c.source) c.note.text).1
            = .error cause ↔
          ((e.outputPath s.workingPath source).hasNull = true ∧ cause = .disk .nullCharacter) ∨
            ∃ a, e.store.encoding.encode c.note.text = .error a ∧ cause = .unencodable a ∧
              (e.store.writeOutput s₂ (e.outputPath s.workingPath source) []).1 = .ok true) := by
    intro counts s₂ hcopies
    have hcopied := e.copyAssets_changes s₁ c.assets
    rw [hcopies] at hcopied
    rw [workingPath_eq hcopied.toSameSetting,
      workingPath_eq (delivery?_agrees h).toSameSetting, hc]
    exact FileStore.writeOutput_error_iff (outputPath_hasNull e _ _)
  rw [deliver_error_iff, copyAssets_error_iff hassets]
  constructor
  · rintro (⟨hsome, hnull, rfl⟩ | ⟨counts, s₂, hcopies, hwrite⟩)
    · exact .copies h hsome hnull
    · rcases (hwritten hcopies).mp hwrite with ⟨hnull, rfl⟩ | ⟨a, hencode, rfl, hopen⟩
      · exact .note h hnull
      · exact .text h hcopies hencode hopen
  · intro hescapes
    cases hescapes with
    | page hnull => simp [hpage] at hnull
    | copies hdelivery hsome hnull =>
        simp only [h, Option.some.injEq, Prod.mk.injEq] at hdelivery
        exact Or.inl ⟨hdelivery.1 ▸ hsome, hnull, rfl⟩
    | note hdelivery hnull =>
        cases hcopies : e.copyAssets s₁ c.assets with
        | mk result s₂ =>
            cases result with
            | ok counts =>
                exact Or.inr ⟨counts, s₂, rfl, (hwritten hcopies).mpr (Or.inl ⟨hnull, rfl⟩)⟩
            | error cause' =>
                have hstopped := (copyAssets_error_iff hassets).mp (congrArg Prod.fst hcopies)
                exact Or.inl ⟨hstopped.1, hstopped.2.1, rfl⟩
    | text hdelivery hcopies hencode hopen =>
        simp only [h, Option.some.injEq, Prod.mk.injEq] at hdelivery
        obtain ⟨rfl, rfl⟩ := hdelivery
        exact Or.inr ⟨_, _, hcopies, (hwritten hcopies).mpr (Or.inr ⟨_, hencode, rfl, hopen⟩)⟩

/-- The errors that escape from a page are all the errors that its export gives. -/
lemma exportFile_error_iff (hsource : ∀ name ∈ source.parts, IsPlain name) :
    (e.exportFile s source).1 = .error cause ↔ e.Escapes s source cause := by
  have hpath := Path.ofText_toText hsource
  have hnull : e.store.load s.volume source.toText = .error (.disk .nullCharacter) ↔
      (Path.ofText source.toText).hasNull = true := FileStore.load_null
  rw [hpath] at hnull
  -- a page that is not delivered gives no error but for a null character in its path
  have hundelivered : ∀ {cause}, e.delivery? s source = none →
      e.Escapes s source cause → source.hasNull = true ∧ cause = .disk .nullCharacter := by
    intro cause hnone hescapes
    cases hescapes with
    | page h => exact ⟨h, rfl⟩
    | copies hdelivery | note hdelivery | text hdelivery => simp [hnone] at hdelivery
  have hway := ways e s source
  generalize e.exportFile s source = result at hway ⊢
  cases hway with
  | null h =>
      have hdelivery : e.delivery? s source = none := by rw [delivery?, h]
      constructor
      · intro heq
        rw [← Except.error.inj heq]
        exact .page (hnull.mp h)
      · intro hescapes
        rw [(hundelivered hdelivery hescapes).2]
  | unread h hcause =>
      have hdelivery : e.delivery? s source = none := by rw [delivery?, h]
      refine iff_of_false (by simp) fun hescapes => hcause ?_
      have hload := hnull.mpr (hundelivered hdelivery hescapes).1
      exact Except.error.inj (h.symm.trans hload)
  | unconverted h hdelivery =>
      refine iff_of_false (by simp) fun hescapes => ?_
      rw [hnull.mpr (hundelivered hdelivery hescapes).1] at h
      simp at h
  | delivered h hdelivery =>
      refine deliver_escapes hworking hsource (Bool.eq_false_iff.mpr fun hpage => ?_) hdelivery
      rw [hnull.mpr hpage] at h
      simp at h

omit hworking

/-! ### Outcomes -/

/-- The note of a page is written after the copies of its assets, or it is refused. -/
def Writes (e : Exporter) (s : Session) (source : Path) (written : Bool) : Prop :=
  ∃ c s₁ counts s₂, e.delivery? s source = some (c, s₁) ∧
    e.copyAssets s₁ c.assets = (.ok counts, s₂) ∧
      (e.store.writeOutput s₂ (e.outputPath s₂.workingPath c.source) c.note.text).1 = .ok written

/-- What has happened to a page with a status. -/
def EndsWith (e : Exporter) (s : Session) (source : Path) : Status → Prop
  | .readFailed => ∃ cause, e.store.load s.volume source.toText = .error cause
  | .conversionFailed =>
    (∃ html, e.store.load s.volume source.toText = .ok html) ∧ e.delivery? s source = none
  | .writeFailed => e.Writes s source false
  | .success => e.Writes s source true

/-- The status of an outcome tells how far the export came. -/
lemma exportFile_endsWith (h : (e.exportFile s source).1 = .ok o) :
    e.EndsWith s source o.status := by
  have hway := ways e s source
  generalize e.exportFile s source = result at hway h
  cases hway with
  | null => simp at h
  | unread hload _ _ _ hstatus =>
      obtain rfl := Except.ok.inj h
      rw [hstatus]
      exact ⟨_, hload⟩
  | unconverted hload hdelivery _ _ hstatus =>
      obtain rfl := Except.ok.inj h
      rw [hstatus]
      exact ⟨⟨_, hload⟩, hdelivery⟩
  | @delivered _ c s₁ _ hdelivery =>
      have hdelivers := delivers e s₁ c
      generalize e.deliver s₁ c = result at hdelivers h
      cases hdelivers with
      | stopped => simp at h
      | raised => simp at h
      | unwritten hcopies hwrite _ hstatus =>
          obtain rfl := Except.ok.inj h
          rw [hstatus]
          exact ⟨c, s₁, _, _, hdelivery, hcopies, congrArg Prod.fst hwrite⟩
      | written hcopies hwrite _ _ hstatus =>
          obtain rfl := Except.ok.inj h
          rw [hstatus]
          exact ⟨c, s₁, _, _, hdelivery, hcopies, congrArg Prod.fst hwrite⟩

end Exporter

end PageNotes
