import PageNotes.Export.Exporter
import PageNotes.Proofs.Session.Growth

/-!
How the disk grows in an export. Copies, notes, their directories and the log are all that is put
there, so nothing is taken away.

* `FileStore.writeOutput_grows`, `FileStore.copyAsset_grows`: a note and a copy;
* `Exporter.exportFile_grows`: a page.
-/

namespace PageNotes

variable {s : Session}

namespace FileStore

variable (store : FileStore)

lemma ensureDirectory_grows (s : Session) (p : Path) :
    s.volume.disk.Grows (ensureDirectory s p).2.volume.disk :=
  s.volume.makeDirectory_grows p

lemma save_grows (s : Session) (p : Path) (content : Text) :
    s.volume.disk.Grows (store.save s p content).2.volume.disk := by
  have hmade := ensureDirectory_grows s p.parent
  rw [save]
  generalize ensureDirectory s p.parent = made at hmade
  obtain ⟨result, s₁⟩ := made
  cases result with
  | error e => exact hmade
  | ok =>
      dsimp only
      cases hopen : s₁.volume.write p [] with
      | error e => exact hmade
      | ok emptied =>
          have hemptied := hmade.trans (Volume.write_grows hopen)
          dsimp only
          split
          · exact hemptied
          · split
            · exact hemptied
            · exact hemptied.trans (Volume.write_grows ‹_›)

lemma writeOutput_grows (s : Session) (p : Path) (content : Text) :
    s.volume.disk.Grows (store.writeOutput s p content).2.volume.disk := by
  have hsave := store.save_grows s p content
  rw [writeOutput]
  generalize store.save s p content = saved at hsave
  obtain ⟨result, s₁⟩ := saved
  cases result with
  | ok => exact hsave
  | error cause =>
      cases cause with
      | unwritable path cause => exact hsave.trans (s₁.log_grows _ _ _)
      | noDirectory | unreadable | undecodable | unencodable | disk => exact hsave

lemma copyAsset_grows (s : Session) (source directory : Path) (name : Option Text) :
    s.volume.disk.Grows (store.copyAsset s source directory name).2.volume.disk := by
  have hmade := ensureDirectory_grows s (copyTarget source directory name).parent
  rw [copyAsset]
  generalize ensureDirectory s (copyTarget source directory name).parent = made at hmade
  obtain ⟨result, s₁⟩ := made
  have hlogged := fun message => hmade.trans (s₁.log_grows .error store.channel message)
  cases result with
  | error e =>
      cases e with
      | nullCharacter => exact hmade
      | refused | sameFile => exact hlogged _
  | ok =>
      dsimp only
      cases hcopy : s₁.volume.copy source (copyTarget source directory name) with
      | error e =>
          cases e with
          | nullCharacter => exact hmade
          | refused | sameFile => exact hlogged _
      | ok v =>
          exact (hmade.trans (Volume.copy_grows hcopy)).trans
            ((onVolume s₁ v).log_grows _ _ _)

end FileStore

namespace Tracker

/-- What is logged between pages. -/
lemma record_grows (t : Tracker) (o : Outcome) (s : Session) :
    s.volume.disk.Grows (t.record o s).2.2.volume.disk := by
  have hfailure := s.writeAll_grows (failureEntries o)
  rw [record]
  by_cases h : (t.count o).reportEvery = 0
  · simpa only [h, if_true] using hfailure
  · simpa only [h, if_false] using hfailure.trans (Session.writeAll_grows _ _)

lemma exit_grows (t : Tracker) (clock : Binary64) (s : Session) :
    s.volume.disk.Grows (t.exit clock s).2.volume.disk := by
  rw [exit]
  split_ifs
  · exact .refl _
  · split
    · exact .refl _
    · exact Session.log_grows _ _ _ _

end Tracker

namespace Exporter

variable (e : Exporter)

lemma copyAssets_grows (s : Session) (assets : List Asset) :
    s.volume.disk.Grows (e.copyAssets s assets).2.volume.disk := by
  induction assets generalizing s with
  | nil => exact .refl _
  | cons a rest ih =>
      have hfirst := e.store.copyAsset_grows s a.resolved e.imageFolder (some a.fileName)
      rw [copyAssets]
      generalize e.store.copyAsset s a.resolved e.imageFolder (some a.fileName) = first at hfirst
      obtain ⟨result, s₁⟩ := first
      cases result with
      | error cause => exact hfirst
      | ok copied =>
          have hrest := hfirst.trans (ih s₁)
          dsimp only
          generalize e.copyAssets s₁ rest = more at hrest
          obtain ⟨result, s₂⟩ := more
          cases result with
          | error cause => exact hrest
          | ok counts =>
              dsimp only
              split <;> exact hrest

lemma deliver_grows (s : Session) (c : Conversion) :
    s.volume.disk.Grows (e.deliver s c).2.volume.disk := by
  have hcopies := e.copyAssets_grows s c.assets
  rw [deliver]
  generalize e.copyAssets s c.assets = copies at hcopies
  obtain ⟨result, s₁⟩ := copies
  cases result with
  | error cause => exact hcopies
  | ok counts =>
      dsimp only
      have hwrites := hcopies.trans (e.store.writeOutput_grows s₁
        (e.outputPath s₁.workingPath c.source) c.note.text)
      generalize e.store.writeOutput s₁ (e.outputPath s₁.workingPath c.source) c.note.text
        = written at hwrites
      obtain ⟨result, s₂⟩ := written
      cases result with
      | error cause => exact hwrites
      | ok done =>
          cases done with
          | false => exact hwrites
          | true => exact hwrites.trans (s₂.log_grows _ _ _)

/-- The disk grows when a page is exported. -/
lemma exportFile_grows (s : Session) (source : Path) :
    s.volume.disk.Grows (e.exportFile s source).2.volume.disk := by
  rw [exportFile]
  split
  · exact s.log_grows _ _ _
  · exact s.log_grows _ _ _
  · exact .refl _
  · split
    · exact (s.writeAll_grows _).trans (Session.log_grows _ _ _ _)
    · exact (s.writeAll_grows _).trans (e.deliver_grows _ _)

end Exporter

end PageNotes
