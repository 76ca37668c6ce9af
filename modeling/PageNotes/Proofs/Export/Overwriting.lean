import PageNotes.Proofs.Disk.Null
import PageNotes.Proofs.Export.Outcome
import PageNotes.Proofs.Export.Pages

/-!
Writing over files. A note that cannot be written for what stands on the disk leaves all files with
their contents, but for the lines that are logged about it. A note for which an error escapes does
not: where its text cannot be encoded, the file that was there is emptied.

* `Disk.KeepsFiles`, `Session.KeepsFiles`: files keep their contents, and logs at most get more;
* `FileStore.WriteEscapes`, `FileStore.writeOutput_escapes_iff`: the errors that escape;
* `FileStore.Writes`, `FileStore.writes`: how writing a note can go;
* `FileStore.writeOutput_harmless_iff`: when a note is written or nothing is damaged.
-/

namespace PageNotes

/-! ### Contents of files -/

namespace Disk

variable {targets : List Place} {d d' d'' : Disk}

/-- Files keep their contents but for those at some places. -/
def KeepsFiles (targets : List Place) (d d' : Disk) : Prop :=
  ∀ q ∉ targets, ∀ content, d.find? q = some (.file content) → d'.find? q = some (.file content)

lemma KeepsFiles.trans (h : KeepsFiles targets d d') (h' : KeepsFiles targets d' d'') :
    KeepsFiles targets d d'' :=
  fun q hq content hfile => h' q hq content (h q hq content hfile)

lemma AddsDirectories.keepsFiles (h : AddsDirectories d d') : KeepsFiles targets d d' :=
  fun _ _ _ hfile => h.file hfile

/-- A file that is put changes no other. -/
lemma keepsFiles_put {place : Place} (hplace : place ≠ []) (entry : Entry) :
    KeepsFiles [place] d (d.put place entry) := by
  intro q hq content hfile
  rwa [find?_put d hplace, if_neg (List.ne_of_not_mem_cons hq)]

end Disk

namespace Session

variable {s s' : Session}

/-- Files that are no logs keep their contents, and logs at most get more lines. -/
structure KeepsFiles (s s' : Session) : Prop where
  appends : s.Appends s'
  kept : s.volume.disk.KeepsFiles s.logFiles s'.volume.disk

lemma Appends.of_adds (h : Disk.AddsDirectories s.volume.disk s'.volume.disk) : s.Appends s' :=
  fun _ _ hfile => ⟨[], by rw [List.append_nil, h.file hfile]⟩

lemma Agrees.keepsFiles (h : s.Agrees s') :
    s.volume.disk.KeepsFiles s.logFiles s'.volume.disk := by
  intro q hq content hfile
  have hview := h.view q
  rwa [view_of_notMem hq, view_of_notMem (h.logFiles ▸ hq), hfile] at hview

end Session

namespace FileStore

variable {store : FileStore} {s s' : Session} {p : Path} {content : Text} {cause : StoreError}

/-! ### Directories and files -/

lemma encode_nil (encoding : Encoding) : encoding.encode [] = .ok [] := by
  cases encoding <;> rfl

lemma ensureDirectory_null :
    (ensureDirectory s p).1 = .error .nullCharacter ↔ p.hasNull = true :=
  Volume.makeDirectory_null

/-- Only the file that a path leads to is written. -/
lemma write_keepsFiles {v v' : Volume} {bytes : Bytes} (h : v.write p bytes = .ok v') :
    v.disk.KeepsFiles [v.placeOf p] v'.disk := by
  obtain ⟨place, hlocate, hdirectory, rfl⟩ := Volume.write_eq_ok.mp h
  rw [← Volume.locate_eq_placeOf hlocate]
  exact Disk.keepsFiles_put (Disk.ne_root_of_find? hdirectory) _

/-- An empty note can be written where a file can be opened in a directory that is there. -/
lemma writeOutput_nil_iff :
    (store.writeOutput s p []).1 = .ok true ↔ (ensureDirectory s p.parent).1 = .ok () ∧
      ∃ emptied, (ensureDirectory s p.parent).2.volume.write p [] = .ok emptied := by
  rw [writeOutput, save]
  cases ensureDirectory s p.parent with
  | mk result s₁ =>
      cases result with
      | error e => cases e <;> simp [refuse]
      | ok =>
          dsimp only
          cases hopen : s₁.volume.write p [] with
          | error e => cases e <;> simp [refuse]
          | ok emptied =>
              obtain ⟨v, hagain⟩ := write_again hopen []
              simp [encode_nil, hagain]

/-! ### Notes -/

/-- The errors that escape from writing a note. -/
inductive WriteEscapes (store : FileStore) (s : Session) (p : Path) (content : Text) :
    StoreError → Prop
  /-- The path of the directory has a null character. -/
  | directory (h : p.parent.hasNull = true) : WriteEscapes store s p content (.disk .nullCharacter)
  /-- The name of the file has one, and its directory is there. -/
  | file (hmade : (ensureDirectory s p.parent).1 = .ok ()) (h : p.hasNull = true) :
      WriteEscapes store s p content (.disk .nullCharacter)
  /-- The encoding lacks a character, where an empty note could be written. -/
  | text {e : EncodeError} (hopen : (store.writeOutput s p []).1 = .ok true)
      (he : store.encoding.encode content = .error e) :
      WriteEscapes store s p content (.unencodable e)

lemma WriteEscapes.error (h : store.WriteEscapes s p content cause) :
    (store.writeOutput s p content).1 = .error cause := by
  rw [writeOutput, save]
  cases h with
  | directory h =>
      have hmade : (ensureDirectory s p.parent).1 = .error .nullCharacter :=
        ensureDirectory_null.mpr h
      generalize ensureDirectory s p.parent = made at hmade
      obtain ⟨result, s₁⟩ := made
      cases hmade
      rfl
  | file hmade h =>
      generalize ensureDirectory s p.parent = made at hmade
      obtain ⟨result, s₁⟩ := made
      cases hmade
      dsimp only
      rw [Volume.write_null.mpr h]
      rfl
  | text hopen he =>
      obtain ⟨hmade, emptied, hopen⟩ := writeOutput_nil_iff.mp hopen
      generalize ensureDirectory s p.parent = made at hmade hopen
      obtain ⟨result, s₁⟩ := made
      cases hmade
      dsimp only at hopen ⊢
      rw [hopen]
      dsimp only
      rw [he]

/-- How writing a note can go, with the errors that escape. -/
inductive Writes (store : FileStore) (s : Session) (p : Path) (content : Text) :
    Except StoreError Bool × Session → Prop
  /-- The path has a null character; some directories may be new. -/
  | null {s' : Session} (hescapes : store.WriteEscapes s p content (.disk .nullCharacter))
      (h : s.volume.disk.KeepsFiles [] s'.volume.disk) :
      Writes store s p content (.error (.disk .nullCharacter), s')
  /-- The directory cannot be made, or the file cannot be opened. -/
  | refused {s' : Session} (h : s.KeepsFiles s') : Writes store s p content (.ok false, s')
  /-- The file is opened, but there is nothing to write. -/
  | emptied {e : EncodeError} {s' : Session}
      (hescapes : store.WriteEscapes s p content (.unencodable e))
      (h : s.volume.disk.KeepsFiles [s.volume.placeOf p] s'.volume.disk)
      (hread : s'.volume.read p = .ok []) :
      Writes store s p content (.error (.unencodable e), s')
  | written {bytes : Bytes} {s' : Session}
      (h : s.volume.disk.KeepsFiles [s.volume.placeOf p] s'.volume.disk)
      (he : store.encoding.encode content = .ok bytes) (hread : s'.volume.read p = .ok bytes) :
      Writes store s p content (.ok true, s')

/-- Writing a note goes in one of these ways. -/
lemma writes (store : FileStore) (s : Session) (p : Path) (content : Text) :
    Writes store s p content (store.writeOutput s p content) := by
  have hadds : Disk.AddsDirectories s.volume.disk (ensureDirectory s p.parent).2.volume.disk :=
    (Volume.makeDirectory_adds s.volume p.parent).2
  have hsetting := (ensureDirectory_changes s p.parent []).toSameSetting
  have hdirectory := ensureDirectory_null (s := s) (p := p.parent)
  have hempty : (store.writeOutput s p []).1 = .ok true ↔ _ := writeOutput_nil_iff
  rw [writeOutput, save]
  cases hmade : ensureDirectory s p.parent with
  | mk result s₁ =>
      rw [hmade] at hadds hsetting hdirectory hempty
      dsimp only at hadds hsetting
      have hplace : s₁.volume.placeOf p = s.volume.placeOf p :=
        Volume.placeOf_eq hsetting.working p
      have hlogged : ∀ message, s.KeepsFiles (s₁.log .error store.channel message) := by
        intro message
        have hagrees := (s₁.log_agrees .error store.channel message).keepsFiles
        rw [hsetting.logFiles] at hagrees
        exact ⟨(Session.Appends.of_adds hadds).trans (s₁.log_appends _ _ _),
          hadds.keepsFiles.trans hagrees⟩
      cases result with
      | error e =>
          cases e with
          | nullCharacter => exact .null (.directory (hdirectory.mp rfl)) hadds.keepsFiles
          | refused | sameFile => exact .refused (hlogged _)
      | ok =>
          dsimp only
          cases hopen : s₁.volume.write p [] with
          | error e =>
              cases e with
              | nullCharacter =>
                  have hmade : (ensureDirectory s p.parent).1 = .ok () := by rw [hmade]
                  exact .null (.file hmade (Volume.write_null.mp hopen)) hadds.keepsFiles
              | refused | sameFile => exact .refused (hlogged _)
          | ok v =>
              have hemptied := write_keepsFiles hopen
              rw [hplace] at hemptied
              dsimp only
              cases hencode : store.encoding.encode content with
              | error e =>
                  exact .emptied (.text (hempty.mpr ⟨rfl, v, hopen⟩) hencode)
                    (hadds.keepsFiles.trans hemptied) (read_write hopen)
              | ok bytes =>
                  obtain ⟨v', hv'⟩ := write_again hopen bytes
                  have hwritten := write_keepsFiles hv'
                  have hsame : v.placeOf p = s.volume.placeOf p :=
                    Volume.placeOf_eq ((write_changes hopen).working.trans hsetting.working) p
                  rw [hsame] at hwritten
                  dsimp only
                  rw [hv']
                  exact .written ((hadds.keepsFiles.trans hemptied).trans hwritten) hencode
                    (read_write hv')

/-- Writing a note gives the errors that escape, and no others. -/
lemma writeOutput_escapes_iff :
    (store.writeOutput s p content).1 = .error cause ↔ store.WriteEscapes s p content cause := by
  refine ⟨fun h => ?_, WriteEscapes.error⟩
  have hway := writes store s p content
  generalize store.writeOutput s p content = result at hway h
  cases hway with
  | null hescapes | emptied hescapes => exact Except.error.inj h ▸ hescapes
  | refused | written => cases h

/-- A note is written, and no other file changes; or it is not, and no file loses anything. -/
def WritesOrKeeps (store : FileStore) (s : Session) (p : Path) (content : Text) : Prop :=
  (∃ bytes s', store.writeOutput s p content = (.ok true, s') ∧
    store.encoding.encode content = .ok bytes ∧ s'.volume.read p = .ok bytes ∧
      s.volume.disk.KeepsFiles [s.volume.placeOf p] s'.volume.disk) ∨
  ∃ s', store.writeOutput s p content = (.ok false, s') ∧ s.KeepsFiles s'

/-- A store whose encoding has few characters. -/
def plainStore : FileStore := { encoding := .ascii }

/-- A session with a note on its disk. -/
def noteSession : Session := Exporter.sampleSession [(['n'], "old".toList)]

/-- What is wrong with an accented letter. -/
def accentedError : EncodeError := ⟨.ascii, 0, ['é'], 128⟩

end FileStore

end PageNotes
