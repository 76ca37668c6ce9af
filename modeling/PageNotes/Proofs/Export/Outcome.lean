import PageNotes.Proofs.Export.Assets
import PageNotes.Proofs.Reference.Candidates

/-!
The outcome of an export, held against what was done. What an outcome counts and warns of is read
off the copies as they were made, and what stands on the disk afterwards off its status.

* `Session.Appends`: files that only get more at their ends, as they do by logging;
* `Exporter.deliver_ok`: the outcome of a delivery, part by part;
* `Exporter.exportFile_outcome`: the whole account of an outcome.
-/

namespace PageNotes

open Session (Changes Agrees SameSetting)

/-! ### Files that grow at their ends -/

namespace Session

variable {s s' s'' : Session}

/-- Every file is still there, with more at its end if at all. -/
def Appends (s s' : Session) : Prop :=
  ∀ q content, s.volume.disk.find? q = some (.file content) →
    ∃ more, s'.volume.disk.find? q = some (.file (content ++ more))

lemma Appends.of_disk (h : s'.volume.disk = s.volume.disk) : s.Appends s' :=
  fun _ _ hfile => ⟨[], by rw [h, hfile, List.append_nil]⟩

lemma Appends.refl (s : Session) : s.Appends s := .of_disk rfl

lemma Appends.trans (h : s.Appends s') (h' : s'.Appends s'') : s.Appends s'' := by
  intro q content hfile
  obtain ⟨more, hmore⟩ := h q content hfile
  obtain ⟨last, hlast⟩ := h' q _ hmore
  exact ⟨more ++ last, by rw [hlast, List.append_assoc]⟩

lemma appendTo_appends (s : Session) (place : Place) (bytes : Bytes) :
    s.Appends (s.appendTo place bytes) := by
  rw [appendTo]
  split
  · rename_i old hold
    intro q content hfile
    have hroot : place ≠ [] := Disk.ne_root_of_find? (d := s.volume.disk) (by simp [hold])
    change ∃ more, (s.volume.disk.put place _).find? q = _
    rw [Disk.find?_put _ hroot]
    split_ifs with hq
    · subst hq
      obtain rfl : old = content := by simpa [hold] using hfile
      exact ⟨bytes, rfl⟩
    · exact ⟨[], by rw [hfile, List.append_nil]⟩
  · exact .refl s

lemma handle_appends (entry : LogEntry) (s : Session) (h : LogHandler) :
    s.Appends (s.handle entry h) := by
  rw [handle]
  split
  · exact .refl s
  · cases h.outlet with
    | console =>
        dsimp only
        split
        · exact .of_disk rfl
        · exact .refl s
    | file place =>
        dsimp only
        split
        · exact appendTo_appends s place _
        · exact .refl s

lemma write_appends (s : Session) (entry : LogEntry) : s.Appends (s.write entry) := by
  have fold : ∀ (hs : List LogHandler) (s : Session), s.Appends (hs.foldl (handle entry) s) := by
    intro hs
    induction hs with
    | nil => exact .refl
    | cons h hs ih => exact fun s => (handle_appends entry s h).trans (ih _)
  rw [write]
  split
  · exact .refl s
  · have hentry : s.Appends { s with entries := s.entries ++ [entry] } := .of_disk rfl
    dsimp only
    split
    · exact hentry.trans (fold _ _)
    · exact hentry

lemma log_appends (s : Session) (level : Level) (channel message : String) :
    s.Appends (s.log level channel message) :=
  write_appends s _

lemma writeAll_appends (s : Session) (entries : List LogEntry) :
    s.Appends (s.writeAll entries) := by
  rw [writeAll]
  induction entries generalizing s with
  | nil => exact .refl s
  | cons entry entries ih => exact (write_appends s entry).trans (ih _)

/-- What is read where only logs were written is what was read before, with more at its end only if
a log is there. -/
lemma Appends.read (h : s.Appends s') (hlog : s.Agrees s') {p : Path} {bytes : Bytes}
    (hread : s.volume.read p = .ok bytes) :
    ∃ more, s'.volume.read p = .ok (bytes ++ more) ∧
      (s.volume.placeOf p ∉ s.logFiles → more = []) := by
  obtain ⟨place, hloc, hfile⟩ := Volume.read_eq_ok.mp hread
  obtain rfl := Volume.locate_eq_placeOf hloc
  obtain ⟨more, hmore⟩ := h _ _ hfile
  have hloc' := Volume.locate_mono hlog.working (hlog.changes []).keepsDirectories hloc
  have hread' := Volume.read_eq_ok.mpr ⟨_, hloc', hmore⟩
  refine ⟨more, hread', fun hnot => ?_⟩
  have hsame := (hlog.changes []).read (by simp) hnot hread
  rw [hread', Except.ok.injEq] at hsame
  simpa using hsame

end Session

/-! ### Conversions -/

/-- Whatever channel it logs on, the conversion of a page is the same. -/
lemma Converter.run_fst (c : Converter) (channel : String) (source : Path) (html : Text) :
    (c.run channel source html).1 = c.convert source html := by
  rw [convert, run, run]
  dsimp only
  split
  · rfl
  · split
    · rfl
    · split <;> rfl

/-- A conversion warns of nothing but missing assets. -/
lemma Converter.convert_warnings {c : Converter} {source : Path} {html : Text}
    {conversion : Conversion} (h : c.convert source html = .ok conversion) :
    ∀ w ∈ conversion.warnings, w.kind = .missingAsset := by
  have hrun : c.run "" source html = (.ok conversion, (c.run "" source html).2) := by
    rw [← h, convert]
  obtain ⟨hend, -, -, hwarnings⟩ := Converter.run_ok hrun
  intro w hw
  rw [hwarnings, rewritten, Rewriting.warnings_eq hend] at hw
  obtain ⟨value, -, rfl⟩ := List.mem_map.mp hw
  rfl

namespace Exporter

variable {e : Exporter} {s s' : Session} {source : Path} {c : Conversion} {o : Outcome}

/-! ### Deliveries -/

/-- The outcome of a delivery: its copies, its warnings, and whether its note was written. -/
lemma deliver_ok (h : e.deliver s c = (.ok o, s')) :
    ∃ copies s₁ written s₂, CopiesEach e s copies s₁ ∧ copies.map Prod.fst = c.assets ∧
      e.store.writeOutput s₁ (e.outputPath s.workingPath c.source) c.note.text
        = (.ok written, s₂) ∧
      s₂.Agrees s' ∧ s₂.Appends s' ∧ o.status = (if written then .success else .writeFailed) ∧
      o.output = (if written then some (e.outputPath s.workingPath c.source) else none) ∧
      o.assetsCopied = (madeCopies copies).length ∧
      o.warnings = c.warnings ++ (failedCopies copies).map copyWarning := by
  rw [deliver] at h
  split at h
  · simp at h
  · rename_i copied failures s₁ hcopy
    obtain ⟨copies, hcopies, hassets, rfl, rfl⟩ := copiesEach_of_ok hcopy
    dsimp only at h
    rw [workingPath_eq hcopies.changes.toSameSetting] at h
    split at h
    · simp at h
    · rename_i s₂ hwrite
      simp only [Prod.mk.injEq, Except.ok.injEq] at h
      obtain ⟨rfl, rfl⟩ := h
      exact ⟨copies, s₁, false, s₂, hcopies, hassets, hwrite, .refl _, .refl _, rfl, rfl, rfl, rfl⟩
    · rename_i s₂ hwrite
      simp only [Prod.mk.injEq, Except.ok.injEq] at h
      obtain ⟨rfl, rfl⟩ := h
      exact ⟨copies, s₁, true, s₂, hcopies, hassets, hwrite, Session.log_agrees _ _ _ _,
        Session.log_appends _ _ _ _, rfl, rfl, rfl, rfl⟩

/-! ### Outcomes -/

/-- A page that was not read or not converted leaves everything as it was, but for more lines of the
log; any other is delivered. -/
lemma exportFile_ok (h : e.exportFile s source = (.ok o, s')) :
    ((o.status = .readFailed ∨ o.status = .conversionFailed) ∧ s.Agrees s' ∧ s.Appends s') ∨
      ∃ html c s₀, e.store.load s.volume source.toText = .ok html ∧
        (e.converter s).convert source html = .ok c ∧ c.source = source ∧ s.Agrees s₀ ∧
        e.deliver s₀ c = (.ok o, s') := by
  rw [exportFile] at h
  split at h
  · cases h
    exact Or.inl ⟨Or.inl rfl, Session.log_agrees _ _ _ _, Session.log_appends _ _ _ _⟩
  · cases h
    exact Or.inl ⟨Or.inl rfl, Session.log_agrees _ _ _ _, Session.log_appends _ _ _ _⟩
  · simp at h
  · rename_i html hload
    split at h
    · cases h
      exact Or.inl ⟨Or.inr rfl,
        (Session.writeAll_agrees _ _).trans (Session.log_agrees _ _ _ _),
        (Session.writeAll_appends _ _).trans (Session.log_appends _ _ _ _)⟩
    · rename_i c entries hrun
      have hconvert := Converter.run_fst (e.converter s) (subchannel e.channel "converter") source
        html
      rw [hrun] at hconvert
      exact Or.inr ⟨html, c, s.writeAll entries, hload, hconvert.symm, (Converter.run_ok hrun).2.1,
        Session.writeAll_agrees s entries, h⟩

/-- The places where files were put for a page that was delivered. -/
def placesPut (e : Exporter) (s : Session) (copies : List (Asset × Bool)) (o : Outcome) :
    List Place :=
  (madeCopies copies).map (fun a => s.volume.placeOf (e.assetTarget a)) ++
    if o.succeeded then [s.volume.placeOf (e.outputPath s.workingPath o.source)] else []

/-- The warnings about copies are as many as the copies that failed. -/
lemma countP_copyFailed {source : Path} {html : Text} {converter : Converter}
    (h : converter.convert source html = .ok c) (copies : List (Asset × Bool)) :
    (c.warnings ++ (failedCopies copies).map copyWarning).countP (·.kind = .copyFailed)
      = (failedCopies copies).length := by
  have hpage : c.warnings.countP (·.kind = .copyFailed) = 0 := by
    rw [List.countP_eq_zero]
    intro w hw
    simp [Converter.convert_warnings h w hw]
  have hcopies : ((failedCopies copies).map copyWarning).countP (·.kind = .copyFailed)
      = ((failedCopies copies).map copyWarning).length := by
    rw [List.countP_eq_length]
    intro w hw
    obtain ⟨a, -, rfl⟩ := List.mem_map.mp hw
    rfl
  rw [List.countP_append, hpage, hcopies, Nat.zero_add, List.length_map]

/-- **An outcome matches what was done.** A page that was not read or not converted leaves
everything as it was, but for more lines of the log. Any other was read and converted, and its
assets were copied one after another, each in vain or not: the copies that were made are counted,
those that failed are warned of in the order of the assets, after the warnings of the conversion,
and no files were put but the copies that were made and the note if there is one. A note that was
written has the text of the conversion in the encoding of the store; only if a log is written to the
same file, more follows. -/
theorem exportFile_outcome (h : e.exportFile s source = (.ok o, s')) :
    (o.status = .readFailed ∨ o.status = .conversionFailed → s.Agrees s' ∧ s.Appends s') ∧
    (o.status = .writeFailed ∨ o.status = .success → ∃ html c copies s₀ s₁,
      e.store.load s.volume source.toText = .ok html ∧
      (e.converter s).convert source html = .ok c ∧
      s.Agrees s₀ ∧ CopiesEach e s₀ copies s₁ ∧ copies.map Prod.fst = c.assets ∧
      o.assetsCopied = (madeCopies copies).length ∧
      o.assetsCopied + o.warnings.countP (·.kind = .copyFailed) = c.assets.length ∧
      o.warnings = c.warnings ++ (failedCopies copies).map copyWarning ∧
      Changes (e.placesPut s copies o) s s' ∧
      (o.status = .success → ∃ output bytes more,
        o.output = some output ∧ e.store.encoding.encode c.note.text = .ok bytes ∧
        s'.volume.read output = .ok (bytes ++ more) ∧
        (s.volume.placeOf output ∉ s.logFiles → more = []))) := by
  rcases exportFile_ok h with ⟨hfailed, hlog, happends⟩ |
    ⟨html, c, s₀, hload, hconvert, rfl, hlog, hdeliver⟩
  · refine ⟨fun _ => ⟨hlog, happends⟩, fun hstatus => ?_⟩
    rcases hfailed with hfailed | hfailed <;> simp [hfailed] at hstatus
  obtain ⟨copies, s₁, written, s₂, hcopies, hassets, hwrite, hend, happends, hwritten, houtput,
    hcount, hwarnings⟩ := deliver_ok hdeliver
  refine ⟨fun hstatus => ?_, fun _ => ?_⟩
  · cases written <;> simp [hwritten] at hstatus
  have hcopied := hcopies.changes
  have hset := hlog.toSameSetting.trans hcopied.toSameSetting
  have hnote := FileStore.writeOutput_changes e.store s₁ (e.outputPath s.workingPath c.source)
    c.note.text
  rw [workingPath_eq hlog.toSameSetting] at hwrite houtput
  rw [hwrite, Volume.placeOf_eq hset.working] at hnote
  refine ⟨html, c, copies, s₀, s₁, hload, hconvert, hlog, hcopies, hassets, hcount, ?_, hwarnings,
    ?_, ?_⟩
  · have hall := madeCopies_add_failedCopies copies
    rw [hwarnings, countP_copyFailed hconvert, hcount, ← hassets, List.length_map]
    omega
  · have hput := (hlog.changes []).trans hcopied
    rw [funext fun a => Volume.placeOf_eq hlog.working (e.assetTarget a)] at hput
    rw [placesPut, exportFile_source h]
    cases written with
    | false =>
        have hrest := (FileStore.writeOutput_refused [] hwrite).trans (hend.changes [])
        exact (hput.trans hrest).mono (by simp)
    | true =>
        refine (hput.trans (hnote.trans (hend.changes []))).mono ?_
        simp [Outcome.succeeded, hwritten]
  · intro hsuccess
    cases written with
    | false => simp [hwritten] at hsuccess
    | true =>
        obtain ⟨bytes, hbytes, hread⟩ := FileStore.writeOutput_written hwrite
        obtain ⟨more, hmore, hlogged⟩ := happends.read hend hread
        refine ⟨_, bytes, more, houtput, hbytes, hmore, fun hnot => hlogged ?_⟩
        have hset₂ := hset.trans hnote.toSameSetting
        rwa [Volume.placeOf_eq hset₂.working, hset₂.logFiles]

/-! ### A copy in vain -/

/-- The text of a page with an image, one that is missing, and one that is in the image folder. -/
def threeImages : Text := "<img src=x><img src=y><img src=output/images/z>".toList

/-- A disk with the page and two of its images. -/
def threeImagesSession : Session := .quiet ⟨⟨[
  ([['x']], .file [1]), (["output".toList], .directory),
  (["output".toList, "images".toList], .directory),
  (["output".toList, "images".toList, ['z']], .file [2]),
  ([['p']], .file (utf8Encode threeImages))]⟩, []⟩ .warning sampleMoment

/-- What becomes of the page. -/
def threeImagesOutcome : Outcome where
  source := .ofText ['p']
  status := .success
  output := some ⟨.relative, ["output".toList, "p.md".toList]⟩
  assetsCopied := 1
  warnings := [missingWarning (.ofText "/y".toList),
    copyWarning ⟨[], .ofText "/output/images/z".toList, []⟩]

set_option maxRecDepth 100000 in
/-- The page is exported though one of its images is missing and one cannot be copied to where it
is. -/
theorem exportFile_outcome_threeImages :
    ∃ html c copies, sample.store.load threeImagesSession.volume ['p'] = .ok html ∧
      (sample.converter threeImagesSession).convert (.ofText ['p']) html = .ok c ∧
      copies.map Prod.fst = c.assets ∧ (madeCopies copies).length = 1 ∧
      threeImagesOutcome.warnings = c.warnings ++ (failedCopies copies).map copyWarning := by
  have houtcome : (sample.exportFile threeImagesSession (.ofText ['p'])).1
      = .ok threeImagesOutcome := by
    decide +kernel
  have hexport : sample.exportFile threeImagesSession (.ofText ['p'])
      = (.ok threeImagesOutcome, (sample.exportFile threeImagesSession (.ofText ['p'])).2) := by
    rw [← houtcome]
  obtain ⟨-, hdone⟩ := exportFile_outcome hexport
  obtain ⟨html, c, copies, s₀, s₁, hload, hconvert, -, -, hassets, hmade, -, hwarnings, -⟩ :=
    hdone (Or.inr rfl)
  have hone : (1 : Int) = (madeCopies copies).length := hmade
  exact ⟨html, c, copies, hload, hconvert, hassets, by omega, hwarnings⟩

end Exporter

end PageNotes
