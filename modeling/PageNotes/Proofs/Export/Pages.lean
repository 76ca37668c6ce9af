import PageNotes.Proofs.Export.Effects

/-!
One page. An export reads the page, converts it, and then delivers it; before the delivery nothing
is changed but the log.

* `Converter.rewritten`: the page with its references rewritten, as it is rendered;
* `Exporter.conversion`: the conversion of a page as the disk stands;
* `Exporter.ways`, `Exporter.exports`: how the export of a page can go;
* `Exporter.exportFile_changes`: an export puts no files but those that its page is delivered to;
* `Exporter.exportFile_success`: a page that is exported has its note in its place.
-/

namespace PageNotes

open Session (Changes Agrees SameSetting)

/-! ### Conversions -/

/-- The page with its references rewritten. -/
def Converter.rewritten (c : Converter) (source : Path) (html : Text) : Rewriting :=
  Rewriting.of (c.rewriting source)
    (Content.sanitize c.config.content (Document.parse html)).document

/-- A page that is converted has the assets and warnings of its references. -/
lemma Converter.run_ok {c : Converter} {channel : String} {source : Path} {html : Text}
    {conversion : Conversion} {entries : List LogEntry}
    (h : c.run channel source html = (.ok conversion, entries)) :
    (c.rewritten source html).search.failure = none ∧ conversion.source = source ∧
      conversion.assets = (c.rewritten source html).search.assets ∧
        conversion.warnings = (c.rewritten source html).search.warnings := by
  rw [run] at h
  dsimp only at h
  split at h
  · simp at h
  · split at h
    · simp at h
    · rename_i hfailure
      split at h
      · simp at h
      · simp only [Prod.mk.injEq, Except.ok.injEq] at h
        obtain ⟨rfl, -⟩ := h
        exact ⟨hfailure, rfl, rfl, rfl⟩

/-- A page is not read for one of three reasons. -/
lemma FileStore.load_error {store : FileStore} {v : Volume} {path : Text} {cause : StoreError}
    (h : store.load v path = .error cause) :
    (∃ e, cause = .unreadable path e) ∨ (∃ e, cause = .undecodable path e) ∨
      cause = .disk .nullCharacter := by
  rw [load] at h
  cases hread : v.read (.ofText path) with
  | error e =>
      rw [hread] at h
      cases e with
      | nullCharacter => exact Or.inr (Or.inr (Except.error.inj h).symm)
      | refused | sameFile => exact Or.inl ⟨_, (Except.error.inj h).symm⟩
  | ok bytes =>
      rw [hread] at h
      dsimp only at h
      split at h
      · exact Or.inr (Or.inl ⟨_, (Except.error.inj h).symm⟩)
      · simp at h

namespace Exporter

variable {e : Exporter} {s s' : Session} {source : Path} {o : Outcome}

/-- The channel of the conversions of an exporter. -/
def converterChannel (e : Exporter) : String := subchannel e.channel "converter"

/-- The conversion of a page as the disk stands, if it has one. -/
def conversion (e : Exporter) (s : Session) (source : Path) : Option Conversion :=
  match e.store.load s.volume source.toText with
  | .error _ => none
  | .ok html =>
    match (e.converter s).run e.converterChannel source html with
    | (.error _, _) => none
    | (.ok c, _) => some c

/-- A page that has a conversion is read, and its assets are those of its references. -/
lemma conversion_eq_some {c : Conversion} (h : e.conversion s source = some c) :
    ∃ html, e.store.load s.volume source.toText = .ok html ∧
      ((e.converter s).rewritten source html).search.failure = none ∧ c.source = source ∧
        c.assets = ((e.converter s).rewritten source html).search.assets ∧
          c.warnings = ((e.converter s).rewritten source html).search.warnings := by
  rw [conversion] at h
  split at h
  · simp at h
  · rename_i html hload
    split at h
    · simp at h
    · rename_i c' entries hrun
      obtain rfl := Option.some.inj h
      exact ⟨html, hload, Converter.run_ok hrun⟩

/-- The places that a page is delivered to. -/
def writtenPlaces (e : Exporter) (s : Session) (source : Path) : List Place :=
  match e.conversion s source with
  | none => []
  | some c => e.deliveryPlaces s c

/-! ### Exports -/

/-- The conversion of a page with the session in which it is delivered, if it has one. -/
def delivery? (e : Exporter) (s : Session) (source : Path) : Option (Conversion × Session) :=
  match e.store.load s.volume source.toText with
  | .error _ => none
  | .ok html =>
    match (e.converter s).run e.converterChannel source html with
    | (.error _, _) => none
    | (.ok c, entries) => some (c, s.writeAll entries)

lemma conversion_eq_delivery (e : Exporter) (s : Session) (source : Path) :
    e.conversion s source = (e.delivery? s source).map Prod.fst := by
  rw [conversion, delivery?]
  cases e.store.load s.volume source.toText with
  | error cause => rfl
  | ok html =>
      dsimp only
      generalize (e.converter s).run e.converterChannel source html = converted
      obtain ⟨result, entries⟩ := converted
      cases result <;> rfl

/-- The log is written before a page is delivered, and nothing else. -/
lemma delivery?_agrees {c : Conversion} {s₁ : Session} (h : e.delivery? s source = some (c, s₁)) :
    s.Agrees s₁ := by
  rw [delivery?] at h
  split at h
  · simp at h
  · split at h
    · simp at h
    · simp only [Option.some.injEq, Prod.mk.injEq] at h
      rw [← h.2]
      exact Session.writeAll_agrees s _

/-- How the export of a page can go, with its status. -/
inductive Ways (e : Exporter) (s : Session) (source : Path) :
    Except StoreError Outcome × Session → Prop
  /-- The path of the page has a null character. -/
  | null (h : e.store.load s.volume source.toText = .error (.disk .nullCharacter)) :
      Ways e s source (.error (.disk .nullCharacter), s)
  | unread {cause : StoreError} {o : Outcome} {s' : Session}
      (h : e.store.load s.volume source.toText = .error cause)
      (hcause : cause ≠ .disk .nullCharacter) (hlog : s.Agrees s') (hsource : o.source = source)
      (hstatus : o.status = .readFailed) : Ways e s source (.ok o, s')
  | unconverted {html : Text} {o : Outcome} {s' : Session}
      (h : e.store.load s.volume source.toText = .ok html)
      (hdelivery : e.delivery? s source = none) (hlog : s.Agrees s') (hsource : o.source = source)
      (hstatus : o.status = .conversionFailed) : Ways e s source (.ok o, s')
  | delivered {html : Text} {c : Conversion} {s₁ : Session}
      (h : e.store.load s.volume source.toText = .ok html)
      (hdelivery : e.delivery? s source = some (c, s₁)) : Ways e s source (e.deliver s₁ c)

/-- An export goes in one of these ways. -/
lemma ways (e : Exporter) (s : Session) (source : Path) :
    Ways e s source (e.exportFile s source) := by
  cases hload : e.store.load s.volume source.toText with
  | error cause =>
      rw [exportFile, hload]
      rcases FileStore.load_error hload with ⟨a, rfl⟩ | ⟨a, rfl⟩ | rfl
      · exact .unread hload (by simp) (Session.log_agrees _ _ _ _) rfl rfl
      · exact .unread hload (by simp) (Session.log_agrees _ _ _ _) rfl rfl
      · exact .null hload
  | ok html =>
      rw [exportFile, hload]
      dsimp only
      have hdelivery : e.delivery? s source =
          match (e.converter s).run e.converterChannel source html with
          | (.error _, _) => none
          | (.ok c, entries) => some (c, s.writeAll entries) := by rw [delivery?, hload]
      rw [← converterChannel]
      generalize (e.converter s).run e.converterChannel source html = converted at hdelivery ⊢
      obtain ⟨result, entries⟩ := converted
      have hlog := Session.writeAll_agrees s entries
      cases result with
      | error cause =>
          exact .unconverted hload hdelivery (hlog.trans (Session.log_agrees _ _ _ _)) rfl rfl
      | ok c => exact .delivered hload hdelivery

/-- How the export of a page can go, by its conversion. -/
inductive Exports (e : Exporter) (s : Session) (source : Path) :
    Except StoreError Outcome × Session → Prop
  /-- The path of the page has a null character. -/
  | raised {cause : StoreError} (hconv : e.conversion s source = none) :
      Exports e s source (.error cause, s)
  /-- The page is not read or not converted. -/
  | failed {o : Outcome} {s' : Session} (hconv : e.conversion s source = none)
      (hlog : s.Agrees s') (hsource : o.source = source)
      (hstatus : o.status = .readFailed ∨ o.status = .conversionFailed) :
      Exports e s source (.ok o, s')
  | delivered {c : Conversion} {s₁ : Session} (hconv : e.conversion s source = some c)
      (hlog : s.Agrees s₁) : Exports e s source (e.deliver s₁ c)

/-- An export goes in one of these ways. -/
lemma exports (e : Exporter) (s : Session) (source : Path) :
    Exports e s source (e.exportFile s source) := by
  have hway := ways e s source
  generalize e.exportFile s source = result at hway
  cases hway with
  | null h =>
      have hconv : e.conversion s source = none := by rw [conversion, h]
      exact .raised hconv
  | unread h _ hlog hsource hstatus =>
      have hconv : e.conversion s source = none := by rw [conversion, h]
      exact .failed hconv hlog hsource (Or.inl hstatus)
  | unconverted _ hdelivery hlog hsource hstatus =>
      have hconv := conversion_eq_delivery e s source
      rw [hdelivery] at hconv
      exact .failed hconv hlog hsource (Or.inr hstatus)
  | delivered _ hdelivery =>
      have hconv := conversion_eq_delivery e s source
      rw [hdelivery] at hconv
      exact .delivered hconv (delivery?_agrees hdelivery)

/-- The outcome of an export is about its page. -/
lemma exportFile_source (h : e.exportFile s source = (.ok o, s')) : o.source = source := by
  have hway := exports e s source
  rw [h] at hway
  generalize hresult : ((.ok o, s') : Except StoreError Outcome × Session) = result at hway
  cases hway with
  | raised => simp at hresult
  | failed _ _ hsource =>
      simp only [Prod.mk.injEq, Except.ok.injEq] at hresult
      exact hresult.1 ▸ hsource
  | @delivered c s₁ hconv _ =>
      obtain ⟨-, -, -, hc, -⟩ := conversion_eq_some hconv
      have hdelivers := delivers e s₁ c
      rw [← hresult] at hdelivers
      cases hdelivers with
      | unwritten _ _ hsource => exact hsource.trans hc
      | written _ _ _ hsource => exact hsource.trans hc

/-- An export puts no files but those that its page is delivered to. -/
lemma exportFile_changes (e : Exporter) (s : Session) (source : Path) :
    Changes (e.writtenPlaces s source) s (e.exportFile s source).2 := by
  have hway := exports e s source
  generalize e.exportFile s source = result at hway
  cases hway with
  | raised => exact (Agrees.refl s).changes _
  | failed _ hlog => exact hlog.changes _
  | @delivered c s₁ hconv hlog =>
      have hdeliver := e.deliver_changes s₁ c
      have hplaces : e.deliveryPlaces s₁ c = e.deliveryPlaces s c := by
        rw [deliveryPlaces, deliveryPlaces, workingPath_eq hlog.toSameSetting,
          Volume.placeOf_eq hlog.working,
          funext fun a => Volume.placeOf_eq hlog.working (e.assetTarget a)]
      rw [hplaces] at hdeliver
      rw [writtenPlaces, hconv]
      exact (hlog.changes []).trans hdeliver

/-- A page that is exported has its assets copied and its note in its place. -/
lemma exportFile_success (h : e.exportFile s source = (.ok o, s')) (hstatus : o.status = .success) :
    ∃ c copied failures s₀ s₁ s₂, e.conversion s source = some c ∧ s.Agrees s₀ ∧
      e.copyAssets s₀ c.assets = (.ok (copied, failures), s₁) ∧
      e.store.writeOutput s₁ (e.outputPath s.workingPath source) c.note.text = (.ok true, s₂) ∧
      s₂.Agrees s' ∧ o.output = some (e.outputPath s.workingPath source) ∧
      o.warnings = c.warnings ++ failures := by
  have hway := exports e s source
  rw [h] at hway
  generalize hresult : ((.ok o, s') : Except StoreError Outcome × Session) = result at hway
  cases hway with
  | raised => simp at hresult
  | failed _ _ _ hfailed =>
      simp only [Prod.mk.injEq, Except.ok.injEq] at hresult
      rw [← hresult.1, hstatus] at hfailed
      simp at hfailed
  | @delivered c s₀ hconv hlog =>
      obtain ⟨-, -, -, hc, -⟩ := conversion_eq_some hconv
      have hdelivers := delivers e s₀ c
      rw [← hresult] at hdelivers
      cases hdelivers with
      | unwritten _ _ _ hunwritten =>
          rw [hstatus] at hunwritten
          simp at hunwritten
      | @written copied failures s₁ s₂ _ _ hcopies hwrite hend _ _ houtput hwarnings =>
          have hcopied := e.copyAssets_changes s₀ c.assets
          rw [hcopies] at hcopied
          rw [workingPath_eq hcopied.toSameSetting, workingPath_eq hlog.toSameSetting, hc]
            at hwrite houtput
          exact ⟨c, copied, failures, s₀, s₁, s₂, hconv, hlog, hcopies, hwrite, hend, houtput,
            hwarnings⟩

/-- A page that has an outcome but is not exported has its assets copied at most. -/
lemma exportFile_unwritten (h : e.exportFile s source = (.ok o, s'))
    (hstatus : o.status ≠ .success) :
    Changes (match e.conversion s source with
      | none => []
      | some c => c.assets.map fun a => s.volume.placeOf (e.assetTarget a)) s s' := by
  have hway := exports e s source
  rw [h] at hway
  generalize hresult : ((.ok o, s') : Except StoreError Outcome × Session) = result at hway
  cases hway with
  | raised => simp at hresult
  | failed hconv hlog =>
      simp only [Prod.mk.injEq] at hresult
      rw [hconv, hresult.2]
      exact hlog.changes _
  | @delivered c s₀ hconv hlog =>
      have hdelivers := delivers e s₀ c
      rw [← hresult] at hdelivers
      cases hdelivers with
      | @unwritten copied failures s₁ _ _ hcopies hwrite =>
          have hcopied := e.copyAssets_changes s₀ c.assets
          rw [hcopies, funext fun a => Volume.placeOf_eq hlog.working (e.assetTarget a)] at hcopied
          rw [hconv]
          have hwritten := FileStore.writeOutput_refused [] hwrite
          exact ((hlog.changes []).trans (hcopied.trans hwritten)).mono (by simp)
      | written _ _ _ _ hsuccess => exact absurd hsuccess hstatus

/-! ### A sample -/

/-- A moment for the exporter below. -/
def sampleMoment : Moment := ⟨⟨2024, 5, 6⟩, 7, 8, 9, 123000, some 0⟩

/-- An exporter with the settings that hold when nothing is said. -/
def sample : Exporter := .on mainChannel {} sampleMoment

/-- A session on a disk with some files in the root, and the root to start from. -/
def sampleSession (files : List (Text × Text)) : Session :=
  .quiet ⟨⟨files.map fun (name, content) => ([name], .file (utf8Encode content))⟩, []⟩ .warning
    sampleMoment

end Exporter

end PageNotes
