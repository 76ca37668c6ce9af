import PageNotes.Proofs.Export.Pages
import PageNotes.Proofs.Reference.FileName

/-!
The assets of a page in the image folder. All assets of a page are copied into one folder, each
under the name of its file, so of the assets with one name the last is found there.

* `Asset.lastNamed?`: the last asset with a name;
* `Exporter.CopiesEach`: assets that are copied one after another, each with whether it was;
* `Exporter.CopiesAll.read`: what the image folder holds when all copies were made;
* `Exporter.exportFile_references`: what it holds for the references of an exported page.
-/

namespace PageNotes

open Session (Changes Agrees SameSetting)

/-! ### Assets of one name -/

/-- The last of some assets that has a name. -/
def Asset.lastNamed? (assets : List Asset) (name : Text) : Option Asset :=
  assets.reverse.find? (·.fileName = name)

lemma Asset.lastNamed?_cons (a : Asset) (rest : List Asset) (name : Text) :
    lastNamed? (a :: rest) name =
      (lastNamed? rest name).or (if a.fileName = name then some a else none) := by
  rw [lastNamed?, List.reverse_cons, List.find?_append, ← lastNamed?]
  by_cases h : a.fileName = name <;> simp [h]

lemma Asset.lastNamed?_eq_none {assets : List Asset} {name : Text} :
    lastNamed? assets name = none ↔ ∀ a ∈ assets, a.fileName ≠ name := by
  simp [lastNamed?]

lemma Asset.lastNamed?_spec {assets : List Asset} {name : Text} {a : Asset}
    (h : lastNamed? assets name = some a) : a ∈ assets ∧ a.fileName = name := by
  rw [lastNamed?] at h
  exact ⟨by simpa using List.mem_of_find?_eq_some h, by simpa using List.find?_some h⟩

/-- A copy that fails puts no file. -/
lemma FileStore.copyAsset_refused {store : FileStore} {s s' : Session} {source directory : Path}
    {name : Option Text} (targets : List Place)
    (h : store.copyAsset s source directory name = (.ok false, s')) : Changes targets s s' := by
  have hway := FileStore.copies store s source directory name
  rw [h] at hway
  cases hway with
  | failed hchanges => exact hchanges targets

namespace Exporter

variable {e : Exporter} {s s' : Session} {assets : List Asset}

/-! ### Copies one by one -/

/-- Assets that are copied one after another, each with whether its copy was made. -/
inductive CopiesEach (e : Exporter) : Session → List (Asset × Bool) → Session → Prop
  | nil {s : Session} : CopiesEach e s [] s
  | cons {s s₁ s' : Session} {a : Asset} {made : Bool} {rest : List (Asset × Bool)}
      (h : e.store.copyAsset s a.resolved e.imageFolder (some a.fileName) = (.ok made, s₁))
      (hrest : CopiesEach e s₁ rest s') : CopiesEach e s ((a, made) :: rest) s'

/-- The assets whose copies were made. -/
def madeCopies (copies : List (Asset × Bool)) : List Asset := (copies.filter (·.2)).map Prod.fst

/-- The assets whose copies failed. -/
def failedCopies (copies : List (Asset × Bool)) : List Asset :=
  (copies.filter (!·.2)).map Prod.fst

/-- Every asset is copied or not. -/
lemma madeCopies_add_failedCopies (copies : List (Asset × Bool)) :
    (madeCopies copies).length + (failedCopies copies).length = copies.length := by
  induction copies with
  | nil => rfl
  | cons copy rest ih =>
      obtain ⟨a, made⟩ := copy
      cases made <;> simp [madeCopies, failedCopies] at ih ⊢ <;> omega

/-- Copies that come to their end are counted where they were made and warned of where they
failed. -/
lemma copiesEach_of_ok {copied : Nat} {failures : List Warning}
    (h : e.copyAssets s assets = (.ok (copied, failures), s')) :
    ∃ copies, CopiesEach e s copies s' ∧ copies.map Prod.fst = assets ∧
      copied = (madeCopies copies).length ∧ failures = (failedCopies copies).map copyWarning := by
  induction assets generalizing s s' copied failures with
  | nil =>
      simp only [copyAssets, Prod.mk.injEq, Except.ok.injEq] at h
      obtain ⟨⟨rfl, rfl⟩, rfl⟩ := h
      exact ⟨[], .nil, rfl, rfl, rfl⟩
  | cons a rest ih =>
      rw [copyAssets] at h
      split at h
      · simp at h
      · rename_i made s₁ hfirst
        split at h
        · simp at h
        · rename_i count warnings s₂ hrest
          obtain ⟨copies, hcopies, rfl, rfl, rfl⟩ := ih hrest
          refine ⟨(a, made) :: copies, ?_⟩
          cases made with
          | true =>
              simp only [if_true, Prod.mk.injEq, Except.ok.injEq] at h
              obtain ⟨⟨rfl, rfl⟩, rfl⟩ := h
              exact ⟨.cons hfirst hcopies, rfl, rfl, rfl⟩
          | false =>
              simp only [Bool.false_eq_true, if_false, Prod.mk.injEq, Except.ok.injEq] at h
              obtain ⟨⟨rfl, rfl⟩, rfl⟩ := h
              exact ⟨.cons hfirst hcopies, rfl, rfl, rfl⟩

/-- Only the copies that were made put files. -/
lemma CopiesEach.changes {copies : List (Asset × Bool)} (h : CopiesEach e s copies s') :
    Changes ((madeCopies copies).map fun a => s.volume.placeOf (e.assetTarget a)) s s' := by
  induction h with
  | nil => exact (Agrees.refl _).changes _
  | @cons s s₁ s' a made rest h _ ih =>
      have hplaces : ∀ hset : SameSetting s s₁, (fun a => s₁.volume.placeOf (e.assetTarget a))
          = fun a => s.volume.placeOf (e.assetTarget a) :=
        fun hset => funext fun a => Volume.placeOf_eq hset.working _
      cases made with
      | true =>
          have hfirst := FileStore.copyAsset_changes e.store s a.resolved e.imageFolder
            (some a.fileName)
          rw [h, copyTarget_eq] at hfirst
          rw [hplaces hfirst.toSameSetting] at ih
          exact hfirst.trans ih
      | false =>
          have hfirst := FileStore.copyAsset_refused [] h
          rw [hplaces hfirst.toSameSetting] at ih
          exact hfirst.trans ih

/-! ### Copies of all assets -/

/-- Assets that are copied one after another, none of them in vain. -/
inductive CopiesAll (e : Exporter) : Session → List Asset → Session → Prop
  | nil {s : Session} : CopiesAll e s [] s
  | cons {s s₁ s' : Session} {a : Asset} {rest : List Asset}
      (h : e.store.copyAsset s a.resolved e.imageFolder (some a.fileName) = (.ok true, s₁))
      (hrest : CopiesAll e s₁ rest s') : CopiesAll e s (a :: rest) s'

/-- Copies none of which fails are all made. -/
lemma CopiesEach.all {copies : List (Asset × Bool)} (h : CopiesEach e s copies s')
    (hnone : failedCopies copies = []) : CopiesAll e s (copies.map Prod.fst) s' := by
  induction h with
  | nil => exact .nil
  | @cons s s₁ s' a made rest h _ ih =>
      cases made with
      | false => simp [failedCopies] at hnone
      | true => exact .cons h (ih hnone)

/-- Copies that give no warning are all made. -/
lemma copiesAll_of_noWarning {copied : Nat}
    (h : e.copyAssets s assets = (.ok (copied, []), s')) : CopiesAll e s assets s' := by
  obtain ⟨copies, hcopies, rfl, -, hfailures⟩ := copiesEach_of_ok h
  exact hcopies.all (List.map_eq_nil_iff.mp hfailures.symm)

lemma CopiesAll.changes (h : CopiesAll e s assets s') :
    Changes (assets.map fun a => s.volume.placeOf (e.assetTarget a)) s s' := by
  induction h with
  | nil => exact (Agrees.refl _).changes _
  | @cons s s₁ s' a rest h _ ih =>
      have hfirst := FileStore.copyAsset_changes e.store s a.resolved e.imageFolder
        (some a.fileName)
      rw [h, copyTarget_eq] at hfirst
      have hplaces : (fun a => s₁.volume.placeOf (e.assetTarget a))
          = fun a => s.volume.placeOf (e.assetTarget a) :=
        funext fun a => Volume.placeOf_eq hfirst.working _
      rw [hplaces] at ih
      exact hfirst.trans ih

/-- No asset lies where it is copied to. -/
lemma CopiesAll.apart (h : CopiesAll e s assets s') :
    ∀ a ∈ assets, s.volume.placeOf a.resolved ≠ s.volume.placeOf (e.assetTarget a) := by
  induction h with
  | nil => simp
  | @cons s s₁ s' a rest h _ ih =>
      have hfirst := FileStore.copyAsset_changes e.store s a.resolved e.imageFolder
        (some a.fileName)
      rw [h] at hfirst
      obtain ⟨hne, -⟩ := FileStore.copyAsset_copied h
      rw [copyTarget_eq] at hne
      intro b hb
      rcases List.mem_cons.mp hb with rfl | hb
      · exact hne
      · have := ih b hb
        rwa [Volume.placeOf_eq hfirst.working, Volume.placeOf_eq hfirst.working] at this

/-- An asset that lies where another is copied to lies where it is itself copied to. -/
lemma place_ne_target {a b : Asset} (ha : a.IsNamed) (hb : b.IsNamed)
    (h : s.volume.placeOf b.resolved ≠ s.volume.placeOf (e.assetTarget b)) :
    s.volume.placeOf b.resolved ≠ s.volume.placeOf (e.assetTarget a) := by
  intro heq
  rw [assetTarget, Volume.placeOf_child _ ha.fileName, hb.place] at heq
  rw [assetTarget, Volume.placeOf_child _ hb.fileName, hb.place] at h
  exact h (by rw [(List.append_inj' heq rfl).1])

/-- Assets are copied to one place when they have one name. -/
lemma target_eq_iff {a b : Asset} (ha : a.IsNamed) (hb : b.IsNamed) :
    s.volume.placeOf (e.assetTarget a) = s.volume.placeOf (e.assetTarget b) ↔
      a.fileName = b.fileName := by
  rw [assetTarget, assetTarget, Volume.placeOf_child _ ha.fileName,
    Volume.placeOf_child _ hb.fileName]
  simp

/-- When all copies were made, the image folder has under a name what the last asset of that name
held before. -/
theorem CopiesAll.read (h : CopiesAll e s assets s') (hnamed : ∀ a ∈ assets, a.IsNamed)
    {name : Text} {last : Asset} (hlast : Asset.lastNamed? assets name = some last)
    (hsource : s.volume.placeOf last.resolved ∉ s.logFiles)
    (htarget : s.volume.placeOf (e.assetTarget last) ∉ s.logFiles) {bytes : Bytes}
    (hread : s.volume.read last.resolved = .ok bytes) :
    s'.volume.read (e.assetTarget last) = .ok bytes := by
  induction h with
  | nil => simp [Asset.lastNamed?] at hlast
  | @cons s s₁ s' a rest h hrest ih =>
      have hfirst := FileStore.copyAsset_changes e.store s a.resolved e.imageFolder
        (some a.fileName)
      rw [h, copyTarget_eq] at hfirst
      obtain ⟨-, hcopied⟩ := FileStore.copyAsset_copied h
      rw [copyTarget_eq] at hcopied
      have hrestNamed : ∀ b ∈ rest, b.IsNamed := fun b hb => hnamed b (List.mem_cons_of_mem _ hb)
      have hplace := fun p => Volume.placeOf_eq hfirst.working p
      rw [Asset.lastNamed?_cons] at hlast
      -- a later copy of that name is the last; otherwise this one stays
      cases hmore : Asset.lastNamed? rest name with
      | some b =>
          rw [hmore, Option.some_or] at hlast
          obtain rfl := Option.some.inj hlast
          obtain ⟨hmem, -⟩ := Asset.lastNamed?_spec hmore
          have hapart := hrest.apart _ hmem
          rw [hplace, hplace] at hapart
          have hne := place_ne_target (hnamed a List.mem_cons_self) (hrestNamed _ hmem) hapart
          exact ih hrestNamed hmore (by rwa [hplace, hfirst.logFiles])
            (by rwa [hplace, hfirst.logFiles])
            (hfirst.read (by simpa [assetTarget] using hne) hsource hread)
      | none =>
          rw [hmore, Option.none_or] at hlast
          split_ifs at hlast with hname
          obtain rfl := Option.some.inj hlast
          have hnot : s₁.volume.placeOf (e.assetTarget a) ∉
              rest.map fun b => s₁.volume.placeOf (e.assetTarget b) := by
            rw [List.mem_map]
            rintro ⟨b, hb, heq⟩
            rw [target_eq_iff (hrestNamed b hb) (hnamed a List.mem_cons_self)] at heq
            exact Asset.lastNamed?_eq_none.mp hmore b hb (heq.trans hname)
          exact hrest.changes.read hnot (by rwa [hplace, hfirst.logFiles])
            (hcopied hsource htarget bytes hread)

/-- The warnings of copying are about copies. -/
lemma copyAssets_warnings {copied : Nat} {failures : List Warning}
    (h : e.copyAssets s assets = (.ok (copied, failures), s')) :
    ∀ w ∈ failures, w.kind = .copyFailed := by
  obtain ⟨copies, -, -, -, rfl⟩ := copiesEach_of_ok h
  intro w hw
  obtain ⟨a, -, rfl⟩ := List.mem_map.mp hw
  rfl

/-! ### The references of a page -/

/-- How the references of a page are rewritten as the disk stands. -/
def rewriting (e : Exporter) (s : Session) (source : Path) : RewriteSettings :=
  (e.converter s).rewriting source

/-- The document of a page whose references are rewritten. -/
def pageDocument (e : Exporter) (html : Text) : Forest :=
  (Content.sanitize e.config.content (Document.parse html)).document

/-- The file of an asset holds in the image folder what a file held before. -/
def Carries (e : Exporter) (s s' : Session) (a : Asset) (file : Path) : Prop :=
  ∃ bytes, s.volume.read file = .ok bytes ∧ s'.volume.read (e.assetTarget a) = .ok bytes

/-- Whether neither the note of a page nor a log is written where an asset is copied to, and its
file is no log. -/
structure IsCarried (e : Exporter) (s : Session) (source : Path) (a : Asset) : Prop where
  noNote : s.volume.placeOf (e.assetTarget a) ≠
    s.volume.placeOf (e.outputPath s.workingPath source)
  noLog : s.volume.placeOf (e.assetTarget a) ∉ s.logFiles
  fileNoLog : s.volume.placeOf a.resolved ∉ s.logFiles

/-- The assets of a page are named from the root down. -/
lemma asset_isNamed {t html : Text} (hworking : ∀ name ∈ s.volume.working, IsName name)
    (hend : (Rewriting.of (e.rewriting s (.ofText t)) (e.pageDocument html)).search.failure = none)
    {a : Asset}
    (ha : a ∈ (Rewriting.of (e.rewriting s (.ofText t)) (e.pageDocument html)).search.assets) :
    a.IsNamed ∧ ∃ bytes, s.volume.read a.resolved = .ok bytes := by
  obtain ⟨name, value, -, hreplaces, hresolved⟩ := Rewriting.reference_of_asset hend ha
  have hfile : s.volume.isFile a.resolved = .ok true := by
    rw [RewriteSettings.replaces, Bool.and_eq_true, ← hresolved] at hreplaces
    exact (e.rewriting s (.ofText t)).finds_eq_true.mp hreplaces.2
  obtain ⟨bytes, hread⟩ := Volume.isFile_eq_true.mp hfile
  obtain ⟨habs, hnames⟩ := (e.rewriting s (.ofText t)).target_names rfl
    (fun n hn => (hworking n hn).1) (Path.parent_plain (Path.ofText_plain t)) value
  rw [← hresolved] at habs hnames
  exact ⟨⟨habs, hnames, Volume.ne_root_of_isFile habs hnames hfile⟩, bytes, hread⟩

/-- For a page that is exported with all its copies, the references of the note are those of the
page, replaced where they mean files that are there. The file of each that is replaced is an asset,
and the image folder has under its name what the last asset of that name held before. Two assets
are copied to one place just when they have one name. -/
theorem exportFile_references {t : Text} {o : Outcome}
    (hworking : ∀ name ∈ s.volume.working, IsName name)
    (h : e.exportFile s (.ofText t) = (.ok o, s')) (hstatus : o.status = .success)
    (hcopies : ∀ w ∈ o.warnings, w.kind ≠ .copyFailed) :
    ∃ html page, e.store.load s.volume (Path.ofText t).toText = .ok html ∧
      page = Rewriting.of (e.rewriting s (.ofText t)) (e.pageDocument html) ∧
      documentReferences page.document
        = (Rewriting.linkedReferences (e.rewriting s (.ofText t)) (e.pageDocument html)).map
            (e.rewriting s (.ofText t)).publish ∧
      (∀ name value,
        (name, some value) ∈
            Rewriting.linkedReferences (e.rewriting s (.ofText t)) (e.pageDocument html) →
          (e.rewriting s (.ofText t)).replaces name value = true →
            ∃ a ∈ page.search.assets, a.resolved = (e.rewriting s (.ofText t)).target value ∧
              ∃ last, Asset.lastNamed? page.search.assets a.fileName = some last ∧
                (e.IsCarried s (.ofText t) last → e.Carries s s' a last.resolved)) ∧
      ∀ a ∈ page.search.assets, ∀ b ∈ page.search.assets,
        (s.volume.placeOf (e.assetTarget a) = s.volume.placeOf (e.assetTarget b) ↔
          a.fileName = b.fileName) := by
  obtain ⟨c, copied, failures, s₀, s₁, s₂, hconv, hlog, hcopy, hwrite, hdone, -, hwarnings⟩ :=
    exportFile_success h hstatus
  obtain ⟨html, hload, hend, -, hassets, -⟩ := conversion_eq_some hconv
  have hfailures : failures = [] := by
    refine List.eq_nil_iff_forall_not_mem.mpr fun w hw => ?_
    exact hcopies w (by rw [hwarnings]; exact List.mem_append_right _ hw)
      (copyAssets_warnings hcopy w hw)
  subst hfailures
  have hall := copiesAll_of_noWarning hcopy
  rw [hassets] at hall
  refine ⟨html, _, hload, rfl, Rewriting.references hend, fun name value hmem hreplaces => ?_,
    fun a ha b hb => target_eq_iff (asset_isNamed hworking hend ha).1
      (asset_isNamed hworking hend hb).1⟩
  obtain ⟨a, ha, hresolved⟩ := Rewriting.asset_of_reference hend hmem hreplaces
  obtain ⟨last, hlast⟩ : ∃ last, Asset.lastNamed? ((e.converter s).rewritten (.ofText t)
      html).search.assets a.fileName = some last := by
    cases hfound : Asset.lastNamed? ((e.converter s).rewritten (.ofText t) html).search.assets
        a.fileName with
    | some last => exact ⟨last, rfl⟩
    | none => exact absurd rfl (Asset.lastNamed?_eq_none.mp hfound a ha)
  refine ⟨a, ha, hresolved, last, hlast, fun hcarried => ?_⟩
  obtain ⟨hmem, hname⟩ := Asset.lastNamed?_spec hlast
  obtain ⟨-, bytes, hread⟩ := asset_isNamed hworking hend hmem
  have hplace := fun p => Volume.placeOf_eq hlog.working p
  have hread₀ : s₀.volume.read last.resolved = .ok bytes :=
    (hlog.changes []).read (by simp) hcarried.fileNoLog hread
  have hread₁ := hall.read (fun b hb => (asset_isNamed hworking hend hb).1) hlast
    (by rw [hplace, hlog.logFiles]; exact hcarried.fileNoLog)
    (by rw [hplace, hlog.logFiles]; exact hcarried.noLog) hread₀
  have hcopied := hall.changes
  have hwritten := FileStore.writeOutput_changes e.store s₁ (e.outputPath s.workingPath (.ofText t))
    c.note.text
  rw [hwrite] at hwritten
  have hplace₁ := fun p => (Volume.placeOf_eq hcopied.working p).trans (hplace p)
  have hlogs₁ := hcopied.logFiles.trans hlog.logFiles
  have hread₂ := (hwritten.trans (hdone.changes [])).read
    (by rw [List.append_nil, hplace₁, hplace₁, List.mem_singleton]; exact hcarried.noNote)
    (by rw [hplace₁, hlogs₁]; exact hcarried.noLog) hread₁
  refine ⟨bytes, hread, ?_⟩
  rwa [assetTarget, hname] at hread₂

/-! ### Two images of one name -/

/-- The text of a page with two images that have one name in two directories. -/
def twoImages : Text := "<img src=a/x><img src=b/x>".toList

/-- A disk with the page and its images. -/
def twoImagesSession : Session := .quiet ⟨⟨[
  ([['a']], .directory), ([['a'], ['x']], .file [1]),
  ([['b']], .directory), ([['b'], ['x']], .file [2]),
  ([['p']], .file (utf8Encode twoImages))]⟩, []⟩ .warning sampleMoment

/-- What becomes of the page. -/
def twoImagesOutcome : Outcome where
  source := .ofText ['p']
  status := .success
  output := some ⟨.relative, ["output".toList, "p.md".toList]⟩
  assetsCopied := 2

set_option maxRecDepth 100000 in
/-- The page is exported with both its images copied, and all its references are replaced. -/
theorem exportFile_references_twoImages :
    ∃ html page, sample.store.load twoImagesSession.volume (Path.ofText ['p']).toText = .ok html ∧
      page = Rewriting.of (sample.rewriting twoImagesSession (.ofText ['p']))
        (sample.pageDocument html) ∧
      documentReferences page.document
        = (Rewriting.linkedReferences (sample.rewriting twoImagesSession (.ofText ['p']))
            (sample.pageDocument html)).map
              (sample.rewriting twoImagesSession (.ofText ['p'])).publish := by
  have houtcome : (sample.exportFile twoImagesSession (.ofText ['p'])).1
      = .ok twoImagesOutcome := by
    decide +kernel
  have hexport : sample.exportFile twoImagesSession (.ofText ['p'])
      = (.ok twoImagesOutcome, (sample.exportFile twoImagesSession (.ofText ['p'])).2) := by
    rw [← houtcome]
  obtain ⟨html, page, hload, hpage, hreferences, -⟩ :=
    exportFile_references (e := sample) (s := twoImagesSession) (by decide) hexport rfl
      (by simp [twoImagesOutcome])
  exact ⟨html, page, hload, hpage, hreferences⟩

set_option maxRecDepth 100000 in
/-- The second image takes the place of the first: the reference to the first is replaced and its
copy is made, but the image folder has the second under its name. -/
theorem twoImages_share :
    (sample.exportFile twoImagesSession (.ofText ['p'])).1 = .ok twoImagesOutcome ∧
      sample.store.load twoImagesSession.volume (Path.ofText ['p']).toText = .ok twoImages ∧
      ("img", some "a/x".toList) ∈ Rewriting.linkedReferences
        (sample.rewriting twoImagesSession (.ofText ['p'])) (sample.pageDocument twoImages) ∧
      (sample.rewriting twoImagesSession (.ofText ['p'])).replaces "img" "a/x".toList = true ∧
      twoImagesSession.volume.read
        ((sample.rewriting twoImagesSession (.ofText ['p'])).target "a/x".toList) = .ok [1] ∧
      (sample.exportFile twoImagesSession (.ofText ['p'])).2.volume.read
        (sample.imageFolder.child ['x']) = .ok [2] := by
  decide +kernel

end Exporter

end PageNotes
