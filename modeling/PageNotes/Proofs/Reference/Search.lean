import PageNotes.Proofs.Html.Traversal

/-!
The search for assets. A search that comes to its end has replaced each reference to a file that is
there by the reference to its copy and left all others, and its assets are the files of the
references that were replaced, each once.

* `RewriteSettings.replaces`, `RewriteSettings.publish`: whether a reference is replaced, and what
  becomes of it;
* `Rewriting.references`: the references of a rewritten page;
* `Rewriting.assets_eq`: its assets;
* `Rewriting.of_congr`: a search depends on nothing but the answers to the paths that it asks for.
-/

namespace PageNotes

/-! ### Attributes -/

lemma Attributes.get?_set (attributes : Attributes) (key : String) (value : Text) :
    (attributes.set key value).get? key = some value := by
  induction attributes with
  | nil => exact List.lookup_cons_self
  | cons head rest ih =>
      obtain ⟨name, old⟩ := head
      rw [set]
      split_ifs with h
      · exact List.lookup_cons_self
      · have hne : (key == name) = false := beq_eq_false_iff_ne.mpr (Ne.symm h)
        rw [get?, List.lookup_cons, hne]
        exact ih

lemma Attributes.get?_set_ne {key other : String} (hne : other ≠ key) (attributes : Attributes)
    (value : Text) : (attributes.set key value).get? other = attributes.get? other := by
  have hkey : (other == key) = false := beq_eq_false_iff_ne.mpr hne
  induction attributes with
  | nil => rw [set, get?, List.lookup_cons, hkey, get?]
  | cons head rest ih =>
      obtain ⟨name, old⟩ := head
      rw [set]
      split_ifs with hname
      · subst hname
        rw [get?, get?, List.lookup_cons, List.lookup_cons, hkey]
      · rw [get?] at ih
        rw [get?, get?, List.lookup_cons, List.lookup_cons, ih, get?]

/-! ### References -/

/-- The reference of a tag, if it may have one. -/
def tagReference? : String × Attributes → Option (String × Option Text)
  | (name, attributes) => (assetAttribute? name).map fun key => (name, attributes.get? key)

lemma tagReference?_eq_some {name key : String} (h : assetAttribute? name = some key)
    (attributes : Attributes) :
    tagReference? (name, attributes) = some (name, attributes.get? key) := by
  rw [tagReference?, h, Option.map_some]

lemma tagReference?_eq_none {name : String} (h : assetAttribute? name = none)
    (attributes : Attributes) : tagReference? (name, attributes) = none := by
  rw [tagReference?, h, Option.map_none]

namespace RewriteSettings

variable (settings : RewriteSettings)

/-- The file that a reference of the page means. -/
def target (value : Text) : Path := resolveReference settings.working settings.directory value

/-- Whether there is a file. -/
def finds (path : Path) : Bool :=
  match settings.store path with
  | .ok present => present
  | .error _ => false

/-- Whether a reference is replaced: that of an image, or one with the ending of an attachment, that
is local and means a file that is there. -/
def replaces (name : String) (value : Text) : Bool :=
  isLocalReference value && (name = "img" || hasAssetExtension value) &&
    settings.finds (settings.target value)

lemma finds_eq_true {path : Path} :
    settings.finds path = true ↔ settings.store path = .ok true := by
  rw [finds]
  cases settings.store path with
  | ok present => simp
  | error cause => simp

/-- What becomes of a reference. -/
def publish : String × Option Text → String × Option Text
  | (name, some value) =>
    (name, some (if settings.replaces name value then publicReference settings.assetPrefix value
      else value))
  | (name, none) => (name, none)

/-- The asset of a reference that is replaced. -/
def asset? : String × Option Text → Option Asset
  | (name, some value) =>
    if settings.replaces name value then
      some ⟨value, settings.target value, publicReference settings.assetPrefix value⟩
    else none
  | (_, none) => none

end RewriteSettings

/-! ### Assets, each once -/

section AddAsset

variable {assets found : List Asset} {a b : Asset}

lemma mem_addAsset (h : b ∈ addAsset assets a) : b ∈ assets ∨ b = a := by
  rw [addAsset] at h
  split_ifs at h
  · exact Or.inl h
  · simpa using h

lemma subset_addAsset (assets : List Asset) (a : Asset) : assets ⊆ addAsset assets a := by
  rw [addAsset]
  split_ifs
  · exact List.Subset.refl _
  · exact List.subset_append_left _ _

/-- The file of an asset is among the assets to which it was added. -/
lemma exists_addAsset (assets : List Asset) (a : Asset) :
    ∃ b ∈ addAsset assets a, b.resolved = a.resolved := by
  rw [addAsset]
  split_ifs with h
  · simpa using h
  · exact ⟨a, by simp, rfl⟩

lemma pairwise_addAsset (h : assets.Pairwise fun a b => a.resolved ≠ b.resolved) (a : Asset) :
    (addAsset assets a).Pairwise fun a b => a.resolved ≠ b.resolved := by
  rw [addAsset]
  split_ifs with hany
  · exact h
  · refine List.pairwise_append.mpr ⟨h, List.pairwise_singleton _ _, fun b hb c hc => ?_⟩
    rw [List.mem_singleton.mp hc]
    intro heq
    exact hany (by simpa using ⟨b, hb, heq⟩)

lemma mem_foldl_addAsset (h : b ∈ found.foldl addAsset assets) : b ∈ assets ∨ b ∈ found := by
  induction found generalizing assets with
  | nil => exact Or.inl h
  | cons a found ih =>
      rcases ih h with hb | hb
      · rcases mem_addAsset hb with hb | rfl
        · exact Or.inl hb
        · exact Or.inr List.mem_cons_self
      · exact Or.inr (List.mem_cons_of_mem _ hb)

lemma subset_foldl_addAsset (assets found : List Asset) : assets ⊆ found.foldl addAsset assets := by
  induction found generalizing assets with
  | nil => exact List.Subset.refl _
  | cons a found ih => exact List.Subset.trans (subset_addAsset assets a) (ih _)

lemma exists_foldl_addAsset (assets : List Asset) (h : a ∈ found) :
    ∃ b ∈ found.foldl addAsset assets, b.resolved = a.resolved := by
  induction found generalizing assets with
  | nil => simp at h
  | cons first found ih =>
      rcases List.mem_cons.mp h with rfl | h
      · obtain ⟨b, hb, hresolved⟩ := exists_addAsset assets a
        exact ⟨b, subset_foldl_addAsset _ found hb, hresolved⟩
      · exact ih _ h

lemma pairwise_foldl_addAsset (h : assets.Pairwise fun a b => a.resolved ≠ b.resolved)
    (found : List Asset) :
    (found.foldl addAsset assets).Pairwise fun a b => a.resolved ≠ b.resolved := by
  induction found generalizing assets with
  | nil => exact h
  | cons a found ih => exact ih (pairwise_addAsset h a)

end AddAsset

variable {settings : RewriteSettings} {search : AssetSearch} {name : String}
  {attributes : Attributes}

/-! ### Steps of a search -/

namespace AssetSearch

/-- How the visit of an element can go. -/
inductive Visits (settings : RewriteSettings) (search : AssetSearch) (name : String)
    (attributes : Attributes) : Attributes × AssetSearch → Prop
  /-- The search is over, or there is no candidate. -/
  | passed (h : search.failure.isSome ∨ assetCandidate? name attributes = none) :
      Visits settings search name attributes (attributes, search)
  | stopped {key : String} {value : Text} {e : DiskError}
      (h : assetCandidate? name attributes = some (key, value))
      (hstore : settings.store (settings.target value) = .error e) :
      Visits settings search name attributes (attributes,
        { search with asked := search.asked ++ [settings.target value], failure := some e })
  | missing {key : String} {value : Text} (h : assetCandidate? name attributes = some (key, value))
      (hopen : search.failure = none)
      (hstore : settings.store (settings.target value) = .ok false) :
      Visits settings search name attributes (attributes,
        { search with
          asked := search.asked ++ [settings.target value]
          warnings := search.warnings ++ [missingWarning (settings.target value)] })
  | found {key : String} {value : Text} (h : assetCandidate? name attributes = some (key, value))
      (hopen : search.failure = none) (hstore : settings.store (settings.target value) = .ok true) :
      Visits settings search name attributes
        (attributes.set key (publicReference settings.assetPrefix value),
          { search with
            asked := search.asked ++ [settings.target value]
            assets := addAsset search.assets
              ⟨value, settings.target value, publicReference settings.assetPrefix value⟩ })

/-- The visit of an element goes in one of these ways. -/
lemma visits (settings : RewriteSettings) (search : AssetSearch) (name : String)
    (attributes : Attributes) :
    Visits settings search name attributes (search.visit settings name attributes) := by
  rw [visit]
  split
  · rename_i h
    refine .passed ?_
    split_ifs at h with hfailure
    · exact Or.inl hfailure
    · exact Or.inr h
  · rename_i key value h
    split_ifs at h with hfailure
    dsimp only
    have hopen : search.failure = none := by simpa using hfailure
    split
    · exact .stopped h ‹_›
    · exact .missing h hopen ‹_›
    · exact .found h hopen ‹_›

/-- A candidate is the value of the attribute for references. -/
lemma assetCandidate?_eq_some {key : String} {value : Text} :
    assetCandidate? name attributes = some (key, value) ↔
      assetAttribute? name = some key ∧ attributes.get? key = some value ∧
        (isLocalReference value && (name = "img" || hasAssetExtension value)) = true := by
  rw [assetCandidate?]
  cases hkey : assetAttribute? name with
  | none => simp
  | some k =>
      cases hvalue : attributes.get? k with
      | none =>
          simp only [Option.bind_some, hvalue, Option.bind_none, reduceCtorEq, false_iff]
          rintro ⟨hk, hv, -⟩
          rw [← Option.some.inj hk, hvalue] at hv
          exact absurd hv (by simp)
      | some v =>
          simp only [Option.bind_some, hvalue]
          split_ifs with hcandidate
          · constructor
            · rintro h
              cases h
              exact ⟨rfl, hvalue, hcandidate⟩
            · rintro ⟨hk, hv, -⟩
              cases hk
              rw [hvalue] at hv
              cases hv
              rfl
          · simp only [false_iff]
            rintro ⟨hk, hv, hlocal⟩
            cases hk
            rw [hvalue] at hv
            cases hv
            exact hcandidate hlocal

/-- After a visit without error, a reference is as it is published, and the assets have one more if
it is replaced. -/
lemma visit_eq (hopen : search.failure = none)
    (hend : (search.visit settings name attributes).2.failure = none) :
    tagReference? (name, (search.visit settings name attributes).1)
        = (tagReference? (name, attributes)).map settings.publish ∧
      (search.visit settings name attributes).2.assets
        = ((tagReference? (name, attributes)).bind settings.asset?).toList.foldl addAsset
            search.assets := by
  have hway := visits settings search name attributes
  generalize search.visit settings name attributes = result at hway hend ⊢
  cases hway with
  | passed h =>
      have hnone := h.resolve_left (by simp [hopen])
      cases hkey : assetAttribute? name with
      | none => simp [tagReference?_eq_none hkey]
      | some key =>
          rw [tagReference?_eq_some hkey]
          cases hvalue : attributes.get? key with
          | none => exact ⟨rfl, rfl⟩
          | some value =>
              have hnot : settings.replaces name value = false := by
                rw [RewriteSettings.replaces, Bool.and_eq_false_iff]
                refine Or.inl (Bool.eq_false_iff.mpr fun hlocal => ?_)
                rw [assetCandidate?_eq_some.mpr ⟨hkey, hvalue, hlocal⟩] at hnone
                exact absurd hnone (by simp)
              simp [RewriteSettings.publish, RewriteSettings.asset?, hnot]
  | stopped => simp at hend
  | @missing key value h _ hstore =>
      obtain ⟨hkey, hvalue, -⟩ := assetCandidate?_eq_some.mp h
      have hnot : settings.replaces name value = false := by
        rw [RewriteSettings.replaces, RewriteSettings.finds, hstore, Bool.and_false]
      rw [tagReference?_eq_some hkey, hvalue]
      simp [RewriteSettings.publish, RewriteSettings.asset?, hnot]
  | @found key value h _ hstore =>
      obtain ⟨hkey, hvalue, hlocal⟩ := assetCandidate?_eq_some.mp h
      have hyes : settings.replaces name value = true := by
        rw [RewriteSettings.replaces, RewriteSettings.finds, hstore, hlocal, Bool.and_true]
      rw [tagReference?_eq_some hkey, tagReference?_eq_some hkey, hvalue, Attributes.get?_set]
      simp [RewriteSettings.publish, RewriteSettings.asset?, hyes]

/-- Once a search is over it stays so. -/
lemma failure_of_visit (h : (search.visit settings name attributes).2.failure = none) :
    search.failure = none := by
  have hway := visits settings search name attributes
  generalize search.visit settings name attributes = result at hway h
  cases hway with
  | passed => exact h
  | stopped => simp at h
  | missing _ hopen => exact hopen
  | found _ hopen => exact hopen

/-- The paths that were asked for stay among them. -/
lemma asked_subset_visit (settings : RewriteSettings) (search : AssetSearch) (name : String)
    (attributes : Attributes) :
    search.asked ⊆ (search.visit settings name attributes).2.asked := by
  have hway := visits settings search name attributes
  generalize search.visit settings name attributes = result at hway ⊢
  cases hway with
  | passed => exact List.Subset.refl _
  | stopped | missing | found => exact List.subset_append_left _ _

/-- Two stores that give the same answers to the paths that are asked for. -/
lemma visit_congr {other : AssetStore}
    (h : ∀ p ∈ (search.visit settings name attributes).2.asked, other p = settings.store p) :
    search.visit { settings with store := other } name attributes
      = search.visit settings name attributes := by
  have hway := visits settings search name attributes
  generalize hresult : search.visit settings name attributes = result at hway h
  cases hway with
  | passed hpassed =>
      rw [visit]
      rcases hpassed with hover | hnone
      · rw [if_pos hover]
      · rw [hnone, ite_self]
  | stopped hcandidate hstore | missing hcandidate _ hstore | found hcandidate _ hstore =>
      have hsame := h (settings.target _) (List.mem_append_right _ (List.mem_singleton_self _))
      rw [hstore] at hsame
      rw [← hresult, visit, visit]
      have htarget := hstore
      rw [RewriteSettings.target] at htarget hsame
      rw [hcandidate]
      split_ifs
      · rfl
      · dsimp only
        rw [hsame, htarget]

/-- The files of the assets are among the paths that were asked for. -/
lemma assets_asked_visit (h : ∀ a ∈ search.assets, a.resolved ∈ search.asked) :
    ∀ a ∈ (search.visit settings name attributes).2.assets,
      a.resolved ∈ (search.visit settings name attributes).2.asked := by
  have hway := visits settings search name attributes
  generalize search.visit settings name attributes = result at hway ⊢
  cases hway with
  | passed => exact h
  | stopped | missing => exact fun a ha => List.mem_append_left _ (h a ha)
  | found =>
      intro a ha
      rcases mem_addAsset ha with ha | rfl
      · exact List.mem_append_left _ (h a ha)
      · exact List.mem_append_right _ (List.mem_singleton_self _)

/-! ### Whole searches -/

lemma assets_asked {tags : List (String × Attributes)}
    (h : ∀ a ∈ search.assets, a.resolved ∈ search.asked) :
    ∀ a ∈ (tagsMapAccum (visit settings) search tags).2.assets,
      a.resolved ∈ (tagsMapAccum (visit settings) search tags).2.asked := by
  induction tags generalizing search with
  | nil => exact h
  | cons tag tags ih => exact ih (assets_asked_visit h)

/-- The tags after a search without error, and its assets. -/
lemma tagsMapAccum_visit {tags : List (String × Attributes)}
    (h : (tagsMapAccum (visit settings) search tags).2.failure = none) :
    search.failure = none ∧
      (tagsMapAccum (visit settings) search tags).1.filterMap tagReference?
        = (tags.filterMap tagReference?).map settings.publish ∧
      (tagsMapAccum (visit settings) search tags).2.assets
        = ((tags.filterMap tagReference?).filterMap settings.asset?).foldl addAsset
            search.assets := by
  induction tags generalizing search with
  | nil => exact ⟨h, rfl, rfl⟩
  | cons tag tags ih =>
      obtain ⟨name, attributes⟩ := tag
      obtain ⟨hmid, hreferences, hassets⟩ :=
        @ih (search.visit settings name attributes).2 h
      have hopen := failure_of_visit hmid
      obtain ⟨hreference, hasset⟩ := visit_eq hopen hmid
      refine ⟨hopen, ?_, ?_⟩
      · simp only [tagsMapAccum]
        rw [List.filterMap_cons, hreference, hreferences, List.filterMap_cons]
        cases tagReference? (name, attributes) <;> rfl
      · simp only [tagsMapAccum]
        rw [hassets, hasset, List.filterMap_cons]
        cases hr : tagReference? (name, attributes) with
        | none => rfl
        | some reference =>
            dsimp only [Option.bind_some]
            rw [List.filterMap_cons]
            cases settings.asset? reference <;> rfl

end AssetSearch

namespace Rewriting

variable {document : Forest}

/-- The references of a page with its links rewritten, all others as they were. -/
def linkedReferences (settings : RewriteSettings) (document : Forest) :
    List (String × Option Text) :=
  documentReferences (rewriteLinks settings.linkPrefix document).1

lemma documentReferences_tags (document : Forest) :
    documentReferences document = (forestTags document).filterMap tagReference? :=
  documentReferences_eq document

lemma of_search (settings : RewriteSettings) (document : Forest) :
    (Rewriting.of settings document).search
      = (tagsMapAccum (AssetSearch.visit settings) .start
          (forestTags (rewriteLinks settings.linkPrefix document).1)).2 :=
  forestMapAccum_state _ _

/-- The references of a page whose search came to its end are published. -/
theorem references (h : (Rewriting.of settings document).search.failure = none) :
    documentReferences (Rewriting.of settings document).document
      = (linkedReferences settings document).map settings.publish := by
  rw [of_search] at h
  obtain ⟨-, hreferences, -⟩ := AssetSearch.tagsMapAccum_visit h
  rw [linkedReferences, documentReferences_tags, documentReferences_tags, ← hreferences]
  exact congrArg (List.filterMap tagReference?) (forestMapAccum_tags _ _)

/-- The assets of a page whose search came to its end are those of its references. -/
theorem assets_eq (h : (Rewriting.of settings document).search.failure = none) :
    (Rewriting.of settings document).search.assets
      = ((linkedReferences settings document).filterMap settings.asset?).foldl addAsset [] := by
  rw [of_search] at h ⊢
  obtain ⟨-, -, hassets⟩ := AssetSearch.tagsMapAccum_visit h
  rw [hassets, linkedReferences, documentReferences_tags]
  rfl

/-- The files of the assets are among the paths that were asked for. -/
theorem assets_asked (settings : RewriteSettings) (document : Forest) :
    ∀ a ∈ (Rewriting.of settings document).search.assets,
      a.resolved ∈ (Rewriting.of settings document).search.asked := by
  rw [of_search]
  exact AssetSearch.assets_asked (by simp [AssetSearch.start])

/-- No file is among the assets twice. -/
theorem assets_pairwise (h : (Rewriting.of settings document).search.failure = none) :
    (Rewriting.of settings document).search.assets.Pairwise fun a b => a.resolved ≠ b.resolved := by
  rw [assets_eq h]
  exact pairwise_foldl_addAsset List.Pairwise.nil _

/-- The file of a reference that is replaced is among the assets. -/
theorem asset_of_reference (h : (Rewriting.of settings document).search.failure = none)
    {value : Text} (hmem : (name, some value) ∈ linkedReferences settings document)
    (hreplaces : settings.replaces name value = true) :
    ∃ a ∈ (Rewriting.of settings document).search.assets, a.resolved = settings.target value := by
  rw [assets_eq h]
  refine exists_foldl_addAsset (a := ⟨value, settings.target value,
    publicReference settings.assetPrefix value⟩) [] (List.mem_filterMap.mpr ⟨_, hmem, ?_⟩)
  rw [RewriteSettings.asset?, if_pos hreplaces]

/-- An asset is the file of a reference that is replaced. -/
theorem reference_of_asset (h : (Rewriting.of settings document).search.failure = none)
    {a : Asset} (hmem : a ∈ (Rewriting.of settings document).search.assets) :
    ∃ name value, (name, some value) ∈ linkedReferences settings document ∧
      settings.replaces name value = true ∧ a.resolved = settings.target value := by
  rw [assets_eq h] at hmem
  rcases mem_foldl_addAsset hmem with hnil | hfound
  · simp at hnil
  · obtain ⟨⟨name, value⟩, hreference, hasset⟩ := List.mem_filterMap.mp hfound
    cases value with
    | none => simp [RewriteSettings.asset?] at hasset
    | some value =>
        rw [RewriteSettings.asset?] at hasset
        split_ifs at hasset with hreplaces
        cases hasset
        exact ⟨name, value, hreference, hreplaces, rfl⟩

/-- The rewriting of a page depends on nothing but the answers to the paths that it asks for. -/
theorem of_congr {other : AssetStore}
    (h : ∀ p ∈ (Rewriting.of settings document).search.asked, other p = settings.store p) :
    Rewriting.of { settings with store := other } document = Rewriting.of settings document := by
  -- paths are never taken off the list of those asked for, so if the last state is good, all are
  have key := forestMapAccum_congr (f := AssetSearch.visit settings)
    (g := AssetSearch.visit { settings with store := other })
    (fun search => ∀ p ∈ search.asked, other p = settings.store p)
    (fun search name attributes hgood p hp =>
      hgood p (AssetSearch.asked_subset_visit settings search name attributes hp))
    (fun _ _ _ hgood => AssetSearch.visit_congr hgood)
    .start (rewriteLinks settings.linkPrefix document).1 h
  simp only [Rewriting.of]
  rw [key.2]

end Rewriting

end PageNotes
