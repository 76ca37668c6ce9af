import Mathlib.Data.List.Forall2
import Mathlib.Data.List.Induction
import PageNotes.Proofs.Reference.Search
import PageNotes.Proofs.Text.Parts

/-!
What becomes of the candidates of a page, the references that may mean an asset: a local image, or
a local link that has the ending of an attachment once the links to pages are rewritten. Each is
either left as it is, with a warning, or replaced, with its file among the assets, and nothing but
the references of links and images is changed.

* `withoutReferences`: what there is in a document beside the references of links and images;
* `candidates`: the candidates of a page in document order;
* `Becomes`: what becomes of a reference;
* `resolved_foldl_addAsset`, `mem_foldl_addAsset_iff`: the assets are the first of each file;
* `Rewriting.candidates_settled`: the whole account.
-/

namespace PageNotes

/-! ### What is beside the references -/

/-- The attributes of an element with its reference, the `src` of an image or the `href` of a link,
left blank. -/
def blankReference (name : String) (attributes : Attributes) : Attributes :=
  match assetAttribute? name with
  | some key => if (attributes.get? key).isSome then attributes.set key [] else attributes
  | none => attributes

/-- A document with the references of all images and links left blank. -/
def withoutReferences (document : Forest) : Forest :=
  (forestMapAccum (fun _ name attributes => (blankReference name attributes, ())) () document).1

lemma Attributes.set_set (attributes : Attributes) (key : String) (value other : Text) :
    (attributes.set key value).set key other = attributes.set key other := by
  induction attributes with
  | nil => simp [set]
  | cons head rest ih =>
      obtain ⟨name, old⟩ := head
      by_cases h : name = key
      · simp [set, h]
      · simp [set, h, ih]

lemma blankReference_set {name key : String} {attributes : Attributes} {value : Text}
    (hkey : assetAttribute? name = some key) (hvalue : attributes.get? key = some value)
    (other : Text) :
    blankReference name (attributes.set key other) = blankReference name attributes := by
  simp [blankReference, hkey, hvalue, Attributes.get?_set, Attributes.set_set]

/-- A pass that changes no more than the reference of each element leaves what is beside the
references. -/
lemma withoutReferences_mapAccum {σ : Type} {f : σ → String → Attributes → Attributes × σ}
    (h : ∀ s name attributes,
      blankReference name (f s name attributes).1 = blankReference name attributes)
    (s : σ) (forest : Forest) :
    withoutReferences (forestMapAccum f s forest).1 = withoutReferences forest := by
  induction forest using Forest.ind generalizing s with
  | nil => rfl
  | element name attributes children rest ihChildren ihRest =>
      have hchildren := ihChildren (f s name attributes).2
      have hrest := ihRest (forestMapAccum f (f s name attributes).2 children).2
      rw [withoutReferences, withoutReferences] at hchildren hrest
      simp only [withoutReferences, forestMapAccum, Node.mapAccum, h, hchildren, hrest]
  | leaf node rest hleaf ih =>
      have hrest := ih s
      rw [withoutReferences, withoutReferences] at hrest
      rw [forestMapAccum_leaf hleaf, withoutReferences, withoutReferences,
        forestMapAccum_leaf hleaf, forestMapAccum_leaf hleaf, hrest]

lemma blankReference_rewriteLink (linkPrefix : Text) (count : Nat) (name : String)
    (attributes : Attributes) :
    blankReference name (rewriteLink linkPrefix count name attributes).1
      = blankReference name attributes := by
  rw [rewriteLink]
  split_ifs with hname
  · cases hvalue : attributes.get? "href" with
    | none => rfl
    | some value =>
        cases htarget : pageLink? linkPrefix value with
        | none => simp [htarget]
        | some target =>
            simp only [Option.bind_some, htarget]
            exact blankReference_set (by simp [assetAttribute?, hname]) hvalue target
  · rfl

lemma AssetSearch.blankReference_visit (settings : RewriteSettings) (search : AssetSearch)
    (name : String) (attributes : Attributes) :
    blankReference name (search.visit settings name attributes).1
      = blankReference name attributes := by
  have hway := visits settings search name attributes
  generalize search.visit settings name attributes = result at hway ⊢
  cases hway with
  | passed | stopped | missing => rfl
  | found h =>
      obtain ⟨hkey, hvalue, -⟩ := assetCandidate?_eq_some.mp h
      exact blankReference_set hkey hvalue _

/-- The rewriting of a page changes nothing but the references of its links and images. -/
theorem Rewriting.withoutReferences_document (settings : RewriteSettings) (document : Forest) :
    withoutReferences (Rewriting.of settings document).document = withoutReferences document := by
  rw [Rewriting.of]
  dsimp only
  rw [withoutReferences_mapAccum (AssetSearch.blankReference_visit settings), rewriteLinks,
    withoutReferences_mapAccum (blankReference_rewriteLink settings.linkPrefix)]

/-! ### Links to pages -/

/-- A reference once the links to pages are rewritten. -/
def relink (linkPrefix : Text) : String × Option Text → String × Option Text
  | (name, value) =>
    (name, if name = "a" then (value.bind (pageLink? linkPrefix)).or value else value)

lemma tagReference?_rewriteLink (linkPrefix : Text) (count : Nat) (name : String)
    (attributes : Attributes) :
    tagReference? (name, (rewriteLink linkPrefix count name attributes).1)
      = (tagReference? (name, attributes)).map (relink linkPrefix) := by
  rw [rewriteLink]
  by_cases hname : name = "a"
  · subst hname
    rw [if_pos rfl, tagReference?_eq_some rfl, tagReference?_eq_some rfl]
    cases hvalue : attributes.get? "href" with
    | none => simp [relink, hvalue]
    | some value =>
        cases htarget : pageLink? linkPrefix value with
        | none => simp [relink, hvalue, htarget]
        | some target => simp [relink, htarget, Attributes.get?_set]
  · rw [if_neg hname]
    cases hkey : assetAttribute? name with
    | none => rw [tagReference?_eq_none hkey, Option.map_none]
    | some key => rw [tagReference?_eq_some hkey, Option.map_some, relink, if_neg hname]

lemma tagsMapAccum_rewriteLink (linkPrefix : Text) (count : Nat)
    (tags : List (String × Attributes)) :
    (tagsMapAccum (rewriteLink linkPrefix) count tags).1.filterMap tagReference?
      = (tags.filterMap tagReference?).map (relink linkPrefix) := by
  induction tags generalizing count with
  | nil => rfl
  | cons tag tags ih =>
      obtain ⟨name, attributes⟩ := tag
      simp only [tagsMapAccum]
      rw [List.filterMap_cons, tagReference?_rewriteLink, ih, List.filterMap_cons]
      cases tagReference? (name, attributes) <;> rfl

/-- The references of a page whose links to pages are rewritten. -/
theorem Rewriting.linkedReferences_eq (settings : RewriteSettings) (document : Forest) :
    linkedReferences settings document
      = (documentReferences document).map (relink settings.linkPrefix) := by
  rw [linkedReferences, documentReferences_tags, documentReferences_tags, rewriteLinks,
    forestMapAccum_tags]
  exact tagsMapAccum_rewriteLink settings.linkPrefix 0 (forestTags document)

/-! ### Candidates -/

/-- The value of a reference that may mean an asset: that of an image, or one with the ending of an
attachment, that is local. -/
def candidate? : String × Option Text → Option Text
  | (name, some value) =>
    if isLocalReference value && (name = "img" || hasAssetExtension value) then some value else none
  | (_, none) => none

/-- The candidate of an element is that of its reference. -/
lemma candidate?_tagReference? (name : String) (attributes : Attributes) :
    (tagReference? (name, attributes)).bind candidate?
      = (assetCandidate? name attributes).map Prod.snd := by
  rw [assetCandidate?]
  cases hkey : assetAttribute? name with
  | none => rw [tagReference?_eq_none hkey, Option.bind_none, Option.bind_none, Option.map_none]
  | some key =>
      rw [tagReference?_eq_some hkey, Option.bind_some, Option.bind_some]
      cases attributes.get? key with
      | none => rfl
      | some value =>
          rw [candidate?, Option.bind_some]
          split_ifs <;> rfl

lemma candidate?_eq_some {name : String} {value : Option Text} {candidate : Text} :
    candidate? (name, value) = some candidate ↔ value = some candidate ∧
      (isLocalReference candidate && (name = "img" || hasAssetExtension candidate)) = true := by
  cases value with
  | none => simp [candidate?]
  | some value =>
      rw [candidate?]
      split_ifs with h
      · constructor
        · intro heq
          cases heq
          exact ⟨rfl, h⟩
        · rintro ⟨heq, -⟩
          exact heq
      · simp only [false_iff]
        rintro ⟨heq, hcandidate⟩
        cases heq
        exact h hcandidate

namespace RewriteSettings

variable (settings : RewriteSettings)

/-- Whether a file is reported missing. -/
def lacks (path : Path) : Bool :=
  match settings.store path with
  | .ok present => !present
  | .error _ => false

/-- Whether there is an answer about a file. -/
def Answers (path : Path) : Prop := ∃ present, settings.store path = .ok present

/-- The asset of a candidate whose file is there. -/
def assetOf (value : Text) : Asset :=
  ⟨value, settings.target value, publicReference settings.assetPrefix value⟩

/-- The candidates of a page, in document order. -/
def candidates (document : Forest) : List Text :=
  (Rewriting.linkedReferences settings document).filterMap candidate?

/-- The candidates of a page whose files are missing. -/
def missing (document : Forest) : List Text :=
  (settings.candidates document).filter fun value => settings.lacks (settings.target value)

/-- The candidates of a page whose files are there. -/
def present (document : Forest) : List Text :=
  (settings.candidates document).filter fun value => settings.finds (settings.target value)

lemma lacks_eq_true {path : Path} :
    settings.lacks path = true ↔ settings.store path = .ok false := by
  rw [lacks]
  cases settings.store path with
  | ok present => simp
  | error cause => simp

/-- The assets of references are those of the candidates among them whose files are there. -/
lemma filterMap_asset? (references : List (String × Option Text)) :
    references.filterMap settings.asset?
      = ((references.filterMap candidate?).filter fun value =>
          settings.finds (settings.target value)).map settings.assetOf := by
  induction references with
  | nil => rfl
  | cons reference references ih =>
      obtain ⟨name, value⟩ := reference
      rw [List.filterMap_cons, List.filterMap_cons, ih]
      cases value with
      | none => rfl
      | some value =>
          rw [asset?, candidate?, replaces]
          by_cases hcandidate :
              (isLocalReference value && (name = "img" || hasAssetExtension value)) = true
          · rw [if_pos hcandidate, hcandidate, Bool.true_and]
            dsimp only
            rw [List.filter_cons]
            split_ifs <;> rfl
          · rw [if_neg hcandidate, eq_false_of_ne_true hcandidate, Bool.false_and]
            rfl

end RewriteSettings

/-! ### The first of each -/

/-- The files of the assets, in the order in which they are first added. -/
lemma resolved_foldl_addAsset (found : List Asset) :
    (found.foldl addAsset []).map (·.resolved) = (found.map (·.resolved)).eraseDups := by
  induction found using List.reverseRecOn with
  | nil => rfl
  | append_singleton found a ih =>
      have hmem : (found.foldl addAsset []).any (·.resolved = a.resolved) = true ↔
          a.resolved ∈ found.map (·.resolved) := by
        rw [← List.mem_eraseDups, ← ih]
        simp
      rw [List.foldl_append, List.foldl_cons, List.foldl_nil, List.map_append, List.map_singleton,
        eraseDups_concat, ← ih, addAsset]
      by_cases h : a.resolved ∈ found.map (·.resolved)
      · rw [if_pos (hmem.mpr h), if_pos h]
      · rw [if_neg (mt hmem.mp h), if_neg h, List.map_append, List.map_singleton]

/-- An asset whose file was among the assets before was there itself. -/
lemma mem_of_mem_foldl_addAsset {assets found : List Asset} {a b : Asset}
    (h : a ∈ found.foldl addAsset assets) (hb : b ∈ assets) (hsame : b.resolved = a.resolved) :
    a ∈ assets := by
  induction found generalizing assets with
  | nil => exact h
  | cons first found ih =>
      have hmem := ih h (subset_addAsset assets first hb)
      rcases mem_addAsset hmem with hold | rfl
      · exact hold
      · have hthere : addAsset assets a = assets := by
          rw [addAsset, if_pos]
          exact List.any_eq_true.mpr ⟨b, hb, by simpa using hsame⟩
        rwa [hthere] at hmem

/-- An asset whose file was not there before is the first of its file among those added. -/
lemma find?_of_mem_foldl_addAsset {assets found : List Asset} {a : Asset}
    (h : a ∈ found.foldl addAsset assets) (hnew : ∀ b ∈ assets, b.resolved ≠ a.resolved) :
    found.find? (·.resolved = a.resolved) = some a := by
  induction found generalizing assets with
  | nil => exact absurd rfl (hnew a h)
  | cons first found ih =>
      rw [List.foldl_cons] at h
      by_cases hfirst : first.resolved = a.resolved
      · obtain ⟨b, hb, hresolved⟩ := exists_addAsset assets first
        have hmem := mem_of_mem_foldl_addAsset h hb (hresolved.trans hfirst)
        rcases mem_addAsset hmem with hold | rfl
        · exact absurd rfl (hnew a hold)
        · exact List.find?_cons_of_pos (by simp)
      · rw [List.find?_cons_of_neg (by simpa using hfirst)]
        refine ih h fun b hb => ?_
        rcases mem_addAsset hb with hb | rfl
        · exact hnew b hb
        · exact hfirst

/-- The assets are those that are the first of their file. -/
theorem mem_foldl_addAsset_iff {found : List Asset} {a : Asset} :
    a ∈ found.foldl addAsset [] ↔ found.find? (·.resolved = a.resolved) = some a := by
  constructor
  · intro h
    exact find?_of_mem_foldl_addAsset h (by simp)
  · intro h
    obtain ⟨b, hb, hresolved⟩ := exists_foldl_addAsset [] (List.mem_of_find?_eq_some h)
    have hfirst := find?_of_mem_foldl_addAsset hb (by simp)
    rw [hresolved, h] at hfirst
    rwa [Option.some.inj hfirst]

/-! ### Searches that are answered -/

section Answered

variable {settings : RewriteSettings} {search : AssetSearch} {name : String}
  {attributes : Attributes} {tags : List (String × Attributes)}

lemma filterMap_candidate?_cons :
    (((name, attributes) :: tags).filterMap tagReference?).filterMap candidate?
      = ((tagReference? (name, attributes)).bind candidate?).toList
        ++ (tags.filterMap tagReference?).filterMap candidate? := by
  rw [List.filterMap_cons]
  cases tagReference? (name, attributes) with
  | none => rfl
  | some reference =>
      rw [List.filterMap_cons, Option.bind_some]
      cases candidate? reference <;> rfl

namespace AssetSearch

/-- A visit goes on just when there is an answer about the candidate of the element. -/
lemma visit_failure_iff (hopen : search.failure = none) :
    (search.visit settings name attributes).2.failure = none ↔
      ∀ value ∈ ((tagReference? (name, attributes)).bind candidate?).toList,
        settings.Answers (settings.target value) := by
  have hway := visits settings search name attributes
  generalize search.visit settings name attributes = result at hway ⊢
  rw [candidate?_tagReference?]
  cases hway with
  | passed hpassed =>
      rw [hpassed.resolve_left (by simp [hopen])]
      exact iff_of_true hopen (by simp)
  | @stopped key value e hcandidate hstore =>
      refine iff_of_false (by simp) fun hanswers => ?_
      obtain ⟨present, hpresent⟩ := hanswers value (by simp [hcandidate])
      rw [hstore] at hpresent
      cases hpresent
  | missing hcandidate _ hstore | found hcandidate _ hstore =>
      rw [hcandidate]
      exact iff_of_true hopen fun value hvalue => by
        rw [List.mem_singleton.mp hvalue]
        exact ⟨_, hstore⟩

/-- A visit that goes on has warned if the file is missing. -/
lemma visit_warnings (hend : (search.visit settings name attributes).2.failure = none) :
    (search.visit settings name attributes).2.warnings = search.warnings ++
      (((tagReference? (name, attributes)).bind candidate?).toList.filter fun value =>
        settings.lacks (settings.target value)).map fun value =>
          missingWarning (settings.target value) := by
  have hway := visits settings search name attributes
  generalize search.visit settings name attributes = result at hway hend ⊢
  rw [candidate?_tagReference?]
  cases hway with
  | passed hpassed =>
      have hopen : search.failure = none := hend
      rw [hpassed.resolve_left (by simp [hopen])]
      simp
  | stopped => simp at hend
  | missing hcandidate _ hstore =>
      have hlacks := (settings.lacks_eq_true).mpr hstore
      simp [hcandidate, hlacks]
  | @found key value hcandidate _ hstore =>
      have hlacks : settings.lacks (settings.target value) = false := by
        rw [RewriteSettings.lacks, hstore]
        rfl
      simp [hcandidate, hlacks]

/-- A search comes to its end just when there is an answer about each candidate. -/
lemma tagsMapAccum_failure_iff (hopen : search.failure = none) :
    (tagsMapAccum (visit settings) search tags).2.failure = none ↔
      ∀ value ∈ (tags.filterMap tagReference?).filterMap candidate?,
        settings.Answers (settings.target value) := by
  induction tags generalizing search with
  | nil => exact iff_of_true hopen (by simp)
  | cons tag tags ih =>
      obtain ⟨name, attributes⟩ := tag
      rw [filterMap_candidate?_cons, List.forall_mem_append, ← visit_failure_iff hopen]
      constructor
      · intro hend
        have hmid := (@tagsMapAccum_visit settings _ tags hend).1
        exact ⟨hmid, (ih hmid).mp hend⟩
      · rintro ⟨hmid, hrest⟩
        exact (ih hmid).mpr hrest

/-- A search that comes to its end has warned of each missing file. -/
lemma tagsMapAccum_warnings
    (hend : (tagsMapAccum (visit settings) search tags).2.failure = none) :
    (tagsMapAccum (visit settings) search tags).2.warnings = search.warnings ++
      (((tags.filterMap tagReference?).filterMap candidate?).filter fun value =>
        settings.lacks (settings.target value)).map fun value =>
          missingWarning (settings.target value) := by
  induction tags generalizing search with
  | nil => simp [tagsMapAccum]
  | cons tag tags ih =>
      obtain ⟨name, attributes⟩ := tag
      have hmid := (@tagsMapAccum_visit settings _ tags hend).1
      have hrest := ih hend
      rw [filterMap_candidate?_cons, List.filter_append, List.map_append, ← List.append_assoc,
        ← visit_warnings hmid]
      exact hrest

/-- A visit asks for no file but that of the candidate. -/
lemma asked_visit_subset (settings : RewriteSettings) (search : AssetSearch) (name : String)
    (attributes : Attributes) :
    (search.visit settings name attributes).2.asked ⊆ search.asked ++
      ((tagReference? (name, attributes)).bind candidate?).toList.map settings.target := by
  have hway := visits settings search name attributes
  generalize search.visit settings name attributes = result at hway
  rw [candidate?_tagReference?]
  cases hway with
  | passed => exact List.subset_append_left _ _
  | stopped hcandidate | missing hcandidate | found hcandidate => simp [hcandidate]

/-- A search asks for no files but those of the candidates. -/
lemma asked_subset_candidates (settings : RewriteSettings) (search : AssetSearch)
    (tags : List (String × Attributes)) :
    (tagsMapAccum (visit settings) search tags).2.asked ⊆ search.asked ++
      ((tags.filterMap tagReference?).filterMap candidate?).map settings.target := by
  induction tags generalizing search with
  | nil => exact List.subset_append_left _ _
  | cons tag tags ih =>
      obtain ⟨name, attributes⟩ := tag
      rw [filterMap_candidate?_cons, List.map_append, ← List.append_assoc]
      exact List.Subset.trans (ih _) (List.append_subset.mpr
        ⟨List.Subset.trans (asked_visit_subset settings search name attributes)
          (List.subset_append_left _ _), List.subset_append_right _ _⟩)

end AssetSearch

end Answered

/-! ### The account -/

/-- What becomes of a reference, given the assets and the warnings. -/
inductive Becomes (settings : RewriteSettings) (search : AssetSearch) :
    String × Option Text → String × Option Text → Prop
  | passed {reference : String × Option Text} (h : candidate? reference = none) :
      Becomes settings search reference reference
  /-- The file is missing: the reference is as it was, with a warning. -/
  | missing {reference : String × Option Text} {value : Text}
      (h : candidate? reference = some value)
      (hstore : settings.store (settings.target value) = .ok false)
      (hwarned : missingWarning (settings.target value) ∈ search.warnings) :
      Becomes settings search reference reference
  /-- The file is there: the reference is to its copy, and the file is among the assets. -/
  | published {name : String} {value : Text} (h : candidate? (name, some value) = some value)
      (hstore : settings.store (settings.target value) = .ok true)
      (hasset : ∃ a ∈ search.assets, a.resolved = settings.target value) :
      Becomes settings search (name, some value)
        (name, some (settings.assetPrefix ++ baseName (splitReference value).1
          ++ (splitReference value).2))

namespace Rewriting

variable {settings : RewriteSettings} {document : Forest}

lemma candidates_tags (settings : RewriteSettings) (document : Forest) :
    settings.candidates document
      = ((forestTags (rewriteLinks settings.linkPrefix document).1).filterMap
          tagReference?).filterMap candidate? := by
  rw [RewriteSettings.candidates, linkedReferences, documentReferences_tags]

/-- A page is searched to its end just when there is an answer about each candidate. -/
lemma failure_iff :
    (Rewriting.of settings document).search.failure = none ↔
      ∀ value ∈ settings.candidates document, settings.Answers (settings.target value) := by
  rw [candidates_tags, of_search]
  exact AssetSearch.tagsMapAccum_failure_iff rfl

/-- Whether or not it comes to its end, a page asks for no files but those of its candidates. -/
lemma asked_subset (settings : RewriteSettings) (document : Forest) :
    (Rewriting.of settings document).search.asked
      ⊆ (settings.candidates document).map settings.target := by
  rw [candidates_tags, of_search]
  exact AssetSearch.asked_subset_candidates settings .start _

/-- There is one warning for each candidate whose file is missing, in document order. -/
lemma warnings_eq (h : (Rewriting.of settings document).search.failure = none) :
    (Rewriting.of settings document).search.warnings
      = (settings.missing document).map fun value => missingWarning (settings.target value) := by
  rw [RewriteSettings.missing, candidates_tags]
  rw [of_search] at h ⊢
  exact AssetSearch.tagsMapAccum_warnings h

/-- The assets are those of the candidates whose files are there, each file once. -/
lemma assets_eq_present (h : (Rewriting.of settings document).search.failure = none) :
    (Rewriting.of settings document).search.assets
      = ((settings.present document).map settings.assetOf).foldl addAsset [] := by
  rw [assets_eq h, settings.filterMap_asset?]
  rfl

/-- What becomes of one reference. -/
lemma becomes (h : (Rewriting.of settings document).search.failure = none)
    {reference : String × Option Text} (hmem : reference ∈ linkedReferences settings document) :
    Becomes settings (Rewriting.of settings document).search reference
      (settings.publish reference) := by
  obtain ⟨name, value?⟩ := reference
  cases hcandidate : candidate? (name, value?) with
  | none =>
      have hpublish : settings.publish (name, value?) = (name, value?) := by
        cases value? with
        | none => rfl
        | some value =>
            have hnot : settings.replaces name value = false := by
              rw [RewriteSettings.replaces, Bool.and_eq_false_iff]
              refine Or.inl (Bool.eq_false_iff.mpr fun hlocal => ?_)
              rw [candidate?_eq_some.mpr ⟨rfl, hlocal⟩] at hcandidate
              cases hcandidate
            simp [RewriteSettings.publish, hnot]
      rw [hpublish]
      exact .passed hcandidate
  | some value =>
      obtain ⟨rfl, hlocal⟩ := candidate?_eq_some.mp hcandidate
      have hvalue : value ∈ settings.candidates document :=
        List.mem_filterMap.mpr ⟨_, hmem, hcandidate⟩
      obtain ⟨present, hstore⟩ := failure_iff.mp h value hvalue
      cases present with
      | false =>
          have hnot : settings.replaces name value = false := by
            rw [RewriteSettings.replaces, RewriteSettings.finds, hstore, Bool.and_false]
          have hpublish : settings.publish (name, some value) = (name, some value) := by
            simp [RewriteSettings.publish, hnot]
          rw [hpublish]
          refine .missing hcandidate hstore ?_
          rw [warnings_eq h]
          exact List.mem_map_of_mem (List.mem_filter.mpr
            ⟨hvalue, settings.lacks_eq_true.mpr hstore⟩)
      | true =>
          have hyes : settings.replaces name value = true := by
            rw [RewriteSettings.replaces, RewriteSettings.finds, hstore, hlocal, Bool.and_true]
          rw [RewriteSettings.publish, if_pos hyes]
          exact .published hcandidate hstore (asset_of_reference h hmem hyes)

/-- **The candidates of a page are settled**: all but the references of links and images is as it
was, and links to pages are rewritten. The search for assets comes to its end just when the store
answers about each candidate, and then each is either left, with a warning of its own in document
order, or replaced, with its file among the assets; these are the files of the candidates that are
there, each once, in the order of their first references and with these. -/
theorem candidates_settled (settings : RewriteSettings) (document : Forest) :
    withoutReferences (Rewriting.of settings document).document = withoutReferences document ∧
      linkedReferences settings document
        = (documentReferences document).map (relink settings.linkPrefix) ∧
      ((Rewriting.of settings document).search.failure = none ↔
        ∀ value ∈ settings.candidates document, settings.Answers (settings.target value)) ∧
      ((Rewriting.of settings document).search.failure = none →
        List.Forall₂ (Becomes settings (Rewriting.of settings document).search)
          (linkedReferences settings document)
          (documentReferences (Rewriting.of settings document).document) ∧
        (Rewriting.of settings document).search.warnings
          = (settings.missing document).map (fun value => missingWarning (settings.target value)) ∧
        (Rewriting.of settings document).search.assets.Pairwise
          (fun a b => a.resolved ≠ b.resolved) ∧
        (Rewriting.of settings document).search.assets.map (·.resolved)
          = ((settings.present document).map settings.target).eraseDups ∧
        ∀ a, a ∈ (Rewriting.of settings document).search.assets ↔
          ((settings.present document).map settings.assetOf).find? (·.resolved = a.resolved)
            = some a) := by
  refine ⟨withoutReferences_document settings document, linkedReferences_eq settings document,
    failure_iff, fun hend => ⟨?_, warnings_eq hend, assets_pairwise hend, ?_, ?_⟩⟩
  · rw [references hend, List.forall₂_map_right_iff, List.forall₂_same]
    exact fun reference hmem => becomes hend hmem
  · rw [assets_eq_present hend, resolved_foldl_addAsset, List.map_map]
    rfl
  · intro a
    rw [assets_eq_present hend]
    exact mem_foldl_addAsset_iff

/-- A page with a link to a page, an image under two spellings and an attachment. -/
def mixedPage : Forest := [
  .element "a" [("href", "Other%20Page.html#top".toList)] [.text .plain ['o']],
  .element "img" [("alt", ['x']), ("src", "img/x%20y.png".toList)] [],
  .element "p" [] [.element "a" [("href", "gone.pdf?v=1".toList)] []],
  .element "img" [("src", "./img/x%20y.png".toList)] []]

/-- Settings of a page beside a folder with one image. -/
def mixedSettings : RewriteSettings where
  linkPrefix := "/notes/".toList
  assetPrefix := "/assets/".toList
  working := .ofText "/".toList
  directory := .ofText []
  store := fun path => .ok (path.toText = "/img/x y.png".toList)

/-- The image is an asset once, under its first spelling, and the attachment is missing. -/
theorem candidates_settled_mixed :
    (∀ value ∈ mixedSettings.candidates mixedPage,
        mixedSettings.Answers (mixedSettings.target value)) ∧
      (Rewriting.of mixedSettings mixedPage).search.warnings
        = [missingWarning (.ofText "/gone.pdf".toList)] ∧
      documentReferences (Rewriting.of mixedSettings mixedPage).document
        = [("a", some "/notes/other-page#top".toList), ("img", some "/assets/x%20y.png".toList),
            ("a", some "gone.pdf?v=1".toList), ("img", some "/assets/x%20y.png".toList)] ∧
      (Rewriting.of mixedSettings mixedPage).search.assets
        = [⟨"img/x%20y.png".toList, .ofText "/img/x y.png".toList,
            "/assets/x%20y.png".toList⟩] := by
  have hanswers : ∀ value ∈ mixedSettings.candidates mixedPage,
      mixedSettings.Answers (mixedSettings.target value) := fun value _ => ⟨_, rfl⟩
  obtain ⟨-, -, hends, hsettled⟩ := candidates_settled mixedSettings mixedPage
  obtain ⟨-, hwarnings, -, -, -⟩ := hsettled (hends.mpr hanswers)
  refine ⟨hanswers, hwarnings.trans ?_, ?_, ?_⟩
  · decide +kernel
  · decide +kernel
  · decide +kernel

end Rewriting

end PageNotes
