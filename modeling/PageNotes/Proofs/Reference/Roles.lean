import PageNotes.Proofs.Reference.PageLink
import PageNotes.Proofs.Reference.Remote
import PageNotes.Proofs.Text.Caseless
import PageNotes.Reference.Asset

/-!
The two roles of a link: one to a page, which becomes the slug of this page, and one to an
attachment, which is looked for. The path of an attachment ends at the first `?` or `#`, that of a
page at the first `#` alone, so a link has both roles when an attachment has a query that ends like
the name of a page. The link to the page comes first, and what it becomes has no ending, so no such
link is looked for.

* `splitExtension_shape`: the ending of a name;
* `asset_of_namesPage`: a path without a query has one role at most;
* `pageLink_asset_iff`: the links with both roles;
* `IsLinkPrefix`, `hasAssetExtension_pageLink`: what links to pages become has no ending;
* `tagsMapAccum_visit_links`: a search in which these links do not count;
* `Rewriting.links_settled`: links to pages are left alone by the search for attachments.
-/

namespace PageNotes

/-! ### Endings -/

/-- What a name is cut at is nothing or its last point, with all that follows. -/
lemma splitExtension_shape (t : Text) :
    (splitExtension t).2 = [] ∨ (splitExtension t).2 = '.' :: Text.takeEnd (· ≠ '.') t := by
  rw [splitExtension]
  dsimp only
  split_ifs with hpoint
  · right
    obtain ⟨before, after, hbody⟩ := List.append_of_mem (List.contains_iff_mem.mp hpoint)
    have hname : Text.trimEnd (· ≠ '/') t ++ baseName t = t := Text.trimEnd_append_takeEnd _ t
    obtain ⟨points, hpoints⟩ := @List.dropWhile_suffix _ (baseName t) (· = '.')
    have hstop : decide ('.' ≠ '.') = false := by decide
    have hwhole : t = (Text.trimEnd (· ≠ '/') t ++ points ++ before) ++ '.' :: after := by
      rw [List.append_assoc, List.append_assoc, ← hbody, hpoints, hname]
    rw [hbody, Text.takeEnd_append_cons hstop]
    conv_rhs => rw [hwhole, Text.takeEnd_append_cons hstop]
  · exact Or.inl rfl

/-- A name that is not cut has no ending of an attachment. -/
lemma noEnding_asset : assetExtensions.contains (String.ofList (Text.lower [])) = false := by
  decide +kernel

/-- The endings of pages are none of attachments. -/
lemma pageExtensions_asset : ∀ ending ∈ pageExtensions,
    assetExtensions.contains (String.ofList ending) = false := by
  decide +kernel

/-- A path that ends like a page has no ending of an attachment. -/
lemma asset_of_namesPage {path : Text} (h : namesPage path = true) :
    assetExtensions.contains (String.ofList (splitExtension path).2.lower) = false := by
  obtain ⟨t, letters, rfl, -, hending, hletters⟩ := exists_pageEnding h
  have hascii : ∀ c ∈ '.' :: letters, IsAscii c := by
    intro c hc
    rcases List.mem_cons.mp hc with rfl | hc
    · decide
    · exact (hletters c hc).2.1
  rcases splitExtension_shape (t ++ '.' :: letters) with hnone | hsome
  · rw [hnone]
    exact noEnding_asset
  · rw [hsome, takeEnd_point fun d hd => (hletters d hd).1, Text.lower_ascii hascii]
    exact pageExtensions_asset _ hending

/-- Whether a text with a query names a page is told from the query. -/
lemma namesPage_query (path query : Text) :
    namesPage (path ++ '?' :: query) = namesPage query := by
  have hlower : Text.lower (path ++ '?' :: query) = path.lower ++ '?' :: query.lower := by
    rw [Text.lower_append isCaseless_questionMark (by simp),
      Text.lower_cons_kept isCaseless_questionMark (decide_eq_true rfl)]
  rw [namesPage, namesPage, hlower, Bool.eq_iff_iff, List.any_eq_true, List.any_eq_true]
  refine exists_congr fun ending => and_congr_right fun hending => ?_
  have hmark : '?' ∉ ending := by
    have hall : ∀ ending ∈ pageExtensions, '?' ∉ ending := by decide +kernel
    exact hall ending hending
  rw [Text.endsWith, Text.endsWith, List.isSuffixOf_iff_suffix, List.isSuffixOf_iff_suffix]
  constructor
  · intro hsuffix
    rcases List.suffix_or_suffix_of_suffix hsuffix (List.suffix_append _ _) with hwithin | hbeyond
    · rcases List.suffix_cons_iff.mp hwithin with hwhole | hquery
      · exact absurd (hwhole ▸ List.mem_cons_self) hmark
      · exact hquery
    · exact absurd (hbeyond.subset List.mem_cons_self) hmark
  · exact fun hsuffix => hsuffix.trans ⟨path.lower ++ ['?'], by simp⟩

/-! ### Links with both roles -/

/-- The ending of an attachment is that of its path. -/
lemma hasAssetExtension_append {path rest : Text} (hpath : ∀ c ∈ path, c ≠ '?' ∧ c ≠ '#')
    (hrest : ∀ c ∈ rest.head?, c = '?' ∨ c = '#') :
    hasAssetExtension (path ++ rest)
      = assetExtensions.contains (String.ofList (splitExtension path).2.lower) := by
  rw [hasAssetExtension, splitReference_eq hpath hrest]

/-- Whether a link leads to a page is told from what stands before its fragment. -/
lemma pageLink?_isSome {path tail : Text} (hpath : '#' ∉ path) (htail : ∀ c ∈ tail.head?, c = '#')
    (linkPrefix : Text) :
    (pageLink? linkPrefix (path ++ tail)).isSome = true ↔
      isLocalReference (path ++ tail) = true ∧ namesPage path = true := by
  rw [pageLink?, cut_append hpath htail]
  dsimp only
  split_ifs with hlocal hpage
  · simp [hlocal, hpage]
  · simp [hpage]
  · simp [hlocal]

/-- **Links with both roles**: a link is replaced as one to a page and has the ending of an
attachment just when it is local, its path has this ending, and a query that ends like the name of a
page follows it. A link without a query has one role at most. -/
theorem pageLink_asset_iff (linkPrefix href : Text) :
    ((pageLink? linkPrefix href).isSome = true ∧ hasAssetExtension href = true) ↔
      isLocalReference href = true ∧ ∃ path query tail, href = path ++ '?' :: (query ++ tail) ∧
        (∀ c ∈ path, c ≠ '?' ∧ c ≠ '#') ∧ '#' ∉ query ∧ (∀ c ∈ tail.head?, c = '#') ∧
          hasAssetExtension path = true ∧ namesPage query = true := by
  constructor
  · rintro ⟨hlink, hasset⟩
    -- what stands before the fragment tells whether the link is one to a page
    obtain ⟨before, tail, rfl, hbefore, htail⟩ := exists_cut '#' href
    obtain ⟨hlocal, hpage⟩ := (pageLink?_isSome hbefore htail linkPrefix).mp hlink
    have hplain {path : Text} (hfirst : '?' ∉ path) (hwithin : path ⊆ before) :
        ∀ c ∈ path, c ≠ '?' ∧ c ≠ '#' := by
      intro c hc
      constructor <;> rintro rfl
      · exact hfirst hc
      · exact hbefore (hwithin hc)
    by_cases hquery : '?' ∈ before
    · obtain ⟨path, query, rfl, hfirst⟩ := List.eq_append_cons_of_mem hquery
      have hpath := hplain hfirst (List.subset_append_left _ _)
      rw [List.append_assoc, List.cons_append] at hasset hlocal ⊢
      rw [hasAssetExtension_append hpath (by simp)] at hasset
      refine ⟨hlocal, path, query, tail, rfl, hpath, fun hmem => hbefore (by simp [hmem]), htail,
        ?_, ?_⟩
      · rw [← List.append_nil path, hasAssetExtension_append hpath (by simp)]
        exact hasset
      · rwa [namesPage_query] at hpage
    · -- both roles are told from the same path
      rw [hasAssetExtension_append (hplain hquery (List.Subset.refl _)) fun c hc =>
        Or.inr (htail c hc), asset_of_namesPage hpage] at hasset
      cases hasset
  · rintro ⟨hlocal, path, query, tail, rfl, hpath, hquery, htail, hasset, hpage⟩
    have hbefore : '#' ∉ path ++ '?' :: query := by
      rw [List.mem_append, List.mem_cons, not_or, not_or]
      exact ⟨fun hmem => (hpath _ hmem).2 rfl, by decide, hquery⟩
    rw [← List.append_nil path, hasAssetExtension_append hpath (by simp)] at hasset
    rw [hasAssetExtension_append hpath (by simp)]
    refine ⟨?_, hasset⟩
    rw [← List.cons_append, ← List.append_assoc] at hlocal ⊢
    exact (pageLink?_isSome hbefore htail linkPrefix).mpr ⟨hlocal, by rwa [namesPage_query]⟩

/-- An attachment with a query is taken for a page. -/
example : pageLink? [] "a.pdf?x.html".toList = some "apdfx".toList ∧
    hasAssetExtension "a.pdf?x.html".toList = true := by
  decide +kernel

/-! ### What links to pages become -/

/-- What may stand before the slugs in links: nothing or the name of a folder, without the marks of
queries and fragments. -/
structure IsLinkPrefix (linkPrefix : Text) : Prop where
  folder : linkPrefix = [] ∨ linkPrefix.getLast? = some '/'
  plain : ∀ c ∈ linkPrefix, c ≠ '?' ∧ c ≠ '#'

section Targets

variable {linkPrefix : Text} (hfolder : IsLinkPrefix linkPrefix)
include hfolder

lemma IsLinkPrefix.baseName_append {slug : Text} (h : '/' ∉ slug) :
    baseName (linkPrefix ++ slug) = slug := by
  have hslug : ∀ c ∈ slug, decide (c ≠ '/') = true := by
    intro c hc
    rw [decide_eq_true_eq]
    rintro rfl
    exact h hc
  rcases hfolder.folder with rfl | hlast
  · rw [List.nil_append, baseName, Text.takeEnd_eq_self hslug]
  · obtain ⟨folders, rfl⟩ := List.getLast?_eq_some_iff.mp hlast
    rw [List.append_assoc, List.singleton_append, baseName, Text.takeEnd_append_cons (by decide),
      Text.takeEnd_eq_self hslug]

/-- What a link to a page becomes has no ending, whatever the name of the page and the fragment
are. -/
lemma hasAssetExtension_pageLink {href target : Text}
    (h : pageLink? linkPrefix href = some target) : hasAssetExtension target = false := by
  obtain ⟨-, fragment, rfl, hfragment⟩ := pageLink?_eq_some h
  generalize hslug : pageSlug (Text.cut '#' href).1 = slug
  have hchars : ∀ c ∈ slug, c ≠ '?' ∧ c ≠ '#' ∧ c ≠ '/' ∧ c ≠ '.' := by
    intro c hc
    rw [← hslug, pageSlug] at hc
    have hkept := isSlugChar_of_mem hc
    refine ⟨?_, ?_, ?_, ?_⟩ <;> rintro rfl <;> exact absurd hkept (by decide +kernel)
  have hpath : ∀ c ∈ linkPrefix ++ slug, c ≠ '?' ∧ c ≠ '#' := by
    intro c hc
    rcases List.mem_append.mp hc with hc | hc
    · exact hfolder.plain c hc
    · exact ⟨(hchars c hc).1, (hchars c hc).2.1⟩
  have hname := hfolder.baseName_append fun hmem => (hchars _ hmem).2.2.1 rfl
  have hpoint : ¬(slug.dropWhile (· = '.')).contains '.' = true := by
    rw [List.contains_iff_mem]
    exact fun hmem => (hchars _ ((List.dropWhile_suffix _).subset hmem)).2.2.2 rfl
  rw [hasAssetExtension_append hpath fun c hc => Or.inr (hfragment c hc), splitExtension, hname,
    if_neg hpoint]
  exact noEnding_asset

end Targets

section Pass

variable {linkPrefix : Text} {count : Nat} {name : String} {attributes : Attributes}

/-- What the target of an element becomes if it is a link to a page. -/
def pageTarget? (linkPrefix : Text) : String × Attributes → Option Text
  | (name, attributes) =>
    if name = "a" then (attributes.get? "href").bind (pageLink? linkPrefix) else none

lemma rewriteLink_eq_some {target : Text}
    (h : pageTarget? linkPrefix (name, attributes) = some target) :
    rewriteLink linkPrefix count name attributes = (attributes.set "href" target, count + 1) := by
  rw [pageTarget?] at h
  split_ifs at h with hname
  rw [rewriteLink, if_pos hname, h]

lemma rewriteLink_eq_none (h : pageTarget? linkPrefix (name, attributes) = none) :
    rewriteLink linkPrefix count name attributes = (attributes, count) := by
  rw [pageTarget?] at h
  rw [rewriteLink]
  split_ifs at h ⊢
  · rw [h]
  · rfl

end Pass

/-! ### The search behind them -/

/-- Whether an element has as its target what a link to a page became, and is as it was
otherwise. -/
def KeepsLink (linkPrefix : Text) (before after : String × Attributes) : Prop :=
  ∀ target, pageTarget? linkPrefix before = some target →
    after = (before.1, before.2.set "href" target)

section Search

variable {settings : RewriteSettings} (hsettings : IsLinkPrefix settings.linkPrefix)
include hsettings

/-- A rewritten link is passed over. -/
lemma AssetSearch.visit_link (search : AssetSearch) {name : String} {attributes : Attributes}
    {target : Text} (h : pageTarget? settings.linkPrefix (name, attributes) = some target) :
    search.visit settings name (attributes.set "href" target)
      = (attributes.set "href" target, search) := by
  rw [pageTarget?] at h
  split_ifs at h with hname
  obtain ⟨href, -, hlink⟩ := Option.bind_eq_some_iff.mp h
  have hnone : assetCandidate? name (attributes.set "href" target) = none := by
    simp [assetCandidate?, assetAttribute?, hname, Attributes.get?_set,
      hasAssetExtension_pageLink hsettings hlink]
  rw [visit, hnone, ite_self]

/-- A search goes as it would without the links to pages, which keep their new targets. -/
lemma tagsMapAccum_visit_links (search : AssetSearch) (count : Nat)
    (tags : List (String × Attributes)) :
    List.Forall₂ (KeepsLink settings.linkPrefix) tags
        (tagsMapAccum (AssetSearch.visit settings) search
          (tagsMapAccum (rewriteLink settings.linkPrefix) count tags).1).1 ∧
      (tagsMapAccum (AssetSearch.visit settings) search
          (tagsMapAccum (rewriteLink settings.linkPrefix) count tags).1).2
        = (tagsMapAccum (AssetSearch.visit settings) search
            (tags.filter fun tag => (pageTarget? settings.linkPrefix tag).isNone)).2 := by
  induction tags generalizing search count with
  | nil => exact ⟨.nil, rfl⟩
  | cons tag tags ih =>
      obtain ⟨name, attributes⟩ := tag
      cases htarget : pageTarget? settings.linkPrefix (name, attributes) with
      | some target =>
          obtain ⟨hkept, hsearch⟩ := ih search (count + 1)
          simp only [tagsMapAccum, rewriteLink_eq_some htarget,
            AssetSearch.visit_link hsettings search htarget]
          rw [List.filter_cons_of_neg (by simp [htarget])]
          refine ⟨.cons (fun other hother => ?_) hkept, hsearch⟩
          rw [htarget] at hother
          rw [Option.some.inj hother]
      | none =>
          obtain ⟨hkept, hsearch⟩ := ih (search.visit settings name attributes).2 count
          simp only [tagsMapAccum, rewriteLink_eq_none htarget]
          rw [List.filter_cons_of_pos (by simp [htarget])]
          refine ⟨.cons (fun other hother => ?_) hkept, hsearch⟩
          rw [htarget] at hother
          cases hother

/-- **Links to pages are settled**: with a prefix of links that is nothing or the name of a folder,
each link to a page has its new target in the end and is as it was otherwise, whatever the store
answers. The search for attachments goes as it would in a page without these links, with the same
assets, warnings and files asked for, and each of these files is that of a candidate of an element
that is no such link. -/
theorem Rewriting.links_settled (document : Forest) :
    List.Forall₂ (KeepsLink settings.linkPrefix) (forestTags document)
        (forestTags (Rewriting.of settings document).document) ∧
      (Rewriting.of settings document).search
        = (tagsMapAccum (AssetSearch.visit settings) .start ((forestTags document).filter
            fun tag => (pageTarget? settings.linkPrefix tag).isNone)).2 ∧
      ∀ path ∈ (Rewriting.of settings document).search.asked, ∃ tag ∈ forestTags document,
        pageTarget? settings.linkPrefix tag = none ∧
          ∃ value, (tagReference? tag).bind candidate? = some value ∧
            settings.target value = path := by
  obtain ⟨hkept, hsearch⟩ := tagsMapAccum_visit_links hsettings .start 0 (forestTags document)
  have hwithout : (Rewriting.of settings document).search
      = (tagsMapAccum (AssetSearch.visit settings) .start ((forestTags document).filter
          fun tag => (pageTarget? settings.linkPrefix tag).isNone)).2 := by
    rw [of_search, rewriteLinks, forestMapAccum_tags, hsearch]
  refine ⟨?_, hwithout, fun path hpath => ?_⟩
  · rw [of_tags]
    exact hkept
  · rw [hwithout] at hpath
    have hcandidate := AssetSearch.asked_subset_candidates settings .start _ hpath
    obtain ⟨value, hvalue, rfl⟩ := List.mem_map.mp hcandidate
    obtain ⟨reference, hreference, hvalue⟩ := List.mem_filterMap.mp hvalue
    obtain ⟨tag, htag, hreference⟩ := List.mem_filterMap.mp hreference
    obtain ⟨hmem, hother⟩ := List.mem_filter.mp htag
    refine ⟨tag, hmem, Option.isNone_iff_eq_none.mp hother, value, ?_, rfl⟩
    rw [hreference, Option.bind_some, hvalue]

end Search

/-- A page with a link whose name and fragment have the endings of attachments, one to an attachment
with a query that names a page, and an attachment. -/
def attachedPage : Forest := [
  .element "a" [("href", "report.pdf.html#p.png".toList), ("id", ['r'])] [.text .plain ['r']],
  .element "a" [("href", "data.zip?next=a.html".toList)] [.text .plain ['d']],
  .element "a" [("href", "notes.pdf".toList)] [.text .plain ['n']]]

/-- The attachment alone is looked for. -/
theorem Rewriting.links_settled_attached :
    (forestTags (Rewriting.of mixedSettings attachedPage).document).take 2
        = [("a", [("href", "/notes/reportpdf#p.png".toList), ("id", ['r'])]),
            ("a", [("href", "/notes/datazipnexta".toList)])] ∧
      (Rewriting.of mixedSettings attachedPage).search.asked = [.ofText "/notes.pdf".toList] ∧
      (Rewriting.of mixedSettings attachedPage).search.warnings
        = [missingWarning (.ofText "/notes.pdf".toList)] := by
  have hplain : mixedSettings.linkPrefix.all (fun c => c ≠ '?' ∧ c ≠ '#') = true := by decide
  obtain ⟨hkept, hsearch, -⟩ := @links_settled mixedSettings
    ⟨Or.inr rfl, fun c hc => of_decide_eq_true (List.all_eq_true.mp hplain c hc)⟩ attachedPage
  refine ⟨?_, ?_, ?_⟩
  · have htags : forestTags attachedPage
        = [("a", [("href", "report.pdf.html#p.png".toList), ("id", ['r'])]),
            ("a", [("href", "data.zip?next=a.html".toList)]),
            ("a", [("href", "notes.pdf".toList)])] := rfl
    rw [htags] at hkept
    generalize forestTags (Rewriting.of mixedSettings attachedPage).document = after at hkept ⊢
    obtain _ | ⟨hfirst, _ | ⟨hsecond, _⟩⟩ := hkept
    rw [hfirst "/notes/reportpdf#p.png".toList (by decide +kernel),
      hsecond "/notes/datazipnexta".toList (by decide +kernel)]
    rfl
  · rw [hsearch]
    decide +kernel
  · rw [hsearch]
    decide +kernel

end PageNotes
