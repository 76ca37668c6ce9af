import PageNotes.Proofs.Reference.Candidates
import PageNotes.Proofs.Text.Parts

/-!
Remote references, those that begin with a scheme or with `//` once the white space around them is
taken off. Whether a reference is local is told from its first characters as they stand, so a
remote reference is passed over just when no white space stands before it, or when it is the target
of a link that neither names a page nor has the ending of an attachment.

* `isRemoteReference`, `isMistaken`: the remote references, and those of them that are not passed
  over;
* `isLocal_spaced`, `isLocal_remote`: how they are told from local ones;
* `withoutRemote`: a document with the remote references that are passed over left blank;
* `Rewriting.remote_passed`: what becomes of remote references.
-/

namespace PageNotes

/-! ### Kinds of references -/

/-- White space around a reference. -/
def isReferenceSpace (c : Char) : Bool :=
  c = ' ' || c = '\t' || c = '\n' || c = '\x0c' || c = '\r'

/-- A reference that is absolute but for white space around it. -/
def isRemoteReference (r : Text) : Bool := isAbsoluteReference (r.trim isReferenceSpace)

/-- Whether a reference with white space before it is used as one to a file beside the page: it is
that of an image, names a page or has the ending of an attachment. -/
def isMistaken (name : String) (r : Text) : Bool :=
  r.head?.any isReferenceSpace &&
    (name = "img" || namesPage (Text.cut '#' r).1 || hasAssetExtension r)

lemma startsWithScheme_append {r : Text} (h : startsWithScheme r = true) (more : Text) :
    startsWithScheme (r ++ more) = true := by
  cases r with
  | nil => cases h
  | cons c t =>
      simp only [startsWithScheme, Bool.and_eq_true, decide_eq_true_eq] at h
      obtain ⟨hletter, hcolon⟩ := h
      have hrest : t.dropWhile isSchemeChar ≠ [] := by
        intro hnil
        simp [hnil] at hcolon
      simp only [List.cons_append, startsWithScheme, hletter, Bool.true_and, decide_eq_true_eq]
      rw [List.dropWhile_append, if_neg (by simpa using hrest), List.head?_append, hcolon]
      rfl

lemma isAbsoluteReference_append {r : Text} (h : isAbsoluteReference r = true) (more : Text) :
    isAbsoluteReference (r ++ more) = true := by
  rw [isAbsoluteReference, Bool.or_eq_true] at h ⊢
  rcases h with h | h
  · left
    rw [List.isPrefixOf_iff_prefix] at h ⊢
    exact h.trans (List.prefix_append r more)
  · exact Or.inr (startsWithScheme_append h more)

/-- A reference with white space before it is local, whatever follows. -/
lemma isLocal_spaced {r : Text} (h : r.head?.any isReferenceSpace = true) :
    isLocalReference r = true := by
  cases r with
  | nil => cases h
  | cons c t =>
      rw [List.head?_cons, Option.any_some] at h
      have hspace : c = ' ' ∨ c = '\t' ∨ c = '\n' ∨ c = '\x0c' ∨ c = '\r' := by
        simpa [isReferenceSpace, or_assoc] using h
      obtain ⟨hslash, hletter, hsigma, hlower, hd, hhash⟩ : c ≠ '/' ∧ isAsciiLetter c = false ∧
          c ≠ 'Σ' ∧ lowerForm c = [c] ∧ c ≠ 'd' ∧ c ≠ '#' := by
        rcases hspace with rfl | rfl | rfl | rfl | rfl <;> decide +kernel
      refine (isLocal_iff _).mpr ⟨by simp, ?_, ?_, ?_⟩
      · have hslashes : Text.startsWith (c :: t) ['/', '/'] = false := by
          simp [Text.startsWith, List.isPrefixOf, Ne.symm hslash]
        simp [isAbsoluteReference, startsWithScheme, hletter, hslashes]
      · simp [isEmbeddedData, Text.lower, Text.lowerAfter, hsigma, hlower, hd]
      · simpa [isFragmentReference] using hhash

/-- A remote reference without white space before it is not local. -/
lemma isLocal_remote {r : Text} (hremote : isRemoteReference r = true)
    (h : r.head?.any isReferenceSpace = false) : isLocalReference r = false := by
  have hstart : r.trimStart isReferenceSpace = r := by
    cases r with
    | nil => rfl
    | cons c t =>
        rw [List.head?_cons, Option.any_some] at h
        rw [Text.trimStart, List.dropWhile_cons_of_neg (by simp [h])]
  rw [isRemoteReference, Text.trim, hstart] at hremote
  have habsolute : isAbsoluteReference r = true := by
    rw [← Text.trimEnd_append_takeEnd isReferenceSpace r]
    exact isAbsoluteReference_append hremote _
  rw [isLocalReference, habsolute, Bool.not_true, Bool.and_false, Bool.false_and, Bool.false_and]

/-! ### Pages without their remote references -/

/-- Whether a reference is remote and passed over. -/
def isPassedRemote (name : String) (value : Text) : Bool :=
  isRemoteReference value && !isMistaken name value

/-- A reference, left blank if it is remote and passed over. -/
def blankRemoteReference : String × Option Text → String × Option Text
  | (name, value) => (name, value.map fun v => if isPassedRemote name v then [] else v)

/-- The attributes of an element with its reference left blank if that is remote and passed over. -/
def blankRemote (name : String) (attributes : Attributes) : Attributes :=
  match assetAttribute? name with
  | some key =>
    if (attributes.get? key).any (isPassedRemote name) then attributes.set key [] else attributes
  | none => attributes

/-- A document with the remote references that are passed over left blank. -/
def withoutRemote (document : Forest) : Forest :=
  (forestMapAccum (fun _ name attributes => (blankRemote name attributes, ())) () document).1

lemma tagReference?_blankRemote (name : String) (attributes : Attributes) :
    tagReference? (name, blankRemote name attributes)
      = (tagReference? (name, attributes)).map blankRemoteReference := by
  cases hkey : assetAttribute? name with
  | none => rw [tagReference?_eq_none hkey, tagReference?_eq_none hkey, Option.map_none]
  | some key =>
      rw [tagReference?_eq_some hkey, tagReference?_eq_some hkey, Option.map_some, blankRemote,
        hkey]
      dsimp only
      cases hvalue : attributes.get? key with
      | none => simp [blankRemoteReference, hvalue]
      | some value =>
          cases hpassed : isPassedRemote name value with
          | true => simp [blankRemoteReference, hpassed, Attributes.get?_set]
          | false => simp [blankRemoteReference, hpassed, hvalue]

lemma forestTags_withoutRemote (document : Forest) :
    forestTags (withoutRemote document)
      = (forestTags document).map fun tag => (tag.1, blankRemote tag.1 tag.2) := by
  rw [withoutRemote, forestMapAccum_tags]
  induction forestTags document with
  | nil => rfl
  | cons tag tags ih =>
      obtain ⟨name, attributes⟩ := tag
      simp only [tagsMapAccum, ih, List.map_cons]

/-! ### What is passed over -/

/-- A remote reference that is passed over does not name a page that is linked to. -/
lemma pageLink?_isPassedRemote {value : Text} (h : isPassedRemote "a" value = true)
    (linkPrefix : Text) : pageLink? linkPrefix value = none := by
  rw [isPassedRemote, Bool.and_eq_true, Bool.not_eq_true', isMistaken, Bool.and_eq_false_iff] at h
  obtain ⟨hremote, hspaced | hother⟩ := h
  · simp [pageLink?, isLocal_remote hremote hspaced]
  · simp only [Bool.or_eq_false_iff] at hother
    simp [pageLink?, hother.1.2]

lemma relink_isPassedRemote {name : String} {value : Text} (h : isPassedRemote name value = true)
    (linkPrefix : Text) : relink linkPrefix (name, some value) = (name, some value) := by
  rw [relink]
  split_ifs with hname
  · subst hname
    simp [pageLink?_isPassedRemote h]
  · rfl

/-- A remote reference that is passed over is no candidate. -/
lemma candidate?_isPassedRemote {name : String} {value : Text}
    (h : isPassedRemote name value = true) : candidate? (name, some value) = none := by
  rw [isPassedRemote, Bool.and_eq_true, Bool.not_eq_true', isMistaken, Bool.and_eq_false_iff] at h
  obtain ⟨hremote, hspaced | hother⟩ := h
  · simp [candidate?, isLocal_remote hremote hspaced]
  · simp only [Bool.or_eq_false_iff, decide_eq_false_iff_not] at hother
    simp [candidate?, hother.1.1, hother.2]

lemma candidate?_blank (linkPrefix : Text) (name : String) :
    candidate? (relink linkPrefix (name, some [])) = none := by
  simp [relink, pageLink?, candidate?, isLocalReference]

/-- A reference that is left blank is a candidate as little as before. -/
lemma candidate?_relink_blankRemoteReference (linkPrefix : Text)
    (reference : String × Option Text) :
    candidate? (relink linkPrefix (blankRemoteReference reference))
      = candidate? (relink linkPrefix reference) := by
  obtain ⟨name, value⟩ := reference
  cases value with
  | none => rfl
  | some value =>
      rw [blankRemoteReference, Option.map_some]
      split_ifs with hpassed
      · rw [relink_isPassedRemote hpassed, candidate?_isPassedRemote hpassed, candidate?_blank]
      · rfl

/-- As many links to pages are rewritten as before. -/
lemma rewriteLink_blankRemote (linkPrefix : Text) (count : Nat) (name : String)
    (attributes : Attributes) :
    (rewriteLink linkPrefix count name (blankRemote name attributes)).2
      = (rewriteLink linkPrefix count name attributes).2 := by
  by_cases hname : name = "a"
  · subst hname
    have hblank := tagReference?_blankRemote "a" attributes
    rw [tagReference?_eq_some rfl, tagReference?_eq_some rfl, Option.map_some, blankRemoteReference,
      Option.some_inj, Prod.mk.injEq] at hblank
    have hsame : ((blankRemote "a" attributes).get? "href").bind (pageLink? linkPrefix)
        = (attributes.get? "href").bind (pageLink? linkPrefix) := by
      rw [hblank.2]
      cases attributes.get? "href" with
      | none => rfl
      | some value =>
          rw [Option.map_some, Option.bind_some, Option.bind_some]
          split_ifs with hpassed
          · rw [pageLink?_isPassedRemote hpassed]
            rfl
          · rfl
    rw [rewriteLink, rewriteLink, if_pos rfl, if_pos rfl, hsame]
    cases (attributes.get? "href").bind (pageLink? linkPrefix) <;> rfl
  · rw [rewriteLink, rewriteLink, if_neg hname, if_neg hname]

lemma tagsMapAccum_rewriteLink_blankRemote (linkPrefix : Text) (count : Nat)
    (tags : List (String × Attributes)) :
    (tagsMapAccum (rewriteLink linkPrefix) count
        (tags.map fun tag => (tag.1, blankRemote tag.1 tag.2))).2
      = (tagsMapAccum (rewriteLink linkPrefix) count tags).2 := by
  induction tags generalizing count with
  | nil => rfl
  | cons tag tags ih =>
      simp only [List.map_cons, tagsMapAccum]
      rw [rewriteLink_blankRemote]
      exact ih _

namespace AssetSearch

variable {settings : RewriteSettings} {search : AssetSearch} {name : String}
  {attributes : Attributes} {tags : List (String × Attributes)}

/-- What a visit leads to depends on the candidate of the element alone. -/
lemma visit_state_congr {other : Attributes}
    (h : (tagReference? (name, other)).bind candidate?
      = (tagReference? (name, attributes)).bind candidate?) :
    (search.visit settings name other).2 = (search.visit settings name attributes).2 := by
  rw [candidate?_tagReference?, candidate?_tagReference?] at h
  rw [visit, visit]
  by_cases hover : search.failure.isSome
  · rw [if_pos hover, if_pos hover]
  · rw [if_neg hover, if_neg hover]
    cases hcandidate : assetCandidate? name attributes with
    | none =>
        rw [hcandidate, Option.map_none, Option.map_eq_none_iff] at h
        rw [h]
    | some found =>
        obtain ⟨key, value⟩ := found
        rw [hcandidate, Option.map_some, Option.map_eq_some_iff] at h
        obtain ⟨⟨otherKey, otherValue⟩, hother, rfl⟩ := h
        rw [hother]
        dsimp only
        split <;> rfl

/-- An element without a candidate is left as it is. -/
lemma visit_attributes (h : (tagReference? (name, attributes)).bind candidate? = none) :
    (search.visit settings name attributes).1 = attributes := by
  rw [candidate?_tagReference?, Option.map_eq_none_iff] at h
  rw [visit, h, ite_self]

/-- A search goes as it would if the remote references that are passed over were blank. -/
lemma tagsMapAccum_blankRemote (linkPrefix : Text) (count : Nat) :
    (tagsMapAccum (visit settings) search
        (tagsMapAccum (rewriteLink linkPrefix) count
          (tags.map fun tag => (tag.1, blankRemote tag.1 tag.2))).1).2
      = (tagsMapAccum (visit settings) search
          (tagsMapAccum (rewriteLink linkPrefix) count tags).1).2 := by
  induction tags generalizing search count with
  | nil => rfl
  | cons tag tags ih =>
      obtain ⟨name, attributes⟩ := tag
      have hvisit : ((search.visit settings name
            (rewriteLink linkPrefix count name (blankRemote name attributes)).1)).2
          = (search.visit settings name (rewriteLink linkPrefix count name attributes).1).2 := by
        refine visit_state_congr ?_
        rw [tagReference?_rewriteLink, tagReference?_rewriteLink, tagReference?_blankRemote]
        cases tagReference? (name, attributes) with
        | none => rfl
        | some reference => exact candidate?_relink_blankRemoteReference linkPrefix reference
      simp only [List.map_cons, tagsMapAccum]
      rw [hvisit, rewriteLink_blankRemote]
      exact ih _

/-- A visit that goes on has asked for the file of the candidate. -/
lemma visit_asked (hend : (search.visit settings name attributes).2.failure = none) :
    (search.visit settings name attributes).2.asked = search.asked ++
      ((tagReference? (name, attributes)).bind candidate?).toList.map settings.target := by
  have hway := visits settings search name attributes
  generalize search.visit settings name attributes = result at hway hend ⊢
  rw [candidate?_tagReference?]
  cases hway with
  | passed hpassed =>
      have hopen : search.failure = none := hend
      rw [hpassed.resolve_left (by simp [hopen])]
      simp
  | stopped => simp at hend
  | missing hcandidate | found hcandidate => simp [hcandidate]

/-- A search that comes to its end has asked for the file of each candidate. -/
lemma tagsMapAccum_asked
    (hend : (tagsMapAccum (visit settings) search tags).2.failure = none) :
    (tagsMapAccum (visit settings) search tags).2.asked = search.asked ++
      ((tags.filterMap tagReference?).filterMap candidate?).map settings.target := by
  induction tags generalizing search with
  | nil => simp [tagsMapAccum]
  | cons tag tags ih =>
      obtain ⟨name, attributes⟩ := tag
      have hmid := (@tagsMapAccum_visit settings _ tags hend).1
      have hrest := ih hend
      rw [filterMap_candidate?_cons, List.map_append, ← List.append_assoc, ← visit_asked hmid]
      exact hrest

end AssetSearch

namespace Rewriting

/-- Whether a reference is as it was if it is remote and passed over. -/
def KeepsRemote (before after : String × Option Text) : Prop :=
  ∀ name value, before = (name, some value) → isPassedRemote name value = true → after = before

/-- An element that may have a reference is seen with its reference as it was if that is remote and
passed over. -/
lemma tagsMapAccum_keepsRemote (settings : RewriteSettings) (search : AssetSearch) (count : Nat)
    (tags : List (String × Attributes)) :
    List.Forall₂ KeepsRemote (tags.filterMap tagReference?)
      ((tagsMapAccum (AssetSearch.visit settings) search
        (tagsMapAccum (rewriteLink settings.linkPrefix) count tags).1).1.filterMap
          tagReference?) := by
  induction tags generalizing search count with
  | nil => exact .nil
  | cons tag tags ih =>
      obtain ⟨name, attributes⟩ := tag
      have hrest := ih (search.visit settings name
          (rewriteLink settings.linkPrefix count name attributes).1).2
        (rewriteLink settings.linkPrefix count name attributes).2
      simp only [tagsMapAccum]
      cases hkey : assetAttribute? name with
      | none =>
          rw [List.filterMap_cons, tagReference?_eq_none hkey, List.filterMap_cons,
            tagReference?_eq_none hkey]
          exact hrest
      | some key =>
          rw [List.filterMap_cons, tagReference?_eq_some hkey, List.filterMap_cons,
            tagReference?_eq_some hkey]
          refine .cons (fun other value hreference hpassed => ?_) hrest
          obtain ⟨rfl, hvalue⟩ := Prod.mk.inj hreference
          have hlinked := tagReference?_rewriteLink settings.linkPrefix count name attributes
          rw [tagReference?_eq_some hkey attributes, hvalue, Option.map_some,
            relink_isPassedRemote hpassed] at hlinked
          rw [AssetSearch.visit_attributes
            (by rw [hlinked, Option.bind_some, candidate?_isPassedRemote hpassed]), hvalue,
            ← Option.some_inj, ← hlinked, tagReference?_eq_some hkey]

lemma of_tags (settings : RewriteSettings) (document : Forest) :
    forestTags (Rewriting.of settings document).document
      = (tagsMapAccum (AssetSearch.visit settings) .start
          (tagsMapAccum (rewriteLink settings.linkPrefix) 0 (forestTags document)).1).1 := by
  rw [← forestMapAccum_tags, ← forestMapAccum_tags]
  rfl

lemma of_links (settings : RewriteSettings) (document : Forest) :
    (Rewriting.of settings document).links
      = (tagsMapAccum (rewriteLink settings.linkPrefix) 0 (forestTags document)).2 := by
  rw [← forestMapAccum_state]
  rfl

lemma name_of_reference {document : Forest} {name : String} {value : Option Text}
    (h : (name, value) ∈ documentReferences document) : name = "img" ∨ name = "a" := by
  rw [documentReferences_tags] at h
  obtain ⟨⟨tagName, attributes⟩, -, htag⟩ := List.mem_filterMap.mp h
  obtain ⟨key, hkey, hpair⟩ := Option.map_eq_some_iff.mp htag
  obtain ⟨rfl, -⟩ := Prod.mk.inj hpair
  rw [assetAttribute?] at hkey
  split_ifs at hkey with himage hlink
  · exact Or.inl himage
  · exact Or.inr hlink

/-- A reference that is mistaken is replaced by a link to a page or is a candidate. -/
lemma mistaken_used {settings : RewriteSettings} {document : Forest} {name : String} {value : Text}
    (hmem : (name, some value) ∈ documentReferences document)
    (hmistaken : isMistaken name value = true) :
    (name = "a" ∧ (pageLink? settings.linkPrefix value).isSome) ∨
      value ∈ settings.candidates document := by
  rw [isMistaken, Bool.and_eq_true] at hmistaken
  obtain ⟨hspaced, hused⟩ := hmistaken
  have hlocal := isLocal_spaced hspaced
  rcases name_of_reference hmem with rfl | rfl
  · right
    rw [RewriteSettings.candidates, linkedReferences_eq]
    refine List.mem_filterMap.mpr ⟨_, List.mem_map.mpr ⟨_, hmem, rfl⟩, ?_⟩
    simp [relink, candidate?, hlocal]
  · cases hpage : namesPage (Text.cut '#' value).1 with
    | true => exact Or.inl ⟨rfl, by simp [pageLink?, hlocal, hpage]⟩
    | false =>
        have hextension : hasAssetExtension value = true := by simpa [hpage] using hused
        have hlink : pageLink? settings.linkPrefix value = none := by
          simp [pageLink?, hlocal, hpage]
        right
        rw [RewriteSettings.candidates, linkedReferences_eq]
        refine List.mem_filterMap.mpr ⟨_, List.mem_map.mpr ⟨_, hmem, rfl⟩, ?_⟩
        simp [relink, candidate?, hlocal, hlink, hextension]

/-- **Remote references are passed over**, but for those that are mistaken: the references of a page
that are remote and passed over are as they were, whatever the store answers, and the rewriting goes
as it would if they were blank: with the same number of links, the same files asked for, the same
assets and the same warnings. Those that are mistaken are used as local ones: each is replaced by a
link to a page or is among the candidates, all of which are asked for in a search that comes to its
end. -/
theorem remote_passed (settings : RewriteSettings) (document : Forest) :
    List.Forall₂ KeepsRemote (documentReferences document)
        (documentReferences (Rewriting.of settings document).document) ∧
      (Rewriting.of settings document).links
        = (Rewriting.of settings (withoutRemote document)).links ∧
      (Rewriting.of settings document).search
        = (Rewriting.of settings (withoutRemote document)).search ∧
      (∀ name value, (name, some value) ∈ documentReferences document →
        isMistaken name value = true →
        (name = "a" ∧ (pageLink? settings.linkPrefix value).isSome) ∨
          value ∈ settings.candidates document) ∧
      ((Rewriting.of settings document).search.failure = none →
        (Rewriting.of settings document).search.asked
          = (settings.candidates document).map settings.target) := by
  refine ⟨?_, ?_, ?_, ?_, ?_⟩
  · rw [documentReferences_tags, documentReferences_tags, of_tags]
    exact tagsMapAccum_keepsRemote settings .start 0 (forestTags document)
  · rw [of_links, of_links, forestTags_withoutRemote, tagsMapAccum_rewriteLink_blankRemote]
  · rw [of_search, of_search, rewriteLinks, rewriteLinks, forestMapAccum_tags, forestMapAccum_tags,
      forestTags_withoutRemote, AssetSearch.tagsMapAccum_blankRemote]
  · exact fun name value hmem hmistaken => mistaken_used hmem hmistaken
  · intro hend
    rw [candidates_tags]
    rw [of_search] at hend ⊢
    exact AssetSearch.tagsMapAccum_asked hend

/-- A page with remote references, three of them with white space before them. -/
def remotePage : Forest := [
  .element "a" [("href", "http://example.org/page.html".toList)] [.text .plain ['o']],
  .element "a" [("href", " http://example.org/page.html".toList)] [.text .plain ['o']],
  .element "img" [("src", "https://example.org/i.png ".toList)] [],
  .element "img" [("src", "\n//example.org/i.png".toList)] [],
  .element "a" [("href", " mailto:me@example.org".toList)] [.text .plain ['m']]]

/-- White space makes a link to a page of the one that it stands before, and a missing file of the
image; it does no harm to the link to an address. -/
theorem remote_passed_spaced :
    documentReferences (Rewriting.of mixedSettings remotePage).document
        = [("a", some "http://example.org/page.html".toList), ("a", some "/notes/page".toList),
            ("img", some "https://example.org/i.png ".toList),
            ("img", some "\n//example.org/i.png".toList),
            ("a", some " mailto:me@example.org".toList)] ∧
      (Rewriting.of mixedSettings remotePage).links = 1 ∧
      "\n//example.org/i.png".toList ∈ mixedSettings.candidates remotePage ∧
      (Rewriting.of mixedSettings remotePage).search.asked
        = [.ofText "/\n/example.org/i.png".toList] ∧
      (Rewriting.of mixedSettings (withoutRemote remotePage)).search.warnings
        = [missingWarning (.ofText "/\n/example.org/i.png".toList)] := by
  obtain ⟨-, hlinks, hsearch, hmistaken, hasked⟩ := remote_passed mixedSettings remotePage
  refine ⟨by decide +kernel, hlinks.trans (by decide +kernel), ?_, ?_, ?_⟩
  · exact (hmistaken "img" _ (by decide +kernel) (by decide +kernel)).resolve_left (by decide)
  · exact (hasked (by decide +kernel)).trans (by decide +kernel)
  · exact (congrArg AssetSearch.warnings hsearch).symm.trans (by decide +kernel)

end Rewriting

end PageNotes
