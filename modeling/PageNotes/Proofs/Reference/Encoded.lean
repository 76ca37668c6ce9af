import PageNotes.Note.Conversion
import PageNotes.Proofs.Reference.FileName
import PageNotes.Proofs.Reference.Remote
import PageNotes.Proofs.Text.Percent

/-!
References that are percent-encoded. The encoding of a path has no character that could be taken for
a scheme, a query or a fragment, so it is a local reference that is not cut, and decoding it gives
the path back, whatever characters its names are made of.

* `colon_mem_of_startsWithScheme`: a scheme ends with a colon;
* `isLocal_percentEncode`, `splitReference_percentEncode`: an encoded path as a reference;
* `Path.normalize_append`: names below a directory that is normalised;
* `RewriteSettings.target_percentEncode`: the file that an encoded path means;
* `Converter.encoded_asked`: an image with an encoded path is asked for by this path.
-/

namespace PageNotes

/-! ### Encoded paths as references -/

lemma colon_mem_of_startsWithScheme {r : Text} (h : startsWithScheme r = true) : ':' ∈ r := by
  cases r with
  | nil => cases h
  | cons c t =>
      rw [startsWithScheme, Bool.and_eq_true, decide_eq_true_eq] at h
      exact List.mem_cons_of_mem _
        ((List.dropWhile_suffix _).subset (List.mem_of_mem_head? h.2))

lemma colon_mem_of_isEmbeddedData {r : Text} (h : isEmbeddedData r = true) : ':' ∈ r := by
  rw [isEmbeddedData, decide_eq_true_eq] at h
  obtain ⟨before, after, htake, hlower, hascii⟩ :=
    @Text.exists_ending_of_lower (r.take 5) [':'] (List.forall_mem_singleton.mpr (by decide))
      ⟨"data".toList, h.symm⟩
  obtain ⟨c, rfl, hc⟩ := List.map_eq_singleton_iff.mp hlower
  obtain rfl := eq_of_toLower (hascii c List.mem_cons_self) hc (by decide)
  exact List.mem_of_mem_take (by rw [htake]; simp)

section Encoded

variable {t : Text}

lemma notMem_percentEncode {c : Char} (hc : isUnreserved c = false) (hpercent : c ≠ '%') :
    c ∉ percentEncode t := by
  intro hmem
  rcases mem_percentEncode hmem with hkept | hkept
  · rw [hc] at hkept
    cases hkept
  · exact hpercent hkept

/-- The encoding of a relative path is a local reference. -/
lemma isLocal_percentEncode (hne : t ≠ []) (hslash : t.head? ≠ some '/') :
    isLocalReference (percentEncode t) = true := by
  obtain ⟨c, rest, rfl⟩ := List.exists_cons_of_ne_nil hne
  have hhead := head?_percentEncode (c :: rest)
  rw [List.head?_cons, Option.map_some] at hhead
  have hcolon : ':' ∉ percentEncode (c :: rest) := notMem_percentEncode (by decide) (by decide)
  have hfirst : ∀ d ∈ (percentEncode (c :: rest)).head?, d ≠ '/' ∧ d ≠ '#' := by
    intro d hd
    rw [hhead] at hd
    obtain rfl := Option.some.inj hd
    split_ifs with hc
    · refine ⟨fun heq => hslash (by rw [heq, List.head?_cons]), ?_⟩
      rintro rfl
      exact absurd hc (by decide)
    · decide
  refine (isLocal_iff _).mpr ⟨?_, ?_, ?_, ?_⟩
  · intro hnil
    rw [hnil] at hhead
    cases hhead
  · rw [isAbsoluteReference, Bool.or_eq_false_iff]
    refine ⟨eq_false_of_ne_true fun hslashes => ?_, eq_false_of_ne_true fun hscheme => ?_⟩
    · obtain ⟨more, hmore⟩ := List.isPrefixOf_iff_prefix.mp hslashes
      exact (hfirst '/' (by rw [← hmore]; rfl)).1 rfl
    · exact hcolon (colon_mem_of_startsWithScheme hscheme)
  · exact eq_false_of_ne_true fun hdata => hcolon (colon_mem_of_isEmbeddedData hdata)
  · rw [isFragmentReference, decide_eq_false_iff_not]
    exact fun hmark => (hfirst '#' hmark).2 rfl

/-- The encoding of a path is not cut. -/
lemma splitReference_percentEncode (t : Text) :
    splitReference (percentEncode t) = (percentEncode t, []) := by
  have hplain : ∀ c ∈ percentEncode t, c ≠ '?' ∧ c ≠ '#' := by
    intro c hc
    constructor <;> rintro rfl <;> exact notMem_percentEncode (by decide) (by decide) hc
  have hsplit := @splitReference_eq (percentEncode t) [] hplain (by simp)
  rwa [List.append_nil] at hsplit

end Encoded

/-- A search that comes to its end has asked for the files of all candidates, in order. -/
lemma Rewriting.asked_eq {settings : RewriteSettings} {document : Forest}
    (hend : (Rewriting.of settings document).search.failure = none) :
    (Rewriting.of settings document).search.asked
      = (settings.candidates document).map settings.target := by
  rw [candidates_tags]
  rw [of_search] at hend ⊢
  exact AssetSearch.tagsMapAccum_asked hend

/-! ### The file that an encoded path means -/

/-- Names below a directory that is normalised. -/
lemma Path.normalize_append (p : Path) {names : List Text} (h : ['.', '.'] ∉ names) :
    (⟨p.root, p.parts ++ names⟩ : Path).normalize
      = ⟨p.normalize.root, p.normalize.parts ++ names⟩ := by
  induction names using List.reverseRecOn with
  | nil => simp [normalize, isAbsolute]
  | append_singleton names name ih =>
      rw [List.mem_append, not_or, List.mem_singleton] at h
      have hrest := ih h.1
      simp only [normalize, isAbsolute, Path.mk.injEq, true_and] at hrest ⊢
      rw [← List.append_assoc, resolveParts_concat _ _ _ (Ne.symm h.2), hrest, List.append_assoc]

section Names

variable {p : Path} (hroot : p.root = .relative) (hparts : p.parts ≠ [])
  (hnames : ∀ name ∈ p.parts, IsName name)

include hroot hparts hnames

/-- The encoding of a relative path of names is a local reference. -/
lemma Path.isLocal_percentEncode : isLocalReference (percentEncode p.toText) = true := by
  have hplain : ∀ name ∈ p.parts, IsPlain name := fun name hname => (hnames name hname).1
  have htext : p.toText = Text.join ['/'] p.parts := by
    rw [toText, if_neg fun hdot => hparts hdot.2, hroot, PathRoot.toText, List.nil_append]
  refine PageNotes.isLocal_percentEncode (fun hnil => ?_) (by rw [htext]; exact join_head hplain)
  have hread := ofText_toText hplain
  rw [hnil] at hread
  exact hparts (congrArg Path.parts hread).symm

omit hparts in
/-- An encoded path of names means the file with these names below the directory of the page. -/
lemma RewriteSettings.target_percentEncode (settings : RewriteSettings) :
    settings.target (percentEncode p.toText)
      = (Path.absolute settings.working settings.directory).join p := by
  have hbelow (q : Path) : q.join p = ⟨q.root, q.parts ++ p.parts⟩ := by
    rw [Path.join, if_neg (by simp [Path.isAbsolute, hroot])]
  rw [target, resolveReference, splitReference_percentEncode, percentDecode_percentEncode,
    Path.ofText_toText fun name hname => (hnames name hname).1, hbelow, hbelow]
  exact Path.normalize_append _ fun hdots => (hnames _ hdots).2 rfl

/-- **Encoded references are resolved**: an image whose `src` is the percent-encoding of a relative
path of names, whatever characters these hold, is a candidate. The file that is asked for is the one
at this path below the directory of the page, taken from the working directory and normalised: by
the visit of the image, and in each search of a page with the image that comes to its end. -/
theorem Converter.encoded_asked (c : Converter) (source : Path) {attributes : Attributes}
    (hsrc : attributes.get? "src" = some (percentEncode p.toText)) :
    assetCandidate? "img" attributes = some ("src", percentEncode p.toText) ∧
      (∀ search : AssetSearch, search.failure = none →
        (search.visit (c.rewriting source) "img" attributes).2.asked
          = search.asked ++ [(Path.absolute c.working source.parent).join p]) ∧
      ∀ document : Forest, ("img", attributes) ∈ forestTags document →
        percentEncode p.toText ∈ (c.rewriting source).candidates document ∧
          ((Rewriting.of (c.rewriting source) document).search.failure = none →
            (Path.absolute c.working source.parent).join p
              ∈ (Rewriting.of (c.rewriting source) document).search.asked) := by
  have htarget : (c.rewriting source).target (percentEncode p.toText)
      = (Path.absolute c.working source.parent).join p :=
    RewriteSettings.target_percentEncode hroot hnames (c.rewriting source)
  have hlocal := Path.isLocal_percentEncode hroot hparts hnames
  have hcandidate : assetCandidate? "img" attributes = some ("src", percentEncode p.toText) := by
    simp [assetCandidate?, assetAttribute?, hsrc, hlocal]
  refine ⟨hcandidate, fun search hopen => ?_, fun document hmem => ?_⟩
  · have hway := AssetSearch.visits (c.rewriting source) search "img" attributes
    generalize search.visit (c.rewriting source) "img" attributes = result at hway ⊢
    cases hway with
    | passed hpassed =>
        rcases hpassed with hover | hnone
        · simp [hopen] at hover
        · rw [hcandidate] at hnone
          cases hnone
    | stopped hfound | missing hfound | found hfound =>
        rw [hcandidate] at hfound
        obtain ⟨rfl, rfl⟩ := Prod.mk.inj (Option.some.inj hfound)
        exact congrArg (fun path => search.asked ++ [path]) htarget
  · have hreference : tagReference? ("img", attributes)
        = some ("img", some (percentEncode p.toText)) := by
      rw [tagReference?_eq_some rfl, hsrc]
    have hmember : percentEncode p.toText ∈ (c.rewriting source).candidates document := by
      rw [RewriteSettings.candidates, Rewriting.linkedReferences_eq, List.filterMap_map,
        Rewriting.documentReferences_tags]
      refine List.mem_filterMap.mpr ⟨_, List.mem_filterMap.mpr ⟨_, hmem, hreference⟩, ?_⟩
      simp [relink, candidate?, hlocal]
    refine ⟨hmember, fun hend => ?_⟩
    rw [Rewriting.asked_eq hend, ← htarget]
    exact List.mem_map_of_mem hmember

end Names

/-- A file whose name has all the marks of references in it. -/
def markedFile : Path := ⟨.relative, ["é☃".toList, "100% a?b#c:d.png".toList]⟩

/-- A page that shows it. -/
def encodedPage : Forest :=
  [.element "img" [("src", "%C3%A9%E2%98%83/100%25%20a%3Fb%23c%3Ad.png".toList)] []]

/-- A converter for which there are no files. -/
def bareConverter : Converter where
  config := {}
  working := .ofText "/w/x".toList
  store _ := .ok false
  now := ⟨⟨2024, 5, 6⟩, 7, 8, 9, 0, some 0⟩

/-- The file is asked for beside the page, which is named by way of other folders. -/
theorem Converter.encoded_asked_marks :
    "%C3%A9%E2%98%83/100%25%20a%3Fb%23c%3Ad.png".toList
        ∈ (bareConverter.rewriting (.ofText "in/../../y/p.html".toList)).candidates encodedPage ∧
      .ofText "/w/y/é☃/100% a?b#c:d.png".toList
        ∈ (Rewriting.of (bareConverter.rewriting (.ofText "in/../../y/p.html".toList))
            encodedPage).search.asked := by
  have hencoded : percentEncode markedFile.toText
      = "%C3%A9%E2%98%83/100%25%20a%3Fb%23c%3Ad.png".toList := by
    decide +kernel
  have hfile : (Path.absolute bareConverter.working
        (Path.ofText "in/../../y/p.html".toList).parent).join markedFile
      = .ofText "/w/y/é☃/100% a?b#c:d.png".toList := by
    decide +kernel
  obtain ⟨-, -, hpages⟩ := @encoded_asked markedFile rfl (by decide) (by decide) bareConverter
    (.ofText "in/../../y/p.html".toList)
    [("src", "%C3%A9%E2%98%83/100%25%20a%3Fb%23c%3Ad.png".toList)] (by rw [hencoded]; rfl)
  obtain ⟨hcandidate, hasked⟩ := hpages encodedPage (List.mem_singleton.mpr rfl)
  rw [hencoded] at hcandidate
  rw [hfile] at hasked
  exact ⟨hcandidate, hasked (by decide +kernel)⟩

end PageNotes
