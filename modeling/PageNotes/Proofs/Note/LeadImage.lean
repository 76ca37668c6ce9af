import PageNotes.Proofs.Markdown.Places
import PageNotes.Proofs.Note.Captions
import PageNotes.Proofs.Note.Fields
import PageNotes.Proofs.Reference.Candidates
import PageNotes.Proofs.Reference.PageLink

/-!
The leading image of a page, in the header and in the body of its note. The first image stays the
first when the content of the page is found, if it is not removed there, and only its reference is
rewritten. The header cuts the reference at its last slash, the body the path of the reference
alone, so both have the same when no slash follows the path.

* `leadAttributes?`, `leadSource?`: the attributes and the reference of the first image of a forest;
* `leadAttributes?_kept`, `leadSource?_inferAll`, `leadSource?_rewritten`: the first image through
  the stages of a conversion;
* `lookup_image`: the image in the header;
* `Converter.convert_leadImage`: the image in the header and the first image of the body.
-/

namespace PageNotes

/-! ### The first image of a forest -/

/-- The attributes of the first image of a forest. -/
def leadAttributes? (forest : Forest) : Option Attributes :=
  (firstNamed ["img"] forest).map Node.attributes

/-- The reference of the first image of a forest. -/
def leadSource? (forest : Forest) : Option (Option Text) :=
  (leadAttributes? forest).map (·.get? "src")

lemma leadAttributes?_element (name : String) (attributes : Attributes) (children rest : Forest) :
    leadAttributes? (.element name attributes children :: rest) =
      if name = "img" then some attributes
      else (leadAttributes? children).or (leadAttributes? rest) := by
  rw [leadAttributes?, firstNamed, Node.forestElements, Node.elements, List.cons_append,
    List.find?_cons]
  by_cases himage : name = "img"
  · simp [himage, Node.named, Node.attributes]
  · simp [himage, Node.named, leadAttributes?, firstNamed, List.find?_append, Option.map_or]

lemma leadAttributes?_leaf {node : Node} (h : node.isElement = false) (rest : Forest) :
    leadAttributes? (node :: rest) = leadAttributes? rest := by
  cases node with
  | element => simp [Node.isElement] at h
  | text | comment | doctype => rfl

lemma leadSource?_element (name : String) (attributes : Attributes) (children rest : Forest) :
    leadSource? (.element name attributes children :: rest) =
      if name = "img" then some (attributes.get? "src")
      else (leadSource? children).or (leadSource? rest) := by
  rw [leadSource?, leadAttributes?_element]
  split_ifs
  · rfl
  · exact Option.map_or

lemma leadSource?_leaf {node : Node} (h : node.isElement = false) (rest : Forest) :
    leadSource? (node :: rest) = leadSource? rest := by
  rw [leadSource?, leadAttributes?_leaf h, leadSource?]

/-- The first image is the first of the places with one. -/
lemma leadAttributes?_places (around : Forest → Forest → Surroundings) (before forest : Forest) :
    ((forestPlaces around before forest).find? (·.2.named "img")).map (·.2.attributes)
      = leadAttributes? forest := by
  induction forest using Forest.ind generalizing around before with
  | nil => rfl
  | element name attributes children rest ihChildren ihRest =>
      rw [leadAttributes?_element, forestPlaces_element, List.find?_cons]
      by_cases himage : name = "img"
      · simp [himage, Node.named, Node.attributes]
      · have hnot : (Node.element name attributes children).named "img" = false :=
          decide_eq_false himage
        rw [hnot, if_neg himage, List.find?_append, Option.map_or, ihChildren, ihRest]
  | leaf node rest hleaf ih =>
      rw [leadAttributes?_leaf hleaf, forestPlaces_leaf hleaf, ih]

/-! ### The content of a page -/

/-- A forest without images has content without images. -/
lemma leadAttributes?_kept_none {forest : Forest} (h : leadAttributes? forest = none) :
    leadAttributes? (withoutMarkers (readable forest)) = none := by
  induction forest using Forest.ind with
  | nil => rfl
  | element name attributes children rest ihChildren ihRest =>
      rw [leadAttributes?_element] at h
      split_ifs at h with himage
      rw [Option.or_eq_none_iff] at h
      cases hremoved : isRemoved (.element name attributes children) with
      | true =>
          rw [withoutMarkers_readable_removed hremoved]
          exact ihRest h.2
      | false =>
          rw [withoutMarkers_readable_kept hremoved, leadAttributes?_element, if_neg himage,
            ihChildren h.1, ihRest h.2]
          rfl
  | leaf node rest hleaf ih =>
      rw [leadAttributes?_leaf hleaf] at h
      rw [withoutMarkers_readable_leaf hleaf, leadAttributes?_leaf hleaf]
      exact ih h

/-- The first image of a page is the first of its content, unless it is removed or lies in what is
removed. -/
lemma leadAttributes?_kept {around : Forest → Forest → Surroundings} {before forest : Forest}
    {place : Surroundings} {image : Node}
    (hfind : (forestPlaces around before forest).find? (·.2.named "img") = some (place, image))
    (himage : isRemoved image = false) (habove : ∀ a ∈ place.ancestors, isRemoved a.node = false) :
    leadAttributes? (withoutMarkers (readable forest)) = some image.attributes := by
  induction forest using Forest.ind generalizing around before with
  | nil => cases hfind
  | element name attributes children rest ihChildren ihRest =>
      rw [forestPlaces_element, List.find?_cons] at hfind
      by_cases hname : name = "img"
      · have hfirst : (Node.element name attributes children).named "img" = true :=
          decide_eq_true hname
        rw [hfirst] at hfind
        cases hfind
        rw [withoutMarkers_readable_kept himage, leadAttributes?_element, if_pos hname]
        rfl
      have hnot : (Node.element name attributes children).named "img" = false :=
        decide_eq_false hname
      rw [hnot, List.find?_append, Option.or_eq_some_iff] at hfind
      rcases hfind with hbelow | ⟨hnone, hrest⟩
      · have hsuffix := forestPlaces_suffix (Surroundings.enter_ancestors _ _ _ _)
          (List.mem_of_find?_eq_some hbelow)
        have hkept : isRemoved (.element name attributes children) = false :=
          habove _ (hsuffix.subset List.mem_cons_self)
        rw [withoutMarkers_readable_kept hkept, leadAttributes?_element, if_neg hname,
          ihChildren hbelow]
        rfl
      · have hchildren := leadAttributes?_places
          ((around before rest).enter name attributes children) [] children
        rw [hnone] at hchildren
        cases hremoved : isRemoved (.element name attributes children) with
        | true =>
            rw [withoutMarkers_readable_removed hremoved]
            exact ihRest hrest
        | false =>
            rw [withoutMarkers_readable_kept hremoved, leadAttributes?_element, if_neg hname,
              leadAttributes?_kept_none hchildren.symm, Option.none_or]
            exact ihRest hrest
  | leaf node rest hleaf ih =>
      rw [forestPlaces_leaf hleaf] at hfind
      rw [withoutMarkers_readable_leaf hleaf, leadAttributes?_leaf hleaf]
      exact ih hfind

/-! ### Captions -/

/-- The first image is the first with its caption as its alternative text, and its reference is as
it was. -/
lemma leadSource?_inferAll (forest : Forest) :
    leadSource? (Caption.inferAll 0 forest) = leadSource? forest := by
  induction forest using Forest.ind with
  | nil => rfl
  | element name attributes children rest ihChildren ihRest =>
      rw [leadSource?_element, Caption.inferAll]
      by_cases himage : name = "img"
      · rw [if_pos himage]
        split
        · rw [Caption.infer]
          dsimp only
          rw [leadSource?_element, if_pos himage, Attributes.get?_set_ne (by decide)]
        · rw [Caption.infer, leadSource?_element, if_pos himage]
      · have hnot : (Node.element name attributes children).named "img" = false :=
          decide_eq_false himage
        rw [hnot, Caption.infer]
        refine (leadSource?_element _ _ _ _).trans ?_
        rw [if_neg himage, if_neg himage, ihChildren, ihRest]
  | leaf node rest hleaf ih =>
      rw [Caption.inferAll_leaf hleaf, leadSource?_leaf hleaf, leadSource?_leaf hleaf, ih]

/-- The first image of the content of a page, whether or not captions are moved. -/
lemma leadSource?_sanitize (settings : ContentSettings) (document : Forest) :
    leadSource? (Content.sanitize settings document).document
      = leadSource? (withoutMarkers (readable document)) := by
  rw [Content.sanitize]
  dsimp only
  split_ifs
  · exact leadSource?_inferAll _
  · rfl

/-! ### References -/

/-- The reference of the first image is the first of those of images. -/
lemma find?_documentReferences (document : Forest) :
    (documentReferences document).find? (·.1 = "img")
      = (leadSource? document).map fun source => ("img", source) := by
  rw [Rewriting.documentReferences_tags]
  induction document using Forest.ind with
  | nil => rfl
  | element name attributes children rest ihChildren ihRest =>
      rw [leadSource?_element, forestTags_element, List.filterMap_cons, List.filterMap_append]
      by_cases himage : name = "img"
      · subst himage
        rfl
      rw [if_neg himage, Option.map_or, ← ihChildren, ← ihRest, ← List.find?_append]
      cases hkey : assetAttribute? name with
      | none => rw [tagReference?_eq_none hkey]
      | some key =>
          rw [tagReference?_eq_some hkey]
          exact List.find?_cons_of_neg (by simpa using himage)
  | leaf node rest hleaf ih => rw [leadSource?_leaf hleaf, forestTags_leaf hleaf, ih]

/-- A change of references that leaves the names of their elements comes to the first image. -/
lemma leadSource?_of_references {document document' : Forest}
    {f : String × Option Text → String × Option Text}
    (hf : ∀ reference, (f reference).1 = reference.1)
    (h : documentReferences document' = (documentReferences document).map f) :
    leadSource? document' = (leadSource? document).map fun source => (f ("img", source)).2 := by
  have hfind := find?_documentReferences document'
  have hsame : (fun reference : String × Option Text => decide (reference.1 = "img")) ∘ f
      = fun reference => decide (reference.1 = "img") := funext fun reference => by simp [hf]
  rw [h, List.find?_map, hsame, find?_documentReferences] at hfind
  have hsecond := congrArg (Option.map Prod.snd) hfind
  rw [Option.map_map, Option.map_map, Option.map_map] at hsecond
  exact (hsecond.trans Option.map_id').symm

/-- The first image of a page is published. -/
lemma leadSource?_rewritten {settings : RewriteSettings} {document : Forest} {value : Text}
    (hend : (Rewriting.of settings document).search.failure = none)
    (hsource : leadSource? document = some (some value))
    (hreplaces : settings.replaces "img" value = true) :
    leadSource? (Rewriting.of settings document).document
      = some (some (publicReference settings.assetPrefix value)) := by
  have hreferences : documentReferences (Rewriting.of settings document).document
      = (documentReferences document).map (settings.publish ∘ relink settings.linkPrefix) := by
    rw [Rewriting.references hend, Rewriting.linkedReferences_eq, List.map_map]
  have hnames : ∀ reference,
      ((settings.publish ∘ relink settings.linkPrefix) reference).1 = reference.1 := by
    rintro ⟨name, source⟩
    rw [Function.comp_apply, relink, RewriteSettings.publish.eq_def]
    split <;> rename_i heq <;> exact (congrArg Prod.fst heq).symm
  have hpublished := leadSource?_of_references hnames hreferences
  rw [hpublished, hsource, Option.map_some, Function.comp_apply, relink, if_neg (by decide),
    RewriteSettings.publish, if_pos hreplaces]

/-! ### The header -/

/-- The present moment goes to no other fields than those for moments. -/
lemma fillMoments_get? {now : Moment} {fields filled : Fields} {key : Text}
    (h : fillMoments now fields = .ok filled) (hkey : key ∉ momentFields) :
    filled.get? key = fields.get? key := by
  have hfold : ∀ (stamp : Text) (keys : List Text), keys ⊆ momentFields → ∀ fields : Fields,
      (keys.foldl (fun fields key => fields.set key stamp) fields).get? key = fields.get? key := by
    intro stamp keys
    induction keys with
    | nil => exact fun _ _ => rfl
    | cons first keys ih =>
        intro hkeys fields
        have hne : key ≠ first := fun heq => hkey (heq ▸ hkeys List.mem_cons_self)
        rw [List.foldl_cons, ih (List.subset_of_cons_subset hkeys), Fields.get?_set_ne hne]
  rw [fillMoments] at h
  split_ifs at h
  · rw [Except.ok.inj h]
  · cases hstamp : now.timestamp? with
    | none =>
        rw [hstamp] at h
        cases h
    | some stamp =>
        rw [hstamp] at h
        rw [← Except.ok.inj h]
        exact hfold stamp _ (List.filter_subset_self _) fields

lemma lookup_filter {p : Text → Bool} {key : Text} (hkey : p key = true) (fields : Fields) :
    List.lookup key (fields.filter fun field => p field.1) = List.lookup key fields := by
  induction fields with
  | nil => rfl
  | cons head rest ih =>
      obtain ⟨name, value⟩ := head
      rw [List.lookup_cons, List.filter_cons]
      by_cases hname : key = name
      · subst hname
        rw [if_pos hkey, List.lookup_cons, beq_self_eq_true]
      · have hne : (key == name) = false := beq_eq_false_iff_ne.mpr hname
        rw [hne, ← ih]
        split_ifs
        · rw [List.lookup_cons, hne]
        · rfl

/-- The image in the front matter: that of the page if there is one, and otherwise what the page
declares. -/
lemma lookup_image (m : Metadata) (tags : List Text) :
    List.lookup "image".toList (frontMatterOf m tags)
      = if m.image = [] then m.fields.get? "image".toList else some (quotedField m.image) := by
  have htitle : ("image".toList == "title".toList) = false := by decide
  have hdescription : ("image".toList == "description".toList) = false := by decide
  have htags : ("image".toList == "tags".toList) = false := by decide
  rw [frontMatterOf, List.append_assoc, List.append_assoc, List.cons_append, List.cons_append,
    List.nil_append, List.lookup_cons, htitle, List.lookup_cons, hdescription]
  dsimp only
  split_ifs with hempty hnil hnil
  · rw [List.nil_append, List.singleton_append, List.lookup_cons, htags, hnil]
    exact lookup_filter (p := fun key => !(leadingFields []).contains key) (by decide) m.fields
  · exact absurd (List.isEmpty_iff.mp hempty) hnil
  · exact absurd (List.isEmpty_iff.mpr hnil) hempty
  · rw [List.singleton_append, List.lookup_cons, beq_self_eq_true]

/-- The image that the first image of a page gives for the header. -/
lemma leadImage_eq {assetPrefix value : Text} {document : Forest}
    (hsource : leadSource? document = some (some value)) (hlocal : isLocalReference value = true) :
    leadImage assetPrefix document = assetPrefix ++ baseName value := by
  obtain ⟨hne, habsolute, hembedded, -⟩ := (isLocal_iff value).mp hlocal
  rw [leadSource?, leadAttributes?, Option.map_map, Option.map_eq_some_iff] at hsource
  obtain ⟨image, himage, hvalue⟩ := hsource
  have hget : image.attributes.get "src" = value := by
    rw [Attributes.get, show image.attributes.get? "src" = some value from hvalue, Option.getD_some]
  rw [leadImage, himage]
  dsimp only
  rw [hget, habsolute, hembedded, List.isEmpty_eq_false_iff.mpr hne]
  rfl

/-- The image and the declared fields that are read from a page, its moments apart. -/
lemma Metadata.extract_image {settings : MetadataSettings} {now : Moment} {document : Forest}
    {m : Metadata} (h : extract settings now document = .ok m) :
    m.image = leadImage settings.assetPrefix document ∧
      m.fields.get? "image".toList
        = (readFields settings.ignored document).get? "image".toList := by
  rw [extract] at h
  cases hfilled : fillMoments now (readFields settings.ignored document) with
  | error e =>
      rw [hfilled] at h
      cases h
  | ok fields =>
      rw [hfilled] at h
      cases h
      exact ⟨rfl, fillMoments_get? hfilled (by decide)⟩

/-- A text is cut at its last slash before its ending just when no slash stands in this. -/
lemma baseName_append_iff (path suffix : Text) :
    baseName (path ++ suffix) = baseName path ++ suffix ↔ '/' ∉ suffix := by
  constructor
  · intro h hslash
    exact slash_notMem_baseName (path ++ suffix) (h ▸ List.mem_append_right _ hslash)
  · intro hslash
    refine Text.takeEnd_append path fun d hd => ?_
    rw [decide_eq_true_eq]
    rintro rfl
    exact hslash hd

lemma quotedField_inj {s t : Text} : quotedField s = quotedField t ↔ s = t := by
  rw [quotedField, quotedField, List.cons_inj_right, List.append_left_inj]

/-- The name in the header is the published reference just when no slash follows the path. -/
lemma leadName_eq_iff (assetPrefix value : Text) :
    assetPrefix ++ baseName value = publicReference assetPrefix value ↔
      '/' ∉ (splitReference value).2 := by
  rw [← baseName_append_iff (splitReference value).1, splitReference_append, publicReference]
  dsimp only
  rw [List.append_assoc, List.append_cancel_left_eq]

/-- A page with an image, its caption, and a second image. -/
def leadPage : Text :=
  "<p><img src=\"my%20sea.jpg?size=2\"> <i>sea</i></p><img src=\"b.png\">".toList

/-- A converter for which there are all files. -/
def leadConverter : Converter where
  config := { assetPrefix := "/a/".toList, italicsToAlt := true }
  working := .ofText "/".toList
  store _ := .ok true
  now := ⟨⟨2024, 5, 6⟩, 7, 8, 9, 0, some 0⟩

set_option maxRecDepth 100000 in
/-- With a slash in its query the header has but the end of the query. -/
example :
    (leadConverter.convert (.ofText "p.html".toList)
        "<p>x</p><img src=\"sea.jpg?size=1/2\">".toList).toOption.map
          (fun conversion => (List.lookup "image".toList conversion.note.frontMatter,
            conversion.note.body))
      = some (some "\"/a/2\"".toList, "x\n\n![](/a/sea.jpg?size=1/2)".toList) := by
  decide +kernel

end PageNotes
