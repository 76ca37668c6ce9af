import PageNotes.Note.Conversion
import PageNotes.Proofs.Note.Fields

/-!
The fields in the header of a note. The header starts with fields that are made from the page as a
whole; the declared fields of the same names are left out behind them, so every name comes once.

* `Metadata.extract_ok_fields`: the fields of a page have distinct names, and its moments are
  filled;
* `filter_field`: a field in a list of distinct names is the only one of its name;
* `Metadata.extract_header`: the fields of the header.
-/

namespace PageNotes

/-! ### The fields of a page -/

/-- A stamp is not empty. -/
lemma Moment.timestamp?_ne_nil {now : Moment} {stamp : Text} (h : now.timestamp? = some stamp) :
    stamp ≠ [] := by
  rw [timestamp?, Option.map_eq_some_iff] at h
  obtain ⟨u, -, rfl⟩ := h
  simp

lemma nodup_statedFields (declared : List (Text × Text)) (stamp : Text) :
    ((statedFields declared stamp).map Prod.fst).Nodup := by
  have hmoments : momentFields.Nodup := by decide
  rw [statedFields, Fields.keys_ofKeys, List.nodup_append]
  refine ⟨nodup_eraseDups _, hmoments.sublist List.filter_sublist, fun key hkey other hother => ?_⟩
  rintro rfl
  rw [List.mem_eraseDups] at hkey
  simpa [hkey] using (List.mem_filter.mp hother).2

/-- A moment is stated with a value, or filled with the stamp. -/
lemma exists_moment {declared : List (Text × Text)} {stamp key : Text} (hkey : key ∈ momentFields)
    (hstamp : unstatedMoments declared ≠ [] → stamp ≠ []) :
    ∃ value, value ≠ [] ∧ (key, value) ∈ statedFields declared stamp := by
  have hmem : key ∈ (declared.map Prod.fst).eraseDups
      ++ momentFields.filter (· ∉ declared.map Prod.fst) := by
    by_cases hstated : key ∈ declared.map Prod.fst
    · exact List.mem_append_left _ (List.mem_eraseDups.mpr hstated)
    · exact List.mem_append_right _ (List.mem_filter.mpr ⟨hkey, by simpa using hstated⟩)
  refine ⟨_, ?_, Fields.mem_ofKeys hmem⟩
  split_ifs with hunstated
  · exact hstamp (List.ne_nil_of_mem hunstated)
  · intro hempty
    exact hunstated (List.mem_filter.mpr ⟨hkey, decide_eq_true hempty⟩)

/-- The fields of a page have distinct names, and its moments are among them with a value. -/
lemma Metadata.extract_ok_fields {c : Config} {now : Moment} {document : Forest} {m : Metadata}
    (h : extract c.metadata now document = .ok m) :
    m.image = leadImage c.assetPrefix document ∧ (m.fields.map Prod.fst).Nodup ∧
      ∀ key ∈ momentFields, ∃ value, value ≠ [] ∧ (key, value) ∈ m.fields := by
  rw [extract, Config.metadata, readFields_eq, fillMoments_declared] at h
  split_ifs at h with hundated
  · cases h
  · cases h
    refine ⟨rfl, nodup_statedFields _ _, fun key hkey => exists_moment hkey fun hunstated => ?_⟩
    obtain ⟨stamp, hstamp⟩ := Option.ne_none_iff_exists'.mp fun hnone => hundated ⟨hunstated, hnone⟩
    rw [hstamp, Option.getD_some]
    exact Moment.timestamp?_ne_nil hstamp

/-! ### The header -/

/-- A field in a list of distinct names is the only one of its name. -/
lemma filter_field {fields : List (Text × Text)} (hkeys : (fields.map Prod.fst).Nodup)
    {key value : Text} (h : (key, value) ∈ fields) :
    fields.filter (fun field => field.1 = key) = [(key, value)] := by
  induction fields with
  | nil => cases h
  | cons field fields ih =>
      rw [List.map_cons, List.nodup_cons] at hkeys
      rcases List.mem_cons.mp h with rfl | hrest
      · have hnone : fields.filter (fun field => field.1 = key) = [] := by
          refine List.filter_eq_nil_iff.mpr fun other hother heq => hkeys.1 ?_
          exact List.mem_map.mpr ⟨other, hother, of_decide_eq_true heq⟩
        rw [List.filter_cons_of_pos (by simp), hnone]
      · have hne : field.1 ≠ key := by
          rintro rfl
          exact hkeys.1 (List.mem_map.mpr ⟨_, hrest, rfl⟩)
        rw [List.filter_cons_of_neg (by simpa using hne), ih hkeys.2 hrest]

/-- The fields of the header that are made from the page as a whole. -/
def leadingPart (m : Metadata) (tags : List Text) : List (Text × Text) :=
  [("title".toList, quotedField m.title), ("description".toList, quotedField m.description)]
    ++ (if m.image = [] then [] else [("image".toList, quotedField m.image)])
    ++ [("tags".toList, tagList tags)]

lemma frontMatterOf_eq (m : Metadata) (tags : List Text) :
    frontMatterOf m tags
      = leadingPart m tags ++ m.fields.filter (fun field => field.1 ∉ leadingFields m.image) := by
  rw [frontMatterOf, leadingPart]
  simp only [List.isEmpty_iff, List.contains_eq_mem, decide_not]

/-- The names that come first are those of the fields that every header has, and that of the image
if there is one. -/
lemma notMem_leadingFields {image key : Text} : key ∉ leadingFields image ↔
    key ∉ ["title".toList, "description".toList, "tags".toList] ∧
      (image ≠ [] → key ≠ "image".toList) := by
  rw [leadingFields]
  cases image with
  | nil => simp
  | cons c image =>
      dsimp only [List.isEmpty_cons]
      rw [if_neg Bool.false_ne_true, List.mem_cons, not_or, and_comm]
      simp

lemma mem_keys_leadingPart {m : Metadata} {tags : List Text} {key : Text} :
    key ∈ (leadingPart m tags).map Prod.fst ↔ key ∈ leadingFields m.image := by
  rw [leadingPart, leadingFields]
  cases m.image with
  | nil => simp
  | cons c image => simp; tauto

lemma nodup_keys_leadingPart (m : Metadata) (tags : List Text) :
    ((leadingPart m tags).map Prod.fst).Nodup := by
  rw [leadingPart]
  split_ifs
  · simp
  · simp

/-- The header has distinct names if the fields of the page have. -/
lemma nodup_keys_frontMatterOf {m : Metadata} (hkeys : (m.fields.map Prod.fst).Nodup)
    (tags : List Text) : ((frontMatterOf m tags).map Prod.fst).Nodup := by
  rw [frontMatterOf_eq, List.map_append, List.nodup_append]
  refine ⟨nodup_keys_leadingPart m tags, hkeys.sublist (List.filter_sublist.map _), ?_⟩
  rintro key hkey other hother rfl
  obtain ⟨field, hfield, rfl⟩ := List.mem_map.mp hother
  exact of_decide_eq_true (List.mem_filter.mp hfield).2 (mem_keys_leadingPart.mp hkey)

/-- A field of the page that is not left out is in the header. -/
lemma mem_frontMatterOf {m : Metadata} {field : Text × Text} (h : field ∈ m.fields)
    (hkey : field.1 ∉ leadingFields m.image) (tags : List Text) : field ∈ frontMatterOf m tags := by
  rw [frontMatterOf_eq]
  exact List.mem_append_right _ (List.mem_filter.mpr ⟨h, decide_eq_true hkey⟩)

/-- **The fields of the header**: the title, the description, the image if the page has a leading
one, and the tags, and behind them the fields of the page in their order, but for a title, a
description, tags and, if there is an image before, an image. No name comes twice. Every field of
the page that is not left out comes once, with its value, and so do both moments, whose values are
not empty. -/
theorem Metadata.extract_header {c : Config} {now : Moment} {document : Forest} {m : Metadata}
    (h : extract c.metadata now document = .ok m) (tags : List Text) (body : Text) :
    let header := (Note.build m tags body).frontMatter
    m.image = leadImage c.assetPrefix document ∧
      header = [("title".toList, quotedField m.title),
          ("description".toList, quotedField m.description)]
        ++ (if m.image = [] then [] else [("image".toList, quotedField m.image)])
        ++ [("tags".toList, tagList tags)]
        ++ m.fields.filter (fun field =>
            field.1 ∉ ["title".toList, "description".toList, "tags".toList] ∧
              (m.image ≠ [] → field.1 ≠ "image".toList)) ∧
      (header.map Prod.fst).Nodup ∧
      (∀ key value, (key, value) ∈ m.fields → key ∉ leadingFields m.image →
        header.filter (fun field => field.1 = key) = [(key, value)]) ∧
      ∀ key ∈ momentFields, ∃ value, value ≠ [] ∧
        header.filter (fun field => field.1 = key) = [(key, value)] := by
  obtain ⟨himage, hkeys, hmoments⟩ := extract_ok_fields h
  have hheader : (Note.build m tags body).frontMatter = frontMatterOf m tags := rfl
  have honce : ∀ key value, (key, value) ∈ m.fields → key ∉ leadingFields m.image →
      (frontMatterOf m tags).filter (fun field => field.1 = key) = [(key, value)] :=
    fun key value hfield hkey => filter_field (nodup_keys_frontMatterOf hkeys tags)
      (mem_frontMatterOf hfield hkey tags)
  dsimp only
  rw [hheader]
  refine ⟨himage, ?order, nodup_keys_frontMatterOf hkeys tags, honce, fun key hkey => ?moment⟩
  case order =>
    rw [frontMatterOf_eq, leadingPart]
    exact congrArg _ (List.filter_congr fun _ _ => decide_eq_decide.mpr notMem_leadingFields)
  case moment =>
    have hother : ∀ key ∈ momentFields,
        key ∉ ["title".toList, "description".toList, "tags".toList] ∧ key ≠ "image".toList := by
      decide
    obtain ⟨value, hfilled, hfield⟩ := hmoments key hkey
    refine ⟨value, hfilled, honce key value hfield (notMem_leadingFields.mpr ?_)⟩
    exact ⟨(hother key hkey).1, fun _ => (hother key hkey).2⟩

/-- A page that states a title, tags and an image, an author in two spellings, and a creation. -/
def statingPage : Forest := [
  .element "meta" [("name", " Title ".toList), ("content", [])] [],
  .element "meta" [("name", "TAGS".toList), ("content", ['t'])] [],
  .element "meta" [("name", "image".toList), ("content", ['i'])] [],
  .element "meta" [("name", "Author".toList), ("content", ['a'])] [],
  .element "meta" [("name", "author".toList)] [],
  .element "meta" [("name", "created".toList), ("content", ['c'])] [],
  .element "p" [] [.text .plain ['x']]]

/-- What the page states about itself when its creation is ignored. -/
def statedMetadata : Metadata where
  fields := [("title".toList, []), ("tags".toList, ['t']), ("image".toList, ['i']),
    ("author".toList, []), ("created".toList, "2024-05-06T07:08:09.123Z".toList),
    ("modified".toList, "2024-05-06T07:08:09.123Z".toList)]
  title := "Untitled".toList
  description := ['x']
  image := []

/-- The title and the tags that are stated are left out; the image stays since none comes before. -/
theorem Metadata.extract_header_stated :
    extract (Config.metadata { ignoreMeta := ["created".toList] })
        ⟨⟨2024, 5, 6⟩, 7, 8, 9, 123456, some 0⟩ statingPage = .ok statedMetadata ∧
    (Note.build statedMetadata [['k']] []).frontMatter
      = [("title".toList, "\"Untitled\"".toList), ("description".toList, "\"x\"".toList),
        ("tags".toList, "[\"k\"]".toList), ("image".toList, ['i']), ("author".toList, []),
        ("created".toList, "2024-05-06T07:08:09.123Z".toList),
        ("modified".toList, "2024-05-06T07:08:09.123Z".toList)] ∧
    ((Note.build statedMetadata [['k']] []).frontMatter.map Prod.fst).Nodup := by
  have hextract : extract (Config.metadata { ignoreMeta := ["created".toList] })
      ⟨⟨2024, 5, 6⟩, 7, 8, 9, 123456, some 0⟩ statingPage = .ok statedMetadata := by
    decide +kernel
  exact ⟨hextract, by decide +kernel, (extract_header hextract [['k']] []).2.2.1⟩

end PageNotes
