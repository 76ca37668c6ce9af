import PageNotes.Proofs.Note.Removal
import PageNotes.Proofs.Text.Caseless

/-!
The tag that only sorts notes. It is ignored in the form that the settings give it, while a marker
is read in a form of its own, with one number sign less and perhaps without its outer parts. Both
forms may be taken before or after the text is put in lower case, so whether they agree is told by
the tag itself.

* `lower_tagBody`, `lower_sortingForm`: the two forms in lower case;
* `IsPlainTag`, `lower_tagBody_eq_iff`: the tags for which they agree;
* `Content.sortingTag_dropped_iff`: when the tag is dropped with its markers, and in the tags of no
  page.
-/

namespace PageNotes

/-! ### Two forms of a tag -/

/-- A text without the number sign at its start. -/
def unmarked : Text → Text
  | '#' :: rest => rest
  | t => t

/-- The form in which the tag that only sorts notes is ignored, but for the case of its letters. -/
def sortingForm (tag : Text) : Text := Text.trimStart (· = '#') (Text.strip tag)

variable {unnest : Bool} {tag : Text}

lemma tagBody_eq (unnest : Bool) (raw : Text) :
    tagBody unnest raw = Text.strip (if unnest then (unmarked (Text.strip raw)).takeEnd (· ≠ '/')
      else unmarked (Text.strip raw)) := rfl

lemma unmarked_eq_self {t : Text} (h : t.head? ≠ some '#') : unmarked t = t := by
  rw [unmarked]
  rintro rest rfl
  exact h rfl

lemma mem_unmarked {c : Char} {t : Text} (h : c ∈ unmarked t) : c ∈ t := by
  by_cases hsign : t.head? = some '#'
  · obtain ⟨rest, rfl⟩ := List.head?_eq_some_iff.mp hsign
    exact List.mem_cons_of_mem _ h
  · rwa [unmarked_eq_self hsign] at h

lemma lower_unmarked (t : Text) : (unmarked t).lower = unmarked t.lower := by
  have hsign : decide ('#' = '#') = true := rfl
  by_cases h : t.head? = some '#'
  · obtain ⟨rest, rfl⟩ := List.head?_eq_some_iff.mp h
    rw [Text.lower_cons_kept isCaseless_numberSign hsign, unmarked, unmarked]
  · rw [unmarked_eq_self h, unmarked_eq_self]
    rwa [ne_eq, Text.head?_lower isCaseless_numberSign hsign]

/-- The text of a marker is the same in lower case. -/
lemma lower_tagBody (unnest : Bool) (raw : Text) :
    (tagBody unnest raw).lower = tagBody unnest raw.lower := by
  have hinner : (unmarked (Text.strip raw)).lower = unmarked (Text.strip raw.lower) := by
    rw [lower_unmarked, Text.lower_trim isCaseless_isBlank]
  rw [tagBody_eq, tagBody_eq, Text.lower_trim isCaseless_isBlank, ← hinner]
  cases unnest with
  | false => rfl
  | true => rw [if_pos rfl, if_pos rfl, Text.lower_takeEnd isCaseless_slash]

lemma lower_sortingForm (tag : Text) : (sortingForm tag).lower = sortingForm tag.lower := by
  rw [sortingForm, sortingForm, Text.lower_trimStart isCaseless_numberSign,
    Text.lower_trim isCaseless_isBlank]

/-! ### Plain tags -/

/-- Tags that a marker names in the form that the settings give them: no second number sign and no
blank stands behind the first one, and there is no slash if only what stands behind it is kept. -/
structure IsPlainTag (unnest : Bool) (tag : Text) : Prop where
  oneSign : ¬['#', '#'] <+: Text.strip tag
  noGap : ∀ c, ['#', c] <+: Text.strip tag → isBlank c = false
  whole : unnest = true → '/' ∉ tag

/-- A tag that is more than blanks and number signs has a form in the settings. -/
lemma sortingForm_ne_nil (h : ∃ c ∈ tag, isBlank c = false ∧ c ≠ '#') : sortingForm tag ≠ [] := by
  obtain ⟨c, hc, hblank, hsign⟩ := h
  rw [sortingForm, Text.trimStart, ne_eq, List.dropWhile_eq_nil_iff]
  intro hall
  exact hsign (of_decide_eq_true (hall c ((Text.mem_trim_iff hblank).mpr hc)))

/-- A plain tag is the same without its number sign as without all number signs, and has no blank
at either end then. -/
lemma IsPlainTag.unmarked_eq (hplain : IsPlainTag unnest tag) (hne : sortingForm tag ≠ []) :
    unmarked (Text.strip tag) = sortingForm tag ∧
      (∀ c ∈ (sortingForm tag).head?, isBlank c = false) ∧
      ∀ c ∈ (sortingForm tag).getLast?, isBlank c = false := by
  have hhead := Text.strip_head tag
  have hlast := Text.strip_last tag
  obtain ⟨hone, hgap, -⟩ := hplain
  rw [sortingForm] at hne ⊢
  generalize Text.strip tag = t at *
  by_cases hsign : t.head? = some '#'
  · obtain ⟨rest, rfl⟩ := List.head?_eq_some_iff.mp hsign
    have hrest : Text.trimStart (· = '#') ('#' :: rest) = Text.trimStart (· = '#') rest := rfl
    cases rest with
    | nil => exact absurd rfl hne
    | cons c rest =>
        have hc : c ≠ '#' := by
          rintro rfl
          exact hone (List.prefix_append ['#', '#'] rest)
        have hform : Text.trimStart (· = '#') ('#' :: c :: rest) = c :: rest := by
          rw [hrest, Text.trimStart_eq_self (by simpa using hc)]
        rw [hform]
        refine ⟨rfl, ?_, ?_⟩
        · rintro d hd
          obtain rfl : c = d := Option.some.inj hd
          exact hgap c (List.prefix_append ['#', c] rest)
        · rwa [List.getLast?_cons_cons] at hlast
  · have hform : Text.trimStart (· = '#') t = t := Text.trimStart_eq_self fun c hc => by
      rw [decide_eq_false_iff_not]
      rintro rfl
      exact hsign hc
    rw [hform]
    exact ⟨unmarked_eq_self hsign, hhead, hlast⟩

/-- A tag that a marker names in the form that the settings give it is plain. -/
lemma IsPlainTag.of_tagBody_eq (heq : tagBody unnest tag = sortingForm tag) :
    IsPlainTag unnest tag := by
  have hwhole : unnest = true → '/' ∉ tag := by
    rintro rfl hmem
    have hform : '/' ∈ sortingForm tag := by
      rwa [sortingForm, Text.mem_trimStart_iff (by decide), Text.mem_trim_iff (by decide)]
    rw [← heq, tagBody_eq, if_pos rfl, Text.mem_trim_iff (by decide)] at hform
    simpa using Text.of_mem_takeEnd hform
  have hbody : Text.strip (unmarked (Text.strip tag)) = sortingForm tag := by
    rw [← heq, tagBody_eq]
    split_ifs with hunnest
    · rw [Text.takeEnd_eq_self]
      intro c hc
      rw [decide_eq_true_eq]
      rintro rfl
      exact hwhole hunnest ((Text.mem_trim_iff (by decide)).mp (mem_unmarked hc))
    · rfl
  have hfirst : (sortingForm tag).head? ≠ some '#' := fun hsign =>
    absurd (Text.trimStart_head _ _ _ hsign) (by simp)
  refine ⟨?_, ?_, hwhole⟩
  · rintro ⟨rest, hrest⟩
    rw [← hrest] at hbody
    have hsign : isBlank '#' = false := by decide +kernel
    have hhead : (Text.strip ('#' :: rest)).head? = some '#' :=
      Text.head?_trim (by simpa using hsign)
    exact hfirst (hbody ▸ hhead)
  · rintro c ⟨rest, hrest⟩
    refine eq_false_of_ne_true fun hblank => ?_
    have hc : c ≠ '#' := by
      rintro rfl
      exact absurd hblank (by decide)
    have hform : sortingForm tag = c :: rest := by
      rw [sortingForm, ← hrest]
      exact Text.trimStart_eq_self (p := (· = '#')) (t := c :: rest) (by simpa using hc)
    rw [← hrest] at hbody
    have hstripped : Text.strip (c :: rest) = c :: rest := hbody.trans hform
    have hhead := Text.strip_head (c :: rest)
    rw [hstripped] at hhead
    exact absurd (hhead c rfl) (by simp [hblank])

/-- A marker names a plain tag in the form that the settings give it. -/
lemma IsPlainTag.tagBody_eq_form (hplain : IsPlainTag unnest tag) (hne : sortingForm tag ≠ []) :
    tagBody unnest tag = sortingForm tag := by
  obtain ⟨heq, hhead, hlast⟩ := hplain.unmarked_eq hne
  have hstrip : Text.strip (sortingForm tag) = sortingForm tag := Text.trim_eq_self hhead hlast
  rw [tagBody_eq, heq]
  split_ifs with hunnest
  · rw [Text.takeEnd_eq_self, hstrip]
    intro c hc
    rw [decide_eq_true_eq]
    rintro rfl
    rw [sortingForm, Text.mem_trimStart_iff (by decide), Text.mem_trim_iff (by decide)] at hc
    exact hplain.whole hunnest hc
  · exact hstrip

/-- A tag that is plain in lower case is plain. -/
lemma IsPlainTag.of_lower (hplain : IsPlainTag unnest tag.lower) : IsPlainTag unnest tag := by
  have hsign : decide ('#' = '#') = true := rfl
  have hstrip : Text.strip tag.lower = (Text.strip tag).lower :=
    (Text.lower_trim isCaseless_isBlank tag).symm
  obtain ⟨hone, hgap, hwhole⟩ := hplain
  rw [hstrip] at hone hgap
  refine ⟨?_, ?_, ?_⟩
  · rintro ⟨rest, hrest⟩
    have htag : Text.strip tag = '#' :: '#' :: rest := hrest.symm
    refine hone ⟨Text.lower rest, ?_⟩
    rw [htag, Text.lower_cons_kept isCaseless_numberSign hsign,
      Text.lower_cons_kept isCaseless_numberSign hsign]
    rfl
  · rintro c ⟨rest, hrest⟩
    have htag : Text.strip tag = '#' :: c :: rest := hrest.symm
    refine eq_false_of_ne_true fun hblank => ?_
    refine absurd (hgap c ⟨Text.lower rest, ?_⟩) (by simp [hblank])
    rw [htag, Text.lower_cons_kept isCaseless_numberSign hsign,
      Text.lower_cons_kept isCaseless_isBlank hblank]
    rfl
  · exact fun hunnest hmem =>
      hwhole hunnest ((Text.mem_lowerAfter isCaseless_slash rfl false tag).mpr hmem)

/-- A marker that names a tag has, but for the case of letters, the form that the settings give the
tag just when the tag is plain. -/
theorem lower_tagBody_eq_iff (hne : sortingForm tag ≠ []) :
    (tagBody unnest tag).lower = (sortingForm tag).lower ↔ IsPlainTag unnest tag := by
  constructor
  · intro heq
    rw [lower_tagBody, lower_sortingForm] at heq
    exact (IsPlainTag.of_tagBody_eq heq).of_lower
  · intro hplain
    rw [hplain.tagBody_eq_form hne]

/-! ### The settings -/

/-- The tags that are ignored by name and the tag that only sorts notes, in the form that the
settings give it. -/
lemma mem_ignored_iff (ignoreTags : List Text) (unnest : Bool) (h : tag.allBlank = false)
    (t : Text) : t ∈ (TagSettings.of ignoreTags (some tag) unnest).ignored ↔
      t ∈ (TagSettings.of ignoreTags none unnest).ignored ∨ t = (sortingForm tag).lower := by
  simp [TagSettings.of, h, sortingForm]

/-- A marker has no tag just when its text is empty or ignored. -/
lemma cleanTag_eq_none_iff {settings : TagSettings} {raw : Text} :
    cleanTag settings raw = none ↔
      tagBody settings.unnest raw = [] ∨ (tagBody settings.unnest raw).lower ∈ settings.ignored := by
  simp [cleanTag, or_iff_not_imp_left]

/-- Whether the tag that only sorts notes is dropped with the markers that name it: it is plain, or
nothing is left of it, or it is one of the other ignored tags. -/
def DropsSortingTag (ignoreTags : List Text) (sortingTag : Text) (unnest : Bool) : Prop :=
  IsPlainTag unnest sortingTag ∨ tagBody unnest sortingTag = [] ∨
    (tagBody unnest sortingTag).lower ∈ (TagSettings.of ignoreTags none unnest).ignored

/-- A marker that names the tag in whatever case has no tag just when this is dropped. -/
lemma cleanTag_sortingTag_iff {ignoreTags : List Text} {sortingTag raw : Text}
    (h : ∃ c ∈ sortingTag, isBlank c = false ∧ c ≠ '#') (hraw : raw.lower = sortingTag.lower) :
    cleanTag (.of ignoreTags (some sortingTag) unnest) raw = none ↔
      DropsSortingTag ignoreTags sortingTag unnest := by
  have hbody : (tagBody unnest raw).lower = (tagBody unnest sortingTag).lower := by
    rw [lower_tagBody, lower_tagBody, hraw]
  have hempty : tagBody unnest raw = [] ↔ tagBody unnest sortingTag = [] := by
    rw [← Text.lower_eq_nil_iff, hbody, Text.lower_eq_nil_iff]
  have hsome : sortingTag.allBlank = false := by
    obtain ⟨c, hc, hblank, -⟩ := h
    exact List.all_eq_false.mpr ⟨c, hc, by simp [hblank]⟩
  have hunnest : (TagSettings.of ignoreTags (some sortingTag) unnest).unnest = unnest := rfl
  rw [cleanTag_eq_none_iff, hunnest, hempty, hbody, mem_ignored_iff ignoreTags unnest hsome,
    lower_tagBody_eq_iff (sortingForm_ne_nil h), DropsSortingTag]
  tauto

/-! ### The lists of tags -/

/-- A page with a marker of some text. -/
def tagPage (raw : Text) : Forest :=
  [.element "span" [("class", "hashtag".toList)] [.text .plain raw]]

lemma tags_tagPage (settings : TagSettings) (italicsToAlt : Bool) (raw : Text) :
    (Content.sanitize ⟨settings, italicsToAlt⟩ (tagPage raw)).tags
      = (cleanTag settings raw).toList := by
  have htexts : markerTexts (readable (tagPage raw)) = [raw ++ []] := rfl
  rw [Content.sanitize, documentTags, htexts, List.append_nil, List.filterMap_cons]
  cases cleanTag settings raw <;> rfl

/-- A tag in the list of a page is that of a marker. -/
lemma exists_marker {settings : ContentSettings} {document : Forest} {t : Text}
    (h : t ∈ (Content.sanitize settings document).tags) :
    ∃ raw, cleanTag settings.tags raw = some t := by
  rw [Content.sanitize, documentTags, distinctTags_eq, List.mem_eraseDups, List.mem_filterMap] at h
  obtain ⟨raw, -, hclean⟩ := h
  exact ⟨raw, hclean⟩

/-- **The tag that only sorts notes.** If it is more than blanks and number signs, it is dropped with
every marker that names it, in whatever case, and its form is in the tags of no page, just when it
is plain, or nothing is left of it, or it is one of the other ignored tags. -/
theorem Content.sortingTag_dropped_iff (ignoreTags : List Text) (sortingTag : Text) (unnest : Bool)
    (h : ∃ c ∈ sortingTag, isBlank c = false ∧ c ≠ '#') :
    (∀ raw : Text, raw.lower = sortingTag.lower →
      (cleanTag (.of ignoreTags (some sortingTag) unnest) raw = none ↔
        DropsSortingTag ignoreTags sortingTag unnest)) ∧
    ((∀ italicsToAlt document, ∀ tag ∈
        (sanitize ⟨.of ignoreTags (some sortingTag) unnest, italicsToAlt⟩ document).tags,
        tag.lower ≠ (tagBody unnest sortingTag).lower) ↔
      DropsSortingTag ignoreTags sortingTag unnest) := by
  refine ⟨fun raw hraw => cleanTag_sortingTag_iff h hraw, ?_⟩
  rw [← cleanTag_sortingTag_iff h rfl]
  constructor
  · intro hnone
    cases hclean : cleanTag (.of ignoreTags (some sortingTag) unnest) sortingTag with
    | none => rfl
    | some tag =>
        have hmem : tag ∈ (sanitize ⟨.of ignoreTags (some sortingTag) unnest, false⟩
            (tagPage sortingTag)).tags := by
          rw [tags_tagPage, hclean]
          exact List.mem_singleton_self tag
        refine absurd ?_ (hnone false _ tag hmem)
        rw [cleanTag] at hclean
        split_ifs at hclean
        rw [← Option.some.inj hclean]
        rfl
  · intro hnone italicsToAlt document tag htag hsame
    obtain ⟨raw, hraw⟩ := exists_marker htag
    obtain ⟨hne, -, -, hkept⟩ := cleanTag_spec hraw
    rcases cleanTag_eq_none_iff.mp hnone with hempty | hignored
    · have hform : (tagBody unnest sortingTag).lower = [] := Text.lower_eq_nil_iff.mpr hempty
      exact hne (Text.lower_eq_nil_iff.mp (hsame.trans hform))
    · exact hkept (hsame ▸ hignored)

/-- With a blank behind its number sign the tag is listed with each marker that names it. -/
theorem Content.sortingTag_dropped_iff_gap :
    (∃ c ∈ "# Inbox".toList, isBlank c = false ∧ c ≠ '#') ∧
      cleanTag (.of [] (some "# Inbox".toList) false) "# INBOX".toList ≠ none ∧
      ¬∀ italicsToAlt document, ∀ tag ∈
        (sanitize ⟨.of [] (some "# Inbox".toList) false, italicsToAlt⟩ document).tags,
        tag.lower ≠ (tagBody false "# Inbox".toList).lower := by
  have h : ∃ c ∈ "# Inbox".toList, isBlank c = false ∧ c ≠ '#' := ⟨'I', by decide +kernel⟩
  have hkept : ¬DropsSortingTag [] "# Inbox".toList false := by
    rintro (hplain | hempty | hignored)
    · exact absurd (hplain.noGap ' ' (by decide +kernel)) (by decide)
    · exact absurd hempty (by decide +kernel)
    · exact absurd hignored (by decide +kernel)
  obtain ⟨hmarkers, hlists⟩ := Content.sortingTag_dropped_iff [] "# Inbox".toList false h
  exact ⟨h, fun hnone => hkept ((hmarkers "# INBOX".toList (by decide +kernel)).mp hnone),
    fun hnone => hkept (hlists.mp hnone)⟩

end PageNotes
