import PageNotes.Proofs.Html.Beside
import PageNotes.Proofs.Markdown.Places
import PageNotes.Proofs.Text.Tags

/-!
References to footnotes and what they keep. A reference is made anew from a single link, which is
the reference itself or the first link into the page in it, so text and links beside this link are
lost. The text of the link is written as it is, so what looks like a tag in it becomes one.

* `Node.noteLink?`, `Node.noteText`, `Node.noteLayers`: what a reference is made from;
* `footnoteReferenceText_eq`: it is the text of the link with elements around it;
* `KeepsReference`: the text and the links of a reference are kept;
* `footnoteReference_kept_iff`: for which references they are.
-/

namespace PageNotes

/-! ### What a reference is made from -/

/-- The link that a reference to a footnote is made from. -/
def Node.noteLink? (node : Node) : Option Node :=
  if node.named "a" then some node else fragmentLink? node

/-- The text that a reference to a footnote is made from: that of the link, or else all of it. -/
def Node.noteText (node : Node) : Text := (node.noteLink?.getD node).innerText

/-- The text of a reference to a footnote beside its link. -/
def Node.textBesideNoteLink (node : Node) : Text :=
  if node.named "a" then [] else textBeside .plain isFragmentLink node.children

/-- A link as an element around a text. -/
def linkLayer (link : Node) : String × List Text :=
  ("a", attributePart "href" (link.attributes.get "href") :: identifierParts link.attributes)

/-- The elements that are written around the text of a link. -/
def anchorLayers (link : Node) : List (String × List Text) :=
  linkLayer link :: if link.descendants.any (Node.named "sup") then [("sup", [])] else []

/-- The elements that are written around the text of a reference. -/
def Node.noteLayers (node : Node) : List (String × List Text) :=
  (if node.named "a" then [] else [("sup", identifierParts node.attributes)])
    ++ (node.noteLink?.map anchorLayers).getD []

variable {node : Node}

lemma anchorText_eq (link : Node) :
    anchorText link = Text.wrapped (anchorLayers link) (Text.strip link.innerText) := by
  rw [anchorText, anchorLayers]
  cases link.descendants.any (Node.named "sup") <;> rfl

/-- A reference to a footnote is the text of its link with elements around it. -/
lemma footnoteReferenceText_eq (node : Node) :
    footnoteReferenceText node = Text.wrapped node.noteLayers (Text.strip node.noteText) := by
  rw [footnoteReferenceText, Node.noteLayers, Node.noteText, Node.noteLink?]
  by_cases hlink : node.named "a" = true
  · rw [if_pos hlink, if_pos hlink, if_pos hlink, anchorText_eq]
    rfl
  · rw [if_neg hlink, if_neg hlink, if_neg hlink]
    cases fragmentLink? node with
    | none => rfl
    | some link =>
        dsimp only
        rw [anchorText_eq]
        rfl

/-- The text of a reference is the text of its link with what is beside this. -/
lemma Node.exists_around_noteText (h : isLinkOrSuperscript node = true) :
    ∃ before after, node.textBesideNoteLink = before ++ after ∧
      node.innerText = before ++ (node.noteText ++ after) := by
  rw [textBesideNoteLink, noteText, noteLink?]
  by_cases hlink : node.named "a" = true
  · rw [if_pos hlink, if_pos hlink]
    exact ⟨[], [], rfl, (List.append_nil _).symm⟩
  · have hraised : node.named "sup" = true := by
      rw [isLinkOrSuperscript, eq_false_of_ne_true hlink, Bool.false_or] at h
      exact h
    have hinner : node.innerText = forestText .plain node.children := by
      rw [← textOf_plain rfl hraised]
      cases node with
      | element => rfl
      | text | comment | doctype => cases hraised
    have htext : ((fragmentLink? node).getD node).innerText
        = firstText .plain isFragmentLink node.children := by
      rw [fragmentLink?, if_neg hlink, firstText, descendants]
      cases hfirst : (forestElements node.children).find? isFragmentLink with
      | none => exact hinner
      | some link =>
          have hfragment : isFragmentLink link = true := List.find?_some hfirst
          rw [isFragmentLink, Bool.and_eq_true] at hfragment
          exact (textOf_plain rfl hfragment.1).symm
    rw [if_neg hlink, if_neg hlink, htext, hinner]
    exact exists_around .plain isFragmentLink node.children

/-! ### Their tags -/

/-- The elements around a reference are superscripts and its link. -/
lemma Node.mem_noteLayers {layer : String × List Text} (h : layer ∈ node.noteLayers) :
    (∃ attributes, layer = ("sup", identifierParts attributes)) ∨
      ∃ link ∈ node.noteLink?, layer = linkLayer link := by
  rw [noteLayers] at h
  rcases List.mem_append.mp h with houter | hinner
  · split_ifs at houter
    · cases houter
    · exact Or.inl ⟨node.attributes, List.mem_singleton.mp houter⟩
  · cases hlink : node.noteLink? with
    | none =>
        rw [hlink] at hinner
        cases hinner
    | some link =>
        rw [hlink, Option.map_some, Option.getD_some, anchorLayers] at hinner
        rcases List.mem_cons.mp hinner with rfl | hinner
        · exact Or.inr ⟨link, rfl, rfl⟩
        · split_ifs at hinner
          · exact Or.inl ⟨[], List.mem_singleton.mp hinner⟩
          · cases hinner

lemma Node.linkLayer_mem {link : Node} (h : link ∈ node.noteLink?) :
    linkLayer link ∈ node.noteLayers := by
  rw [noteLayers, Option.mem_def.mp h]
  exact List.mem_append_right _ List.mem_cons_self

lemma balanced_identifierParts (attributes : Attributes) :
    ∀ part ∈ identifierParts attributes, Text.Balanced part := by
  intro part hpart
  rw [identifierParts] at hpart
  split_ifs at hpart
  · cases hpart
  · rw [List.mem_singleton.mp hpart]
    exact .attributePart (by decide) _

lemma isLayer_sup (attributes : Attributes) :
    Text.IsLayer ("sup", identifierParts attributes) where
  bare := (by decide : "sup".toList.all isBare = true)
  start := (by decide : "sup".toList.head?.any isTagStart = true)
  parts := balanced_identifierParts attributes

lemma isLayer_linkLayer (link : Node) : Text.IsLayer (linkLayer link) where
  bare := (by decide : "a".toList.all isBare = true)
  start := (by decide : "a".toList.head?.any isTagStart = true)
  parts part hpart := by
    rcases List.mem_cons.mp hpart with rfl | hpart
    · exact .attributePart (by decide) _
    · exact balanced_identifierParts link.attributes part hpart

lemma Node.isLayer_noteLayers (node : Node) : ∀ layer ∈ node.noteLayers, Text.IsLayer layer := by
  intro layer hlayer
  rcases mem_noteLayers hlayer with ⟨attributes, rfl⟩ | ⟨link, -, rfl⟩
  · exact isLayer_sup attributes
  · exact isLayer_linkLayer link

/-- Whether a tag opens a link with an address. -/
def IsLinkTag (href tag : Text) : Prop := 'a' :: ' ' :: attributePart "href" href <+: tag

/-- An attribute with its quotes tells how its value is written. -/
lemma attributePart_prefix_iff {name : String} {value other : Text} {t : Text} :
    attributePart name value <+: attributePart name other ++ t ↔
      attributeText value = attributeText other := by
  have hvalue : ∀ value rest,
      (attributeText value ++ '"' :: rest).takeWhile (· ≠ '"') = attributeText value := by
    intro value rest
    have hkept : ∀ c ∈ attributeText value, decide (c ≠ '"') = true := by
      refine fun c hc => decide_eq_true ?_
      rintro rfl
      exact Text.quote_notMem_attributeText value hc
    rw [List.takeWhile_append_of_pos hkept, List.takeWhile_cons_of_neg (by simp), List.append_nil]
  constructor
  · rintro ⟨rest, heq⟩
    simp only [attributePart, List.append_assoc, List.cons_append, List.nil_append,
      List.append_cancel_left_eq, List.cons.injEq, true_and] at heq
    rw [← hvalue value rest, heq, hvalue]
  · intro h
    rw [attributePart, attributePart, h]
    exact List.prefix_append _ _

/-- The tag of a written link has its address. -/
lemma isLinkTag_linkLayer {href : Text} {link : Node} :
    IsLinkTag href (Text.openingTag (linkLayer link)) ↔
      attributeText href = attributeText (link.attributes.get "href") := by
  have hname : "a".toList = ['a'] := rfl
  have hparts : ∃ rest, Text.openingTag (linkLayer link)
      = 'a' :: ' ' :: (attributePart "href" (link.attributes.get "href") ++ rest) := by
    rw [linkLayer]
    cases identifierParts link.attributes with
    | nil => exact ⟨[], by simp [Text.openingTag, Text.join, hname]⟩
    | cons part parts =>
        exact ⟨' ' :: Text.join [' '] (part :: parts), by simp [Text.openingTag, Text.join, hname]⟩
  obtain ⟨rest, hrest⟩ := hparts
  rw [IsLinkTag, hrest, List.prefix_cons_inj, List.prefix_cons_inj, attributePart_prefix_iff]

lemma not_isLinkTag_sup {href : Text} (parts : List Text) :
    ¬IsLinkTag href (Text.openingTag ("sup", parts)) := by
  have hname : "sup".toList = ['s', 'u', 'p'] := by decide
  obtain ⟨rest, hrest⟩ := Text.name_prefix_openingTag ("sup", parts)
  rintro ⟨other, hother⟩
  rw [← hrest, hname] at hother
  cases hother

/-- The tags of a reference without tags in its text open a link with an address just when its link
has this address. -/
lemma exists_isLinkTag_iff {label href : Text} (hlabel : Text.NoTag label) :
    (∃ tag ∈ Text.tags (Text.wrapped node.noteLayers label), IsLinkTag href tag) ↔
      ∃ link ∈ node.noteLink?, attributeText href = attributeText (link.attributes.get "href") := by
  rw [Text.tags_wrapped node.isLayer_noteLayers hlabel]
  constructor
  · rintro ⟨tag, htag, hlink⟩
    rcases List.mem_append.mp htag with hopening | hclosing
    · obtain ⟨layer, hlayer, rfl⟩ := List.mem_map.mp hopening
      rcases Node.mem_noteLayers hlayer with ⟨attributes, rfl⟩ | ⟨link, hmem, rfl⟩
      · exact absurd hlink (not_isLinkTag_sup _)
      · exact ⟨link, hmem, isLinkTag_linkLayer.mp hlink⟩
    · obtain ⟨name, -, rfl⟩ := List.mem_map.mp hclosing
      obtain ⟨rest, hrest⟩ := hlink
      cases hrest
  · rintro ⟨link, hlink, hvalue⟩
    have hopening := List.mem_map_of_mem (f := Text.openingTag) (Node.linkLayer_mem hlink)
    exact ⟨_, List.mem_append_left _ hopening, isLinkTag_linkLayer.mpr hvalue⟩

/-! ### What a reference keeps -/

/-- A text for a reference to a footnote keeps its content: outside the tags it has the text of the
reference, up to blanks, and each link into the page has a tag with its address. -/
structure KeepsReference (node : Node) (out : Text) : Prop where
  text : (Text.shown out).filter (!isBlank ·) = node.innerText.filter (!isBlank ·)
  links : ∀ link ∈ node.elements, isFragmentLink link = true →
    ∃ tag ∈ Text.tags out, IsLinkTag (link.attributes.get "href") tag

/-- A reference that is a single link: no tag starts in its text, nothing but blanks stands beside
the link that it is made from, and all links into the page in it have the address of this link. -/
structure Node.IsSingleLink (node : Node) : Prop where
  untagged : Text.NoTag node.innerText
  alone : ∀ c ∈ node.textBesideNoteLink, isBlank c = true
  linked : ∀ link ∈ node.elements, isFragmentLink link = true → ∃ kept ∈ node.noteLink?,
    attributeText (link.attributes.get "href") = attributeText (kept.attributes.get "href")

/-- Of a reference the text of its link is shown. -/
lemma shown_footnoteReferenceText (node : Node) :
    Text.shown (footnoteReferenceText node) = Text.shown (Text.strip node.noteText) := by
  rw [footnoteReferenceText_eq, Text.shown_wrapped node.isLayer_noteLayers]

variable (h : isFootnoteReference node = true)
include h

lemma isLinkOrSuperscript_of_isFootnoteReference : isLinkOrSuperscript node = true := by
  rw [isFootnoteReference, Bool.and_eq_true] at h
  exact h.1

/-- A reference to a footnote is written by the rule for references. -/
lemma Renderer.write_footnoteReference (s : Surroundings) (t : Text) :
    Renderer.standard.write s node t = .ok (footnoteReferenceText node) := by
  have hname := isLinkOrSuperscript_of_isFootnoteReference h
  have hidentifier : hasIdentifier node = false := by
    rw [hasIdentifier, h, Bool.true_or, Bool.not_true, Bool.and_false]
  have hform : node.named "img" = false ∧ isEmbeddedFrame node = false := by
    cases node with
    | element name attributes children =>
        rw [isLinkOrSuperscript, Bool.or_eq_true] at hname
        rcases hname with hname | hname
        · obtain rfl : name = "a" := of_decide_eq_true hname
          exact ⟨rfl, rfl⟩
        · obtain rfl : name = "sup" := of_decide_eq_true hname
          exact ⟨rfl, rfl⟩
    | text | comment | doctype => exact ⟨rfl, rfl⟩
  rw [Renderer.write_standard, hform.1, hform.2, hidentifier, h, if_neg Bool.false_ne_true,
    if_neg Bool.false_ne_true, if_neg Bool.false_ne_true, if_pos rfl]

/-- Nothing but blanks stands beside the link of a reference just when this has the whole text. -/
lemma strip_noteText_iff :
    Text.strip node.innerText = Text.strip node.noteText ↔
      ∀ c ∈ node.textBesideNoteLink, isBlank c = true := by
  obtain ⟨before, after, hbeside, htext⟩ :=
    Node.exists_around_noteText (isLinkOrSuperscript_of_isFootnoteReference h)
  rw [hbeside, htext, Text.strip, Text.strip, Text.trim_surrounded_iff]

/-- If the text is kept, no tag starts in the text of the link. -/
lemma KeepsReference.noTag (hkept : KeepsReference node (footnoteReferenceText node)) :
    Text.NoTag (Text.strip node.noteText) := by
  obtain ⟨before, after, -, htext⟩ :=
    Node.exists_around_noteText (isLinkOrSuperscript_of_isFootnoteReference h)
  -- the bracket of a tag is not shown, so there would be too few brackets among what is shown
  by_contra htag
  have hfewer := Text.count_shown_lt htag
  have hbrackets : ∀ u : Text, (u.filter (!isBlank ·)).count '<' = u.count '<' := fun u =>
    List.count_filter (p := fun c => !isBlank c) (by decide)
  have hcount := congrArg (List.count '<') hkept.text
  rw [hbrackets, hbrackets, shown_footnoteReferenceText, htext, List.count_append,
    List.count_append] at hcount
  have htrimmed : (Text.strip node.noteText).count '<' = node.noteText.count '<' := by
    rw [← hbrackets, Text.filter_trim, hbrackets]
  omega

lemma KeepsReference.isSingleLink (hkept : KeepsReference node (footnoteReferenceText node)) :
    node.IsSingleLink := by
  obtain ⟨before, after, hbeside, htext⟩ :=
    Node.exists_around_noteText (isLinkOrSuperscript_of_isFootnoteReference h)
  have hnoTag := hkept.noTag h
  have halone : ∀ c ∈ node.textBesideNoteLink, isBlank c = true := by
    have hsame := hkept.text
    rw [shown_footnoteReferenceText, Text.shown_eq_self hnoTag, Text.filter_trim, htext] at hsame
    rw [hbeside]
    exact Text.filter_surrounded_iff.mp hsame.symm
  refine ⟨?_, halone, fun link hlink hfragment => ?_⟩
  · rw [← Text.noTag_strip_iff, (strip_noteText_iff h).mpr halone]
    exact hnoTag
  · have htag := hkept.links link hlink hfragment
    rw [footnoteReferenceText_eq] at htag
    exact (exists_isLinkTag_iff hnoTag).mp htag

namespace Node.IsSingleLink

variable (hsingle : node.IsSingleLink)
include hsingle

/-- The text of the link is the whole text, and no tag starts in it. -/
lemma noteText : Text.strip node.noteText = Text.strip node.innerText ∧
    Text.NoTag (Text.strip node.noteText) := by
  have hwhole := (strip_noteText_iff h).mpr hsingle.alone
  refine ⟨hwhole.symm, ?_⟩
  rw [← hwhole, Text.noTag_strip_iff]
  exact hsingle.untagged

lemma shown : Text.shown (footnoteReferenceText node) = Text.strip node.innerText := by
  obtain ⟨hwhole, hnoTag⟩ := hsingle.noteText h
  rw [shown_footnoteReferenceText, Text.shown_eq_self hnoTag, hwhole]

lemma keepsReference : KeepsReference node (footnoteReferenceText node) := by
  refine ⟨?_, fun link hlink hfragment => ?_⟩
  · rw [hsingle.shown h, Text.filter_trim]
  · rw [footnoteReferenceText_eq]
    exact (exists_isLinkTag_iff (hsingle.noteText h).2).mpr (hsingle.linked link hlink hfragment)

end Node.IsSingleLink

/-- **References to footnotes** are written for every element that is one. The content of a reference
is kept just when it is a single link, and its text is then shown without the blanks around it. -/
theorem footnoteReference_kept_iff (s : Surroundings) (t : Text) :
    Renderer.standard.write s node t = .ok (footnoteReferenceText node) ∧
    (KeepsReference node (footnoteReferenceText node) ↔ node.IsSingleLink) ∧
    (node.IsSingleLink →
      Text.shown (footnoteReferenceText node) = Text.strip node.innerText) :=
  ⟨Renderer.write_footnoteReference h s t,
    ⟨fun hkept => hkept.isSingleLink h, fun hsingle => hsingle.keepsReference h⟩,
    fun hsingle => hsingle.shown h⟩

omit h

/-- A raised reference to two notes. -/
def twoNotes : Node :=
  .element "sup" [("class", "footnote-ref".toList)]
    [.element "a" [("href", "#fn1".toList)] [.text .plain ['1']], .text .plain [',', ' '],
      .element "a" [("href", "#fn2".toList)] [.text .plain ['2']]]

/-- Of a reference to two notes the first one is kept. -/
theorem footnoteReference_kept_iff_twoNotes :
    isFootnoteReference twoNotes = true ∧
      footnoteReferenceText twoNotes = "<sup><a href=\"#fn1\">1</a></sup>".toList ∧
      ¬KeepsReference twoNotes (footnoteReferenceText twoNotes) := by
  have h : isFootnoteReference twoNotes = true := by decide +kernel
  have hcomma : ',' ∈ twoNotes.textBesideNoteLink := by decide +kernel
  obtain ⟨-, hkept, -⟩ := footnoteReference_kept_iff h Surroundings.top []
  refine ⟨h, by decide +kernel, fun hkeeps => ?_⟩
  exact absurd ((hkept.mp hkeeps).alone ',' hcomma) (by decide)

end PageNotes
