import PageNotes.Proofs.Html.StartTags
import PageNotes.Proofs.Markdown.Insertion
import PageNotes.Proofs.Markdown.NoteReferences

/-!
Tags in Markdown. Frames, identifiers and footnotes are written as elements of markup, with values
of the element in the attributes of their start tags. In a value only quotes are written as
references. So it is read again as what a reader of markup makes of the value itself, which is the
value just when that is literal; in a cell it must not have line ends either.

* `RawTag`: a start tag and the attributes that it is made for;
* `RawTag.scan_text_iff`: when these attributes are read from it;
* `rawTags`: the start tags with which the rules write an element;
* `Renderer.write_rawTags`: they stand in what is written, and what is read of them.
-/

namespace PageNotes

variable {v : Text}

/-! ### Values on one line -/

lemma newline_notMem_oneLine (v : Text) : '\n' ∉ oneLine v := by
  rw [oneLine_eq_map, List.mem_map]
  rintro ⟨c, -, hc⟩
  split_ifs at hc with hline
  · exact absurd hc (by decide)
  · exact hline hc

/-- On one line a value is read as it was just when it is literal and was on one line. -/
lemma readAttribute_oneLine_iff : readAttribute (oneLine v) = v ↔ IsLiteral v ∧ '\n' ∉ v := by
  constructor
  · intro h
    have hlength : (oneLine v).length = v.length := by
      rw [oneLine_eq_map, List.length_map]
    obtain ⟨hread, hliteral⟩ := eq_of_readAttribute h hlength
    -- so the line ends are the only characters that may have changed
    have hsteady : (oneLine v).all isSteadyChar = true := by
      rw [oneLine_eq_map, List.all_map]
      refine List.all_eq_true.mpr fun c hc => ?_
      rw [Function.comp_apply]
      split_ifs
      · decide
      · exact List.all_eq_true.mp hliteral.steady c hc
    rw [normalizeSource_eq_self_iff.mpr hsteady] at hread
    exact ⟨hliteral, hread ▸ newline_notMem_oneLine v⟩
  · rintro ⟨hliteral, hline⟩
    rw [oneLine_eq_self hline, hliteral.readAttribute]

/-! ### Start tags for attributes -/

/-- A start tag for attributes, perhaps with all of it on one line. -/
structure RawTag where
  name : String
  fields : Attributes
  onOneLine : Bool
  readable : IsReadable name fields

namespace RawTag

variable {tag : RawTag}

/-- The attributes as they are written. -/
def written (tag : RawTag) : Attributes :=
  tag.fields.map fun field => (field.1, if tag.onOneLine then oneLine field.2 else field.2)

/-- The tag in Markdown. -/
def text (tag : RawTag) : Text := startTagText tag.name tag.written

/-- The element around a text. -/
def layer (tag : RawTag) : String × List Text :=
  (tag.name, tag.written.map fun field => attributePart field.1 field.2)

/-- The values are literal, and on one line they have no line ends. -/
def IsKept (tag : RawTag) : Prop :=
  ∀ field ∈ tag.fields, IsLiteral field.2 ∧ (tag.onOneLine = true → '\n' ∉ field.2)

lemma scan_text (tag : RawTag) :
    Token.scan tag.text
      = [.startTag tag.name (tag.written.map fun field => (field.1, readAttribute field.2))] :=
  Token.scan_startTagText (tag.readable.map fun value =>
    if tag.onOneLine then oneLine value else value)

/-- The attributes are read from the tag just when they are kept. -/
lemma scan_text_iff : Token.scan tag.text = [.startTag tag.name tag.fields] ↔ tag.IsKept := by
  have hvalue : ∀ v, readAttribute (if tag.onOneLine then oneLine v else v) = v ↔
      IsLiteral v ∧ (tag.onOneLine = true → '\n' ∉ v) := by
    intro v
    cases tag.onOneLine with
    | true => simp only [if_true, readAttribute_oneLine_iff, true_implies]
    | false => simp only [Bool.false_eq_true, if_false, readAttribute_eq_self_iff, false_implies,
        and_true]
  have hfields : (tag.written.map fun field => (field.1, readAttribute field.2)) = tag.fields ↔
      ∀ field ∈ tag.fields,
        readAttribute (if tag.onOneLine then oneLine field.2 else field.2) = field.2 := by
    rw [written, List.map_map]
    conv_lhs => rhs; rw [← List.map_id tag.fields]
    rw [List.map_inj_left]
    exact forall₂_congr fun field _ => ⟨congrArg Prod.snd, fun h => Prod.ext rfl h⟩
  rw [scan_text, List.singleton_inj, Token.startTag.injEq, hfields, IsKept]
  simp only [true_and, hvalue]

lemma written_eq (h : tag.onOneLine = false) : tag.written = tag.fields := by
  simp only [written, h, Bool.false_eq_true, if_false]
  exact List.map_id _

lemma layer_eq (h : tag.onOneLine = false) :
    tag.layer = (tag.name, tag.fields.map fun field => attributePart field.1 field.2) := by
  rw [layer, written_eq h]

/-- An element is its start tag, its text and its end tag. -/
lemma elementText_layer (tag : RawTag) (t : Text) :
    elementText tag.layer.1 tag.layer.2 t
      = tag.text ++ (t ++ '<' :: '/' :: (tag.name.toList ++ ['>'])) := by
  rw [elementText, text, startTagText_eq, Text.openingTag]
  simp [layer]

/-- Elements around a text are their start tags with the text behind them. -/
lemma exists_wrapped (tags : List RawTag) (t : Text) :
    ∃ after, Text.wrapped (tags.map layer) t = tags.flatMap text ++ after := by
  induction tags with
  | nil => exact ⟨t, rfl⟩
  | cons tag tags ih =>
      obtain ⟨after, hafter⟩ := ih
      have hcons : Text.wrapped ((tag :: tags).map layer) t
          = elementText tag.layer.1 tag.layer.2 (Text.wrapped (tags.map layer) t) := rfl
      refine ⟨after ++ '<' :: '/' :: (tag.name.toList ++ ['>']), ?_⟩
      rw [hcons, elementText_layer, hafter, List.flatMap_cons, List.append_assoc,
        List.append_assoc]

end RawTag

/-! ### Tags of elements -/

/-- The attributes that an element has among some, those with a value. -/
def Attributes.kept (attributes : Attributes) (keys : List String) : Attributes :=
  keys.filterMap fun key =>
    if (attributes.get key).isEmpty then none else some (key, attributes.get key)

lemma Attributes.kept_keys (attributes : Attributes) (keys : List String) :
    ((attributes.kept keys).map Prod.fst).Sublist keys := by
  induction keys with
  | nil => exact List.Sublist.slnil
  | cons key keys ih =>
      rw [kept, List.filterMap_cons]
      split_ifs
      · exact ih.cons key
      · exact ih.cons_cons key

/-- The tag of a frame, with what it shows, its size and its title. -/
def frameTag (name : String) (attributes : Attributes) : RawTag where
  name := "iframe"
  fields := ("src", frameSource name attributes) :: attributes.kept ["width", "height", "title"]
  onOneLine := false
  readable := .of_sublist ((attributes.kept_keys _).cons_cons "src") (by decide) (by decide)
    (by decide)

/-- The tag of an element with its identifier, if it has one. -/
def identifierTag (name : String) (attributes : Attributes) (hname : isTagName name = true) :
    RawTag where
  name := name
  fields := attributes.kept ["id"]
  onOneLine := false
  readable := .of_sublist (attributes.kept_keys _) hname (by decide) (by decide)

/-- The tag of the mark of a place; in a cell it is on one line. -/
def placeTag (name : String) (attributes : Attributes) : RawTag where
  name := "span"
  fields := [("id", attributes.get "id")]
  onOneLine := isCell name
  readable := .of_sublist (List.Sublist.refl ["id"]) (by decide) (by decide) (by decide)

/-- The tag of a link. -/
def linkTag (link : Node) : RawTag where
  name := "a"
  fields := ("href", link.attributes.get "href") :: link.attributes.kept ["id"]
  onOneLine := false
  readable := .of_sublist ((link.attributes.kept_keys _).cons_cons "href") (by decide) (by decide)
    (by decide)

/-- The tag of a superscript. -/
def raisedTag (attributes : Attributes) : RawTag := identifierTag "sup" attributes (by decide)

/-- The tag of a footnote. -/
def footnoteTag (attributes : Attributes) : RawTag := identifierTag "div" attributes (by decide)

/-- The tags of a link whose text is raised if it was. -/
def anchorTags (link : Node) : List RawTag :=
  linkTag link :: if link.descendants.any (Node.named "sup") then [raisedTag []] else []

/-- The tags of a reference to a footnote. -/
def noteTags (node : Node) : List RawTag :=
  (if node.named "a" then [] else [raisedTag node.attributes])
    ++ (node.noteLink?.map anchorTags).getD []

/-- The start tags with which the rules write an element, one behind the other: the tag of a frame;
the mark of a place, but for headings and in code; the tags of a reference to a footnote; and the
tag of a footnote. -/
def rawTags (s : Surroundings) : Node → List RawTag
  | .element name attributes children =>
    let node := Node.element name attributes children
    if name = "img" then []
    else if isFrame name then [frameTag name attributes]
    else if hasIdentifier node then
      if isNumberedHeading name || s.verbatim then [] else [placeTag name attributes]
    else if isFootnoteReference node then noteTags node
    else if isFootnoteBody node then [footnoteTag attributes]
    else []
  | _ => []

/-! ### What is written -/

variable {tag : RawTag} {name : String} {attributes : Attributes} {children : Forest}
  {s : Surroundings} {t out : Text}

/-- A text with some start tags in it, one behind the other. -/
def HasTags (tags : List RawTag) (out : Text) : Prop :=
  ∃ before after, out = before ++ tags.flatMap RawTag.text ++ after

lemma hasTags_nil (out : Text) : HasTags [] out := ⟨out, [], by simp⟩

lemma hasTags_singleton (tag : RawTag) (before after : Text) :
    HasTags [tag] (before ++ (tag.text ++ after)) :=
  ⟨before, after, by rw [List.flatMap_singleton, List.append_assoc]⟩

lemma Attributes.kept_parts (attributes : Attributes) (keys : List String) :
    (attributes.kept keys).map (fun field => attributePart field.1 field.2)
      = keys.filterMap fun key =>
          if (attributes.get key).isEmpty then none
          else some (attributePart key (attributes.get key)) := by
  rw [kept, List.map_filterMap]
  congr 1
  funext key
  split_ifs <;> rfl

lemma identifierParts_eq (attributes : Attributes) :
    identifierParts attributes
      = (attributes.kept ["id"]).map fun field => attributePart field.1 field.2 := by
  rw [Attributes.kept_parts, identifierParts, List.filterMap_cons]
  split_ifs <;> rfl

lemma frameText_hasTags (name : String) (attributes : Attributes) :
    HasTags [frameTag name attributes] (frameText name attributes) := by
  have hlayer : (frameTag name attributes).layer.2
      = attributePart "src" (frameSource name attributes) ::
        (attributes.kept ["width", "height", "title"]).map
          fun field => attributePart field.1 field.2 := by
    rw [RawTag.layer_eq rfl]
    rfl
  have hframe : frameText name attributes
      = '\n' :: '\n' :: (elementText (frameTag name attributes).layer.1
          (frameTag name attributes).layer.2 [] ++ ['\n', '\n']) := by
    rw [hlayer, Attributes.kept_parts]
    rfl
  rw [hframe, RawTag.elementText_layer, List.append_assoc]
  exact hasTags_singleton _ ['\n', '\n'] _

lemma footnoteBodyText_hasTags (attributes : Attributes) (t : Text) :
    HasTags [footnoteTag attributes] (footnoteBodyText attributes t) := by
  have htag : (footnoteTag attributes).text
      = '<' :: (Text.join [' '] ("div".toList :: identifierParts attributes) ++ ['>']) := by
    rw [RawTag.text, RawTag.written_eq rfl, startTagText_eq, identifierParts_eq]
    rfl
  rw [footnoteBodyText, ← htag]
  exact hasTags_singleton _ ['\n', '\n'] _

lemma noteLayers_eq (node : Node) : node.noteLayers = (noteTags node).map RawTag.layer := by
  have hraised : ∀ attributes, (raisedTag attributes).layer
      = ("sup", identifierParts attributes) := by
    intro attributes
    rw [RawTag.layer_eq rfl, identifierParts_eq]
    rfl
  have hlink : ∀ link, (linkTag link).layer = linkLayer link := by
    intro link
    rw [RawTag.layer_eq rfl, linkLayer, identifierParts_eq]
    rfl
  rw [Node.noteLayers, noteTags, List.map_append]
  congr 1
  · split_ifs
    · rfl
    · rw [List.map_singleton, hraised]
  · cases node.noteLink? with
    | none => rfl
    | some link =>
        rw [Option.map_some, Option.map_some, Option.getD_some, Option.getD_some, anchorLayers,
          anchorTags, List.map_cons, hlink]
        split_ifs
        · rw [List.map_singleton, hraised]
          rfl
        · rfl

lemma footnoteReferenceText_hasTags (node : Node) :
    HasTags (noteTags node) (footnoteReferenceText node) := by
  obtain ⟨after, hafter⟩ := RawTag.exists_wrapped (noteTags node) (Text.strip node.noteText)
  exact ⟨[], after, by rw [footnoteReferenceText_eq, noteLayers_eq, hafter, List.nil_append]⟩

/-- The mark of a place starts with its tag. -/
lemma anchorOpening_placeTag (hverbatim : s.verbatim = false) :
    anchorOpening (attributeText (writtenIdentifier .standard s name (attributes.get "id")))
      = (placeTag name attributes).text := by
  have hallowed : MarkdownOptions.standard.elements.allows name = true := rfl
  have hwritten : (placeTag name attributes).written
      = [("id", writtenIdentifier .standard s name (attributes.get "id"))] := by
    rw [writtenIdentifier, hverbatim, hallowed, Bool.not_false, Bool.and_true, Bool.and_true]
    rfl
  have hstart : "<span ".toList = '<' :: ("span".toList ++ [' ']) := by decide +kernel
  rw [RawTag.text, hwritten, anchorOpening_eq, startTagText, hstart]
  simp [fieldText, placeTag]

/-- With its identifier an element has the mark of a place, but for headings and in code. -/
lemma anchoredText_hasTags
    (h : anchoredText .standard s (.element name attributes children) t = .ok out) :
    HasTags (if isNumberedHeading name || s.verbatim then [] else [placeTag name attributes])
      out := by
  cases hstructure : structuralText .standard s (.element name attributes children) t with
  | error e =>
      rw [anchoredText_error hstructure] at h
      cases h
  | ok rendered =>
      obtain ⟨i, htext, -, hfits⟩ := anchoredText_insertion hstructure
      rw [htext] at h
      cases h
      cases i with
      | nothing =>
          rw [Insertion.Fits] at hfits
          split_ifs at hfits with hheading
          · rw [hheading, Bool.true_or, if_pos rfl]
            exact hasTags_nil _
          · rw [hfits, Bool.or_true, if_pos rfl]
            exact hasTags_nil _
      | behind =>
          rw [hfits.1, Bool.true_or, if_pos rfl]
          exact hasTags_nil _
      | mark m =>
          obtain ⟨hheading, hverbatim, -⟩ := hfits
          rw [hheading, hverbatim, Bool.or_false, if_neg Bool.false_ne_true, Insertion.text,
            Marked.text, anchorOpening_placeTag hverbatim, List.append_assoc, List.append_assoc,
            List.append_assoc]
          exact hasTags_singleton _ (m.lead ++ m.before) _

/-- **Attributes of written tags.** What the rules write of an element has the start tags for its
attributes, and from each of them a reader of markup gets what it makes of the values written; it
gets the values of the element just when all of them are literal, and in cells have no line ends. -/
theorem Renderer.write_rawTags (h : Renderer.standard.write s (.element name attributes children) t
      = .ok out) :
    HasTags (rawTags s (.element name attributes children)) out ∧
    ∀ tag ∈ rawTags s (.element name attributes children),
      Token.scan tag.text = [.startTag tag.name
        (tag.written.map fun field => (field.1, readAttribute field.2))] ∧
      (Token.scan tag.text = [.startTag tag.name tag.fields] ↔ tag.IsKept) := by
  refine ⟨?_, fun tag _ => ⟨tag.scan_text, tag.scan_text_iff⟩⟩
  have hnamed : (Node.element name attributes children).named "img" = decide (name = "img") := rfl
  have hembedded : isEmbeddedFrame (.element name attributes children) = isFrame name := rfl
  rw [Renderer.write_standard, hnamed, hembedded] at h
  simp only [decide_eq_true_eq] at h
  rw [rawTags]
  split_ifs at h ⊢ with himage hframe hid hplain hreference hbody
  · exact hasTags_nil out
  · exact Except.ok.inj h ▸ frameText_hasTags name attributes
  · have htags := anchoredText_hasTags h
    rwa [if_pos hplain] at htags
  · have htags := anchoredText_hasTags h
    rwa [if_neg hplain] at htags
  · exact Except.ok.inj h ▸ footnoteReferenceText_hasTags _
  · exact Except.ok.inj h ▸ footnoteBodyText_hasTags attributes t
  · exact hasTags_nil out

/-- A frame that shows something. -/
def frameOf (source : Text) : Node := .element "iframe" [("src", source)] []

lemma rawTags_frameOf (source : Text) :
    rawTags .top (frameOf source) = [frameTag "iframe" [("src", source)]] := rfl

lemma frameTag_fields (source : Text) :
    (frameTag "iframe" [("src", source)]).fields = [("src", source)] := by
  have hshown : frameSource "iframe" [("src", source)] = source := by
    rw [frameSource]
    exact if_neg (by simp)
  exact congrArg (fun value => [("src", value)]) hshown

/-- Quotes in an address are read as they were, but an address with a reference in it is written as
it is and read with the reference replaced. -/
theorem Renderer.write_rawTags_referring :
    Renderer.standard.write .top (frameOf "a?q=\"1\"&b".toList) []
        = .ok "\n\n<iframe src=\"a?q=&quot;1&quot;&b\"></iframe>\n\n".toList ∧
      (∀ tag ∈ rawTags .top (frameOf "a?q=\"1\"&b".toList),
        Token.scan tag.text = [.startTag tag.name tag.fields]) ∧
      Renderer.standard.write .top (frameOf "a?x=1&amp;y=2".toList) []
        = .ok "\n\n<iframe src=\"a?x=1&amp;y=2\"></iframe>\n\n".toList ∧
      ∀ tag ∈ rawTags .top (frameOf "a?x=1&amp;y=2".toList),
        Token.scan tag.text = [.startTag "iframe" [("src", "a?x=1&y=2".toList)]] ∧
        Token.scan tag.text ≠ [.startTag tag.name tag.fields] := by
  have hquoted : Renderer.standard.write .top (frameOf "a?q=\"1\"&b".toList) []
      = .ok "\n\n<iframe src=\"a?q=&quot;1&quot;&b\"></iframe>\n\n".toList := by decide +kernel
  have hreferring : Renderer.standard.write .top (frameOf "a?x=1&amp;y=2".toList) []
      = .ok "\n\n<iframe src=\"a?x=1&amp;y=2\"></iframe>\n\n".toList := by decide +kernel
  have hliteral : IsLiteral "a?q=\"1\"&b".toList := by decide +kernel
  have hreference : ¬IsLiteral "a?x=1&amp;y=2".toList := by decide +kernel
  have hread : readAttribute "a?x=1&amp;y=2".toList = "a?x=1&y=2".toList := by decide +kernel
  refine ⟨hquoted, fun tag htag => ?_, hreferring, fun tag htag => ?_⟩
  · have hkept := ((Renderer.write_rawTags hquoted).2 tag htag).2
    rw [rawTags_frameOf, List.mem_singleton] at htag
    subst htag
    refine hkept.mpr fun field hfield => ⟨?_, fun h => nomatch h⟩
    rw [frameTag_fields, List.mem_singleton] at hfield
    exact hfield ▸ hliteral
  · obtain ⟨hscan, hkept⟩ := (Renderer.write_rawTags hreferring).2 tag htag
    rw [rawTags_frameOf, List.mem_singleton] at htag
    subst htag
    constructor
    · rw [hscan, RawTag.written_eq rfl, frameTag_fields, List.map_singleton, hread]
      rfl
    · intro h
      refine hreference (hkept.mp h ("src", _) ?_).1
      rw [frameTag_fields]
      exact List.mem_singleton_self _

end PageNotes
