import PageNotes.Note.Conversion
import PageNotes.Proofs.Html.Traversal

/-!
Conversions stage by stage. What a page states about itself goes to the front matter alone; the
body, the assets and the warnings come from its content, from which some elements are removed with
all that lies below them.

* `Converter.published`: what becomes of the content of a page;
* `Converter.convert_eq`: a conversion is what the page states about itself and what becomes of its
  content;
* `forestAlikeOutside`: documents that differ at most below removed elements;
* `Converter.convert_alike`: such documents have the same body, assets and warnings.
-/

namespace PageNotes

/-! ### Stages -/

/-- What becomes of the content of a page: its body, its assets and its warnings. -/
def Converter.published (c : Converter) (source : Path) (content : Forest) :
    Except ConversionError (Text × List Asset × List Warning) :=
  let rewriting := Rewriting.of (c.rewriting source) content
  match rewriting.search.failure with
  | some e => .error (.disk e)
  | none =>
    match Document.render .standard rewriting.document with
    | .error e => .error (.render e)
    | .ok body => .ok (body, rewriting.search.assets, rewriting.search.warnings)

/-- The body, the assets and the warnings of a conversion. -/
def Conversion.published (c : Conversion) : Text × List Asset × List Warning :=
  (c.note.body, c.assets, c.warnings)

/-- A conversion is what the page states about itself and what becomes of its content. -/
theorem Converter.convert_eq (c : Converter) (source : Path) (html : Text) :
    c.convert source html =
      match Metadata.extract c.config.metadata c.now (Document.parse html) with
      | .error e => .error (.noTimestamp e)
      | .ok metadata =>
        let content := Content.sanitize c.config.content (Document.parse html)
        (c.published source content.document).map fun (body, assets, warnings) =>
          ⟨source, Note.build metadata content.tags body, assets, warnings⟩ := by
  rw [convert, run]
  dsimp only
  cases Metadata.extract c.config.metadata c.now (Document.parse html) with
  | error e => rfl
  | ok metadata =>
      rw [published]
      dsimp only
      generalize Rewriting.of (c.rewriting source)
        (Content.sanitize c.config.content (Document.parse html)).document = rewriting
      cases rewriting.search.failure with
      | some e => rfl
      | none =>
          cases Document.render .standard rewriting.document with
          | error e => rfl
          | ok body => rfl

/-- A page that is converted has metadata, and its note is built from them and from its content. -/
lemma Converter.convert_ok {c : Converter} {source : Path} {html : Text} {conversion : Conversion}
    (h : c.convert source html = .ok conversion) :
    ∃ metadata, Metadata.extract c.config.metadata c.now (Document.parse html) = .ok metadata ∧
      conversion.note = Note.build metadata
        (Content.sanitize c.config.content (Document.parse html)).tags conversion.note.body ∧
      c.published source (Content.sanitize c.config.content (Document.parse html)).document
        = .ok conversion.published := by
  rw [convert_eq] at h
  cases hmetadata : Metadata.extract c.config.metadata c.now (Document.parse html) with
  | error e =>
      rw [hmetadata] at h
      cases h
  | ok metadata =>
      rw [hmetadata] at h
      dsimp only at h
      cases hpublished : c.published source
          (Content.sanitize c.config.content (Document.parse html)).document with
      | error e =>
          rw [hpublished] at h
          cases h
      | ok published =>
          rw [hpublished] at h
          cases h
          exact ⟨metadata, rfl, rfl, rfl⟩

/-- The body, the assets and the warnings come from the content alone, once there are metadata. -/
lemma Converter.map_published_convert (c : Converter) (source : Path) (html : Text) :
    (c.convert source html).map Conversion.published =
      match Metadata.extract c.config.metadata c.now (Document.parse html) with
      | .error e => .error (.noTimestamp e)
      | .ok _ => c.published source
          (Content.sanitize c.config.content (Document.parse html)).document := by
  rw [convert_eq]
  cases Metadata.extract c.config.metadata c.now (Document.parse html) with
  | error e => rfl
  | ok metadata =>
      dsimp only
      cases c.published source
          (Content.sanitize c.config.content (Document.parse html)).document with
      | error e => rfl
      | ok published => rfl

/-- Metadata are missing only by a clock whose moment has no date. -/
lemma Metadata.extract_ok {now : Moment} (h : now.timestamp? ≠ none) (settings : MetadataSettings)
    (document : Forest) : ∃ metadata, Metadata.extract settings now document = .ok metadata := by
  obtain ⟨stamp, hstamp⟩ := Option.ne_none_iff_exists'.mp h
  rw [extract, fillMoments, hstamp]
  split_ifs
  · exact ⟨_, rfl⟩
  · exact ⟨_, rfl⟩

/-! ### Removed elements -/

/-- Whether an element is removed from the content of a page: it holds nothing to read, or it marks
a tag. -/
def isRemoved (node : Node) : Bool := isNonContent node || isMarker node

mutual
/-- Whether two trees differ at most below removed elements. -/
def Node.alikeOutside : Node → Node → Bool
  | .element name₁ attributes₁ children₁, .element name₂ attributes₂ children₂ =>
    name₁ = name₂ && attributes₁ = attributes₂ &&
      (isRemoved (.element name₁ attributes₁ children₁)
        || forestAlikeOutside children₁ children₂)
  | .text role₁ content₁, .text role₂ content₂ => role₁ = role₂ && content₁ = content₂
  | .comment content₁, .comment content₂ => content₁ = content₂
  | .doctype content₁, .doctype content₂ => content₁ = content₂
  | _, _ => false

/-- Whether two forests differ at most below removed elements. -/
def forestAlikeOutside : Forest → Forest → Bool
  | [], [] => true
  | node₁ :: rest₁, node₂ :: rest₂ =>
    node₁.alikeOutside node₂ && forestAlikeOutside rest₁ rest₂
  | _, _ => false
end

lemma forestPrune_element (rejected : Node → Bool) (name : String) (attributes : Attributes)
    (children rest : Forest) :
    forestPrune rejected (.element name attributes children :: rest) =
      if rejected (.element name attributes children) then forestPrune rejected rest
      else .element name attributes (forestPrune rejected children)
        :: forestPrune rejected rest := by
  rw [forestPrune, Node.prune]

/-- What lies below an element does not decide whether it is removed. -/
lemma isRemoved_children (name : String) (attributes : Attributes) (children₁ children₂ : Forest) :
    isRemoved (.element name attributes children₁)
      = isRemoved (.element name attributes children₂) := rfl

/-- The content of a page that starts with a removed element. -/
lemma withoutMarkers_readable_removed {name : String} {attributes : Attributes}
    {children : Forest} (h : isRemoved (.element name attributes children) = true) (rest : Forest) :
    withoutMarkers (readable (.element name attributes children :: rest))
      = withoutMarkers (readable rest) := by
  rw [readable, forestPrune_element]
  split_ifs with hempty
  · rfl
  · have hmarker : isMarker (.element name attributes (forestPrune isNonContent children)) = true :=
      (Bool.or_eq_true_iff.mp h).resolve_left hempty
    rw [withoutMarkers, forestPrune_element, if_pos hmarker]
    rfl

/-- The content of a page that starts with another element. -/
lemma withoutMarkers_readable_kept {name : String} {attributes : Attributes}
    {children : Forest} (h : isRemoved (.element name attributes children) = false)
    (rest : Forest) :
    withoutMarkers (readable (.element name attributes children :: rest))
      = .element name attributes (withoutMarkers (readable children))
        :: withoutMarkers (readable rest) := by
  obtain ⟨hcontent, hmarker⟩ := Bool.or_eq_false_iff.mp h
  have hmarker' : isMarker (.element name attributes (forestPrune isNonContent children)) = false :=
    hmarker
  rw [readable, forestPrune_element, if_neg (Bool.eq_false_iff.mp hcontent), withoutMarkers,
    forestPrune_element, if_neg (Bool.eq_false_iff.mp hmarker')]
  rfl

/-- The content of a page that starts with a node other than an element. -/
lemma withoutMarkers_readable_leaf {node : Node} (h : node.isElement = false) (rest : Forest) :
    withoutMarkers (readable (node :: rest)) = node :: withoutMarkers (readable rest) := by
  cases node with
  | element => simp [Node.isElement] at h
  | text | comment | doctype => rfl

/-- A node that is no element is like itself alone. -/
lemma Node.alikeOutside_leaf {node₁ node₂ : Node} (hleaf : node₁.isElement = false)
    (h : node₁.alikeOutside node₂ = true) : node₂ = node₁ := by
  cases node₁ with
  | element => simp [isElement] at hleaf
  | text | comment | doctype =>
      cases node₂ <;> simp_all [alikeOutside]

/-- Pages that differ at most below removed elements have the same content. -/
theorem withoutMarkers_readable_congr {document₁ document₂ : Forest}
    (h : forestAlikeOutside document₁ document₂ = true) :
    withoutMarkers (readable document₁) = withoutMarkers (readable document₂) := by
  induction document₁ using Forest.ind generalizing document₂ with
  | nil =>
      cases document₂ with
      | nil => rfl
      | cons => simp [forestAlikeOutside] at h
  | element name attributes children rest ihChildren ihRest =>
      cases document₂ with
      | nil => simp [forestAlikeOutside] at h
      | cons node₂ rest₂ =>
          rw [forestAlikeOutside, Bool.and_eq_true] at h
          obtain ⟨hnode, hrest⟩ := h
          cases node₂ with
          | text | comment | doctype => simp [Node.alikeOutside] at hnode
          | element name₂ attributes₂ children₂ =>
              simp only [Node.alikeOutside, Bool.and_eq_true, decide_eq_true_eq] at hnode
              obtain ⟨⟨rfl, rfl⟩, hbelow⟩ := hnode
              -- the first nodes have the same tag, so they are removed both or neither
              have hsame := isRemoved_children name attributes children₂ children
              cases hremoved : isRemoved (.element name attributes children) with
              | true =>
                  rw [withoutMarkers_readable_removed hremoved,
                    withoutMarkers_readable_removed (hsame.trans hremoved), ihRest hrest]
              | false =>
                  rw [hremoved, Bool.false_or] at hbelow
                  rw [withoutMarkers_readable_kept hremoved,
                    withoutMarkers_readable_kept (hsame.trans hremoved), ihChildren hbelow,
                    ihRest hrest]
  | leaf node rest hleaf ih =>
      cases document₂ with
      | nil => simp [forestAlikeOutside] at h
      | cons node₂ rest₂ =>
          rw [forestAlikeOutside, Bool.and_eq_true] at h
          obtain rfl := Node.alikeOutside_leaf hleaf h.1
          rw [withoutMarkers_readable_leaf hleaf, withoutMarkers_readable_leaf hleaf, ih h.2]

/-- What lies below removed elements has no influence on the content of a page. -/
lemma Content.sanitize_congr {document₁ document₂ : Forest}
    (h : forestAlikeOutside document₁ document₂ = true) (settings : ContentSettings) :
    (Content.sanitize settings document₁).document
      = (Content.sanitize settings document₂).document := by
  rw [sanitize, sanitize]
  dsimp only
  rw [withoutMarkers_readable_congr h]

/-- **Removed content never influences the body**: two pages that differ at most below elements that
hold nothing to read or mark tags have the same body, assets and warnings when both are converted;
and when the present moment has a date, they are converted alike or fail alike. -/
theorem Converter.convert_alike (c : Converter) (source : Path) (html₁ html₂ : Text)
    (h : forestAlikeOutside (Document.parse html₁) (Document.parse html₂) = true) :
    (∀ conversion₁ conversion₂, c.convert source html₁ = .ok conversion₁ →
      c.convert source html₂ = .ok conversion₂ →
        conversion₁.note.body = conversion₂.note.body ∧
          conversion₁.assets = conversion₂.assets ∧
            conversion₁.warnings = conversion₂.warnings) ∧
    (c.now.timestamp? ≠ none →
      (c.convert source html₁).map Conversion.published
        = (c.convert source html₂).map Conversion.published) := by
  have hcontent := Content.sanitize_congr h c.config.content
  constructor
  · intro conversion₁ conversion₂ h₁ h₂
    obtain ⟨-, -, -, hpublished₁⟩ := convert_ok h₁
    obtain ⟨-, -, -, hpublished₂⟩ := convert_ok h₂
    rw [hcontent, hpublished₂] at hpublished₁
    have hsame := Except.ok.inj hpublished₁
    simp only [Conversion.published, Prod.mk.injEq] at hsame
    exact ⟨hsame.1.symm, hsame.2.1.symm, hsame.2.2.symm⟩
  · intro hnow
    obtain ⟨metadata₁, hmetadata₁⟩ :=
      Metadata.extract_ok hnow c.config.metadata (Document.parse html₁)
    obtain ⟨metadata₂, hmetadata₂⟩ :=
      Metadata.extract_ok hnow c.config.metadata (Document.parse html₂)
    rw [map_published_convert, map_published_convert, hmetadata₁, hmetadata₂]
    exact congrArg (c.published source) hcontent

/-- A page with a picture and its caption, a script and a marker. -/
def markedPage : Text :=
  ("<script>one</script><p>x<img src=\"a.png\"> <i>sea</i><b class=\"hashtag\">#one</b>" ++
    "<img src=\"b.png\"></p>").toList

/-- The page with another script and another marker, in which there is a picture. -/
def remarkedPage : Text :=
  ("<script>two</script><p>x<img src=\"a.png\"> <i>sea</i>" ++
    "<b class=\"hashtag\">#two<img src=\"c.png\"></b><img src=\"b.png\"></p>").toList

/-- A converter that knows one picture and takes captions as alternative texts. -/
def captionConverter : Converter where
  config := { italicsToAlt := true }
  working := .ofText "/".toList
  store path := .ok (path.name = "a.png".toList)
  now := ⟨⟨2024, 5, 6⟩, 7, 8, 9, 0, some 0⟩

set_option maxRecDepth 100000 in
/-- The picture in the marker is not published, and no warning says that it is missing. -/
theorem Converter.convert_alike_marked :
    forestAlikeOutside (Document.parse markedPage) (Document.parse remarkedPage) = true ∧
    captionConverter.now.timestamp? ≠ none ∧
    (captionConverter.convert (.ofText "p.html".toList) markedPage).map Conversion.published
      = .ok ("x![sea](a.png)![](b.png)".toList,
          [⟨"a.png".toList, .ofText "/a.png".toList, "a.png".toList⟩],
          [missingWarning (.ofText "/b.png".toList)]) ∧
    (captionConverter.convert (.ofText "p.html".toList) remarkedPage).map Conversion.published
      = .ok ("x![sea](a.png)![](b.png)".toList,
          [⟨"a.png".toList, .ofText "/a.png".toList, "a.png".toList⟩],
          [missingWarning (.ofText "/b.png".toList)]) := by
  have halike : forestAlikeOutside (Document.parse markedPage) (Document.parse remarkedPage)
      = true := by decide +kernel
  have hnow : captionConverter.now.timestamp? ≠ none := by decide +kernel
  have hmarked :
      (captionConverter.convert (.ofText "p.html".toList) markedPage).map Conversion.published
        = .ok ("x![sea](a.png)![](b.png)".toList,
            [⟨"a.png".toList, .ofText "/a.png".toList, "a.png".toList⟩],
            [missingWarning (.ofText "/b.png".toList)]) := by
    decide +kernel
  have hsame := (convert_alike captionConverter (.ofText "p.html".toList) markedPage remarkedPage
    halike).2 hnow
  exact ⟨halike, hnow, hmarked, hsame ▸ hmarked⟩

end PageNotes
