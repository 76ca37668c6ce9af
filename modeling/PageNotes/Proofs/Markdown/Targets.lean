import PageNotes.Proofs.Html.Traversal
import PageNotes.Proofs.Markdown.Anchored
import PageNotes.Proofs.Markdown.Places

/-!
Targets of links survive. An element with an identifier is written with it, and whatever the
elements around it do with its Markdown, they carry the identifier along, as long as they are
written from the Markdown of their children. A reference to a footnote is not: it is made anew from
its text, and of the identifiers below it keeps that of its link alone.

* `Steady`, `Sturdy.enclosed`: the values that an identifier keeps on its way;
* `Renderer.write_target`, `Renderer.write_carries`: the element itself and those around it;
* `Document.targets_survive`: the identifier is in the document.
-/

namespace PageNotes

/-! ### Values -/

/-- Whether a value stays as it is when white space is settled and escapes are undone: it has no
white space but single spaces, and no backslash before an underscore. -/
def Steady (value : Text) : Prop := spaceRuns value = value ∧ unescapeUnderscores value = value

lemma Sturdy.enclosed {opening value closing : Text} (hopening : Sturdy opening)
    (hclosing : Sturdy closing) (hvalue : Steady value) : Sturdy (opening ++ value ++ closing) := by
  have hspaces := hopening.spaces
  have hspaces' := hclosing.spaces
  refine ⟨by simp [hopening.ne_nil], ?_, ?_, ?_, ?_⟩
  · intro c hc
    obtain ⟨d, rest, rfl⟩ := List.exists_cons_of_ne_nil hopening.ne_nil
    exact hopening.head c hc
  · intro c hc
    rw [List.getLast?_append_of_ne_nil _ hclosing.ne_nil] at hc
    exact hclosing.last c hc
  · have hvalue' := hvalue.1
    rw [PageNotes.spaceRuns] at hspaces hspaces' hvalue' ⊢
    rw [Text.replaceRuns_append _ _
        (Or.inr fun c hc => isMarkupSpace_eq_false (hclosing.head_blank c hc)),
      Text.replaceRuns_append _ _
        (Or.inl fun c hc => isMarkupSpace_eq_false (hopening.last c hc).1),
      hspaces, hvalue', hspaces']
  · rw [unescapeUnderscores_append _ _ (Or.inr fun c hc => (hclosing.head c hc).2),
      unescapeUnderscores_append _ _ (Or.inl fun c hc => (hopening.last c hc).2), hopening.escapes,
      hvalue.2, hclosing.escapes]

lemma sturdy_attribute {value : Text} (h : Steady (attributeText value)) :
    Sturdy (attributePart "id" value) := by
  have hopening : Sturdy ['i', 'd', '=', '"'] :=
    .of_ends rfl rfl (by decide) (by decide) (by decide +kernel) (by decide +kernel)
  have hclosing : Sturdy ['"'] :=
    .of_ends rfl rfl (by decide) (by decide) (by decide +kernel) (by decide +kernel)
  have hname : "id".toList = ['i', 'd'] := by decide
  have hpart : attributePart "id" value
      = ['i', 'd', '=', '"'] ++ attributeText value ++ ['"'] := by
    unfold attributePart
    rw [hname]
    rfl
  rw [hpart]
  exact hopening.enclosed hclosing h

lemma sturdy_headingMark {value : Text} (h : Steady (attributeText value)) :
    Sturdy (headingMark value) := by
  have hopening : Sturdy ['{', '#'] :=
    .of_ends rfl rfl (by decide) (by decide) (by decide +kernel) (by decide +kernel)
  have hclosing : Sturdy ['}'] :=
    .of_ends rfl rfl (by decide) (by decide) (by decide +kernel) (by decide +kernel)
  exact hopening.enclosed hclosing h

/-! ### Elements -/

lemma infix_elementText_attribute {part : Text} {parts : List Text} (h : part ∈ parts)
    (name : String) (content : Text) : part <:+: elementText name parts content :=
  Sturdy.cons _ (Sturdy.left _ (Text.infix_join (List.mem_cons_of_mem _ h)))

lemma infix_elementText_content (name : String) (parts : List Text) (content : Text) :
    content <:+: elementText name parts content :=
  Sturdy.cons _ (Sturdy.right _ (Sturdy.cons _ (List.prefix_append _ _).isInfix))

lemma mem_identifierParts {attributes : Attributes} (h : attributes.get "id" ≠ []) :
    attributePart "id" (attributes.get "id") ∈ identifierParts attributes := by
  rw [identifierParts, if_neg (by simpa using h)]
  exact List.mem_singleton_self _

/-- A link of a footnote keeps its identifier. -/
lemma targets_anchorText (link : Node) (h : link.attributes.get "id" ≠ []) :
    Targets (link.attributes.get "id") (anchorText link) :=
  Or.inl (infix_elementText_attribute (List.mem_cons_of_mem _ (mem_identifierParts h)) _ _)

lemma targets_footnoteReferenceText (node : Node) (h : node.attributes.get "id" ≠ []) :
    Targets (node.attributes.get "id") (footnoteReferenceText node) := by
  rw [footnoteReferenceText]
  split_ifs
  · exact targets_anchorText node h
  · exact Or.inl (infix_elementText_attribute (mem_identifierParts h) _ _)

lemma targets_footnoteBodyText {attributes : Attributes} (h : attributes.get "id" ≠ [])
    (t : Text) : Targets (attributes.get "id") (footnoteBodyText attributes t) := by
  have hparts : attributePart "id" (attributes.get "id")
      <:+: Text.join [' '] ("div".toList :: identifierParts attributes) :=
    Text.infix_join (List.mem_cons_of_mem _ (mem_identifierParts h))
  exact Or.inl (Sturdy.cons _ (Sturdy.cons _ (Sturdy.left _ (Sturdy.cons _
    (Sturdy.left _ hparts)))))

/-- What carries sturdy texts along carries identifiers along. -/
lemma Targets.carried {value t w : Text} (hvalue : Steady (attributeText value))
    (h : Targets value t) (hw : ∀ k, Sturdy k → k <:+: t → k <:+: w) : Targets value w :=
  h.imp (hw _ (sturdy_attribute hvalue)) (hw _ (sturdy_headingMark hvalue))

section Element

variable {s : Surroundings} {name : String} {attributes : Attributes} {children : Forest}
  {t w : Text}

/-- An element with an identifier is written with it. -/
lemma Renderer.write_target (hid : attributes.get "id" ≠ [])
    (hsteady : Steady (attributeText (attributes.get "id"))) (himage : name ≠ "img")
    (hframe : isFrame name = false) (hverbatim : s.verbatim = false)
    (hheading : isNumberedHeading name = true → ∀ rendered,
      structuralText .standard s (.element name attributes children) t = .ok rendered →
        rendered.allBlank = false)
    (hw : Renderer.standard.write s (.element name attributes children) t = .ok w) :
    Targets (attributes.get "id") w := by
  have hnamed : (Node.element name attributes children).named "img" = false := by
    simpa [Node.named] using himage
  have hembedded : isEmbeddedFrame (.element name attributes children) = false := hframe
  rw [Renderer.write_standard, hnamed, hembedded, if_neg Bool.false_ne_true,
    if_neg Bool.false_ne_true] at hw
  split_ifs at hw with hidentifier hreference hbody
  · rw [anchoredText_eq] at hw
    split_ifs at hw with hcell
    · -- the identifier is put around the text of a cell before the cell is written
      have hwrapped := targets_wrapCore (attributes.get "id") t
      have hname : name = "td" ∨ name = "th" := by
        simp only [isCell, Bool.and_eq_true, Bool.or_eq_true, decide_eq_true_eq] at hcell
        exact hcell.1
      refine hwrapped.carried hsteady fun k hk hinfix => ?_
      refine hk.structuralText rfl ?_ ?_ hinfix hw
      · rcases hname with rfl | rfl <;> decide
      · rcases hname with rfl | rfl <;> decide
    · cases hrendered : structuralText .standard s (.element name attributes children) t with
      | error e =>
          rw [hrendered] at hw
          cases hw
      | ok rendered =>
          rw [hrendered] at hw
          cases hw
          exact targets_anchorInto s hverbatim name _ rendered fun hnumbered =>
            hheading hnumbered rendered hrendered
  · cases hw
    exact targets_footnoteReferenceText (.element name attributes children) hid
  · cases hw
    exact targets_footnoteBodyText hid t
  · -- an element with an identifier that is no part of a footnote has a rule of its own
    refine absurd ?_ hidentifier
    rw [hasIdentifier, eq_false_of_ne_true hreference, eq_false_of_ne_true hbody]
    simpa [Node.attributes] using hid

/-- An element that is written from the Markdown of its children carries sturdy texts along. -/
lemma Renderer.write_carries {k : Text} (hk : Sturdy k) (hframe : isFrame name = false)
    (hcode : isCode name = false) (hdrops : dropsContent name = false)
    (hreference : isFootnoteReference (.element name attributes children) = false)
    (h : k <:+: t)
    (hw : Renderer.standard.write s (.element name attributes children) t = .ok w) : k <:+: w := by
  have hnamed : (Node.element name attributes children).named "img" = false := by
    refine eq_false_of_ne_true fun himage => ?_
    rw [Node.named, decide_eq_true_eq] at himage
    rw [himage] at hdrops
    exact absurd hdrops (by decide)
  have hembedded : isEmbeddedFrame (.element name attributes children) = false := hframe
  rw [Renderer.write_standard, hnamed, hembedded, hreference, if_neg Bool.false_ne_true,
    if_neg Bool.false_ne_true, if_neg Bool.false_ne_true] at hw
  split_ifs at hw
  · exact hk.anchoredText rfl hcode hdrops h hw
  · cases hw
    exact hk.footnoteBodyText attributes h
  · exact hk.structuralText rfl hcode hdrops h hw

/-- A raised reference to a footnote keeps the identifier of its link. -/
lemma Renderer.write_link (link : Node) (hid : link.attributes.get "id" ≠ [])
    (hname : name = "sup")
    (hreference : isFootnoteReference (.element name attributes children) = true)
    (hlink : fragmentLink? (.element name attributes children) = some link)
    (hw : Renderer.standard.write s (.element name attributes children) t = .ok w) :
    Targets (link.attributes.get "id") w := by
  subst hname
  have hidentifier : hasIdentifier (.element "sup" attributes children) = false := by
    rw [hasIdentifier, hreference, Bool.true_or, Bool.not_true, Bool.and_false]
  have hnamed : (Node.element "sup" attributes children).named "img" = false := rfl
  have hembedded : isEmbeddedFrame (.element "sup" attributes children) = false := rfl
  rw [Renderer.write_standard, hnamed, hembedded, hidentifier, hreference,
    if_neg Bool.false_ne_true, if_neg Bool.false_ne_true, if_neg Bool.false_ne_true,
    if_pos rfl] at hw
  cases hw
  have hraised : (Node.element "sup" attributes children).named "a" = false := rfl
  rw [footnoteReferenceText, hraised, if_neg Bool.false_ne_true, hlink]
  exact (targets_anchorText link hid).mono (infix_elementText_content _ _ _)

end Element

/-! ### References that are links -/

section Blind

variable {σ : Type} (f : σ → String → Attributes → Attributes × σ)

/-- A pass over attributes leaves the texts. -/
lemma forestText_mapAccum (role : TextRole) (state : σ) (forest : Forest) :
    forestText role (forestMapAccum f state forest).1 = forestText role forest := by
  induction forest using Forest.ind generalizing state with
  | nil => rfl
  | element name attributes children rest ihChildren ihRest =>
      simp only [forestMapAccum, Node.mapAccum, Node.forestText, Node.textOf, ihChildren, ihRest]
  | leaf node rest hleaf ih =>
      rw [forestMapAccum_leaf hleaf, Node.forestText, Node.forestText, ih]

/-- A pass over attributes leaves the names of the elements. -/
lemma any_named_mapAccum (name : String) (state : σ) (forest : Forest) :
    (forestElements (forestMapAccum f state forest).1).any (Node.named name)
      = (forestElements forest).any (Node.named name) := by
  induction forest using Forest.ind generalizing state with
  | nil => rfl
  | element other attributes children rest ihChildren ihRest =>
      simp only [forestMapAccum, Node.mapAccum, Node.forestElements, Node.elements,
        List.any_append, List.any_cons, Node.named, ihChildren, ihRest]
  | leaf node rest hleaf ih =>
      rw [forestMapAccum_leaf hleaf, Node.forestElements, Node.forestElements, List.any_append,
        List.any_append, ih]

end Blind

/-- A forest whose elements have lost their identifiers. -/
def withoutIdentifiers (forest : Forest) : Forest :=
  (forestMapAccum (fun _ _ attributes => (attributes.filter (·.1 ≠ "id"), ())) () forest).1

section WithoutIdentifiers

variable (attributes : Attributes) (children : Forest)

lemma innerText_withoutIdentifiers :
    (Node.element "a" attributes (withoutIdentifiers children)).innerText
      = (Node.element "a" attributes children).innerText :=
  forestText_mapAccum _ _ _ _

lemma anchorText_withoutIdentifiers :
    anchorText (.element "a" attributes (withoutIdentifiers children))
      = anchorText (.element "a" attributes children) := by
  have hraised : (Node.element "a" attributes (withoutIdentifiers children)).descendants.any
      (Node.named "sup") = (Node.element "a" attributes children).descendants.any
        (Node.named "sup") := any_named_mapAccum _ _ _ _
  rw [anchorText, anchorText, innerText_withoutIdentifiers, hraised]
  rfl

lemma isFootnoteReference_withoutIdentifiers :
    isFootnoteReference (.element "a" attributes (withoutIdentifiers children))
      = isFootnoteReference (.element "a" attributes children) := by
  have hlink : ∀ below, (fragmentLink? (.element "a" attributes below)).isSome
      = isFragmentReference (attributes.get "href") := by
    intro below
    have hself : fragmentLink? (.element "a" attributes below)
        = if isFragmentReference (attributes.get "href") then some (.element "a" attributes below)
          else none := rfl
    rw [hself]
    split_ifs with h
    · exact h.symm
    · exact (eq_false_of_ne_true h).symm
  rw [isFootnoteReference, isFootnoteReference, innerText_withoutIdentifiers, hlink, hlink]
  rfl

end WithoutIdentifiers

/-- A reference to a footnote that is a link is written without regard to the identifiers below
it. -/
theorem Renderer.write_reference {attributes : Attributes} {children : Forest}
    (h : isFootnoteReference (.element "a" attributes children) = true) (s : Surroundings)
    (t u : Text) :
    Renderer.standard.write s (.element "a" attributes (withoutIdentifiers children)) t
      = Renderer.standard.write s (.element "a" attributes children) u := by
  have hbelow := (isFootnoteReference_withoutIdentifiers attributes children).trans h
  have hidentifier : ∀ below, isFootnoteReference (.element "a" attributes below) = true →
      hasIdentifier (.element "a" attributes below) = false := by
    intro below hreference
    rw [hasIdentifier, hreference, Bool.true_or, Bool.not_true, Bool.and_false]
  have hway : ∀ below t, isFootnoteReference (.element "a" attributes below) = true →
      Renderer.standard.write s (.element "a" attributes below) t
        = .ok (anchorText (.element "a" attributes below)) := by
    intro below t hreference
    rw [Renderer.write_standard, hidentifier below hreference, hreference]
    rfl
  rw [hway _ t hbelow, hway _ u h, anchorText_withoutIdentifiers]

/-! ### The document -/

/-- Whether an element at a place goes through an ancestor: this is written from the Markdown of its
children, or it is a raised reference to a footnote and the element is its link. -/
def Ancestor.passes (a : Ancestor) (element : Node) : Prop :=
  isFrame a.name = false ∧ isCode a.name = false ∧ dropsContent a.name = false ∧
    (isFootnoteReference a.node = true → a.name = "sup" ∧ fragmentLink? a.node = some element)

lemma joinChildren_carries {k : Text} (hk : Sturdy k) {part : Text} {parts : List Text}
    (hmem : part ∈ parts) (h : k <:+: part) (s : Surroundings) (name : String) :
    k <:+: joinChildren s name parts := by
  rw [joinChildren]
  split_ifs
  · exact h.trans (List.infix_of_mem_flatten hmem)
  · exact hk.joinParts hmem h

lemma verbatim_of_passes {s : Surroundings} {element : Node}
    (h : ∀ a ∈ s.ancestors, a.passes element) : s.verbatim = false := by
  rw [Surroundings.verbatim, List.any_eq_false]
  intro a ha
  rw [(h a ha).2.1]
  exact Bool.false_ne_true

/-- **Targets survive**: an element with an identifier, but for pictures, frames and headings whose
text is blank, leaves its identifier in the document, if the identifier is steady and each element
that it lies in lets it pass. -/
theorem Document.targets_survive {document : Forest} {place : Surroundings} {name : String}
    {attributes : Attributes} {children : Forest} {out : Text}
    (hplace : (place, .element name attributes children) ∈ Document.places document)
    (hid : attributes.get "id" ≠ []) (hsteady : Steady (attributeText (attributes.get "id")))
    (himage : name ≠ "img") (hframe : isFrame name = false)
    (hheading : isNumberedHeading name = true → ∀ rendered,
      (Node.element name attributes children).structural .standard place = .ok rendered →
        rendered.allBlank = false)
    (hpasses : ∀ a ∈ place.ancestors, a.passes (.element name attributes children))
    (hrender : Document.render .standard document = .ok out) :
    Targets (attributes.get "id") out := by
  have hon : HandedOn .standard place (.element name attributes children)
      (Targets (attributes.get "id")) := by
    constructor
    case own =>
      intro t ht
      obtain ⟨content, hcontent, hwrite⟩ := Node.render_element.mp ht
      refine Renderer.write_target hid hsteady himage hframe (verbatim_of_passes hpasses) ?_ hwrite
      intro hnumbered rendered hrendered
      refine hheading hnumbered rendered ?_
      rw [Node.structural, hcontent]
      exact hrendered
    case step =>
      intro s name' attributes' children' parts part t hsuffix hpart htargets hwrite
      have hpass := hpasses _ (hsuffix.subset List.mem_cons_self)
      obtain ⟨hnoframe, hnocode, hkeeps, hreferences⟩ := hpass
      cases hreference : isFootnoteReference (.element name' attributes' children') with
      | true =>
          obtain ⟨hraised, hlink⟩ := hreferences hreference
          exact Renderer.write_link (.element name attributes children) hid hraised hreference hlink
            hwrite
      | false =>
          exact htargets.carried hsteady fun k hk hinfix =>
            Renderer.write_carries hk hnoframe hnocode hkeeps hreference
              (joinChildren_carries hk hpart hinfix s name') hwrite
  obtain ⟨parts, rfl, part, hpart, htargets⟩ := Document.render_outward hon hplace hrender
  exact htargets.carried hsteady fun k hk hinfix =>
    hk.cleanUp (hk.trimNewlines (hk.joinParts hpart hinfix))

/-- The link of a reference to a footnote. -/
def noteLink : Node :=
  .element "a" [("id", "r1".toList), ("href", "#n1".toList)] [.text .plain ['1']]

/-- The link, raised. -/
def raisedLink : Node := .element "sup" [("class", "noteref".toList)] [noteLink]

/-- A list whose item refers to a footnote. -/
def noteItem : Node := .element "li" [] [.text .plain ['x'], raisedLink]

/-- Where the link stands. -/
def noteLinkPlace : Surroundings where
  ancestors := [⟨"sup", [("class", "noteref".toList)], [noteLink], [.text .plain ['x']]⟩,
    ⟨"li", [], [.text .plain ['x'], raisedLink], []⟩, ⟨"ul", [], [noteItem], []⟩,
    ⟨documentName, [], [.element "ul" [] [noteItem]], []⟩]
  before := []
  after := []

/-- The link of the reference keeps its identifier. -/
theorem Document.targets_survive_raised :
    Document.render .standard [.element "ul" [] [noteItem]]
        = .ok "- x<sup><a href=\"#n1\" id=\"r1\">1</a></sup>".toList ∧
      Targets "r1".toList "- x<sup><a href=\"#n1\" id=\"r1\">1</a></sup>".toList := by
  have hrender : Document.render .standard [.element "ul" [] [noteItem]]
      = .ok "- x<sup><a href=\"#n1\" id=\"r1\">1</a></sup>".toList := by
    decide +kernel
  have hplace : (noteLinkPlace, noteLink) ∈ Document.places [.element "ul" [] [noteItem]] := by
    simp [Document.places, noteItem, raisedLink, forestPlaces, Node.places, noteLinkPlace, noteLink,
      Surroundings.enter, Surroundings.top]
  refine ⟨hrender, Document.targets_survive hplace ?id ?steady ?image ?frame ?heading ?passes
    hrender⟩
  case id => decide
  case steady => exact ⟨by decide +kernel, by decide +kernel⟩
  case image => decide
  case frame => decide
  case heading => exact fun hnumbered => absurd hnumbered (by decide)
  case passes =>
    intro a ha
    simp only [noteLinkPlace, List.mem_cons, List.not_mem_nil, or_false] at ha
    rcases ha with rfl | rfl | rfl | rfl
    · exact ⟨by decide, by decide, by decide +kernel, fun _ => ⟨rfl, rfl⟩⟩
    · exact ⟨by decide, by decide, by decide +kernel, fun h => absurd h (by decide +kernel)⟩
    · exact ⟨by decide, by decide, by decide +kernel, fun h => absurd h (by decide +kernel)⟩
    · exact ⟨by decide, by decide, by decide +kernel, fun h => absurd h (by decide +kernel)⟩

end PageNotes
