import PageNotes.Markdown.Render
import PageNotes.Proofs.Html.Traversal

/-!
The places of a document: its elements, each with its surroundings. What is written at a place goes
outward through the elements that it lies in, one after another, until it comes to the document.

* `Node.places`, `Document.places`: the elements with their surroundings, in document order;
* `Document.joined`: the Markdown of a document before it is tidied;
* `forestPlaces_suffix`: what lies in a forest lies in all that the forest lies in;
* `Node.content`, `Node.structural`: what the children of an element give, and the Markdown of the
  element as if no rule applied to it;
* `Renderer.write_standard`: how an element is written;
* `Node.render_outward`, `Document.joined_outward`: what holds of the Markdown of an element, and is
  handed on by each element that it lies in, holds in the document.
-/

namespace PageNotes

mutual
/-- The elements of a tree with their surroundings, the root first. -/
def Node.places (s : Surroundings) : Node → List (Surroundings × Node)
  | .element name attributes children =>
    (s, .element name attributes children)
      :: forestPlaces (s.enter name attributes children) [] children
  | .text _ _ => []
  | .comment _ => []
  | .doctype _ => []

/-- The elements of a forest with their surroundings, in document order. -/
def forestPlaces (around : Forest → Forest → Surroundings) (before : Forest) :
    Forest → List (Surroundings × Node)
  | [] => []
  | node :: rest => node.places (around before rest) ++ forestPlaces around (node :: before) rest
end

/-- The elements of a document with their surroundings. -/
def Document.places (document : Forest) : List (Surroundings × Node) :=
  forestPlaces (Surroundings.top.enter documentName [] document) [] document

/-- The Markdown of a document before it is tidied. -/
def Document.joined (r : Renderer) (document : Forest) : Except RenderError Text :=
  (forestRender r (Surroundings.top.enter documentName [] document) [] document).map fun parts =>
    Text.trim (· = '\n') (joinParts parts)

/-- What the children of an element give. -/
def Node.content (r : Renderer) (s : Surroundings) (node : Node) : Except RenderError Text :=
  let name := node.name?.getD ""
  (forestRender r (s.enter name node.attributes node.children) [] node.children).map
    (joinChildren s name)

/-- The Markdown of an element as if no rule applied to it, but its children rendered by the
rules. -/
def Node.structural (r : Renderer) (s : Surroundings) (node : Node) : Except RenderError Text :=
  (node.content r s).bind (structuralText r.options s node)

/-- An element with siblings before it that other nodes lie in. -/
def Ancestor.of (s : Surroundings) (name : String) (attributes : Attributes) (children : Forest) :
    Ancestor :=
  ⟨name, attributes, children, s.before⟩

/-- The element that an ancestor is. -/
def Ancestor.node (a : Ancestor) : Node := .element a.name a.attributes a.children

variable {r : Renderer} {s place : Surroundings} {element : Node}

/-! ### Places of a forest -/

lemma forestPlaces_element (around : Forest → Forest → Surroundings) (before : Forest)
    (name : String) (attributes : Attributes) (children rest : Forest) :
    forestPlaces around before (.element name attributes children :: rest)
      = (around before rest, .element name attributes children)
        :: (forestPlaces ((around before rest).enter name attributes children) [] children
          ++ forestPlaces around (.element name attributes children :: before) rest) := by
  rw [forestPlaces, Node.places, List.cons_append]

lemma forestPlaces_leaf {node : Node} (h : node.isElement = false)
    (around : Forest → Forest → Surroundings) (before rest : Forest) :
    forestPlaces around before (node :: rest) = forestPlaces around (node :: before) rest := by
  cases node with
  | element => simp [Node.isElement] at h
  | text | comment | doctype => rfl

lemma Surroundings.enter_ancestors (s : Surroundings) (name : String) (attributes : Attributes)
    (children before after : Forest) :
    (s.enter name attributes children before after).ancestors
      = Ancestor.of s name attributes children :: s.ancestors := rfl

/-- What lies in a forest lies in all that the forest lies in. -/
lemma forestPlaces_suffix {around : Forest → Forest → Surroundings} {ancestors : List Ancestor}
    (haround : ∀ before after, (around before after).ancestors = ancestors) {before forest : Forest}
    (h : (place, element) ∈ forestPlaces around before forest) :
    ancestors <:+ place.ancestors := by
  induction forest using Forest.ind generalizing around ancestors before with
  | nil => cases h
  | element name attributes children rest ihChildren ihRest =>
      rw [forestPlaces_element, List.mem_cons, List.mem_append] at h
      rcases h with heq | hbelow | hrest
      · cases heq
        exact haround before rest ▸ List.suffix_refl _
      · have hsuffix := ihChildren (Surroundings.enter_ancestors _ _ _ _) hbelow
        rw [← haround before rest]
        exact (List.suffix_cons _ _).trans hsuffix
      · exact ihRest haround hrest
  | leaf node rest hleaf ih =>
      rw [forestPlaces_leaf hleaf] at h
      exact ih haround h

/-! ### Rendering an element -/

/-- What the children of an element give is their parts put together. -/
lemma Node.content_element {name : String} {attributes : Attributes} {children : Forest}
    {t : Text} :
    (Node.element name attributes children).content r s = .ok t ↔
      ∃ parts, forestRender r (s.enter name attributes children) [] children = .ok parts ∧
        joinChildren s name parts = t := by
  rw [Node.content]
  dsimp only [Node.name?, Option.getD_some, Node.attributes, Node.children]
  cases forestRender r (s.enter name attributes children) [] children with
  | ok parts => simp [Except.map]
  | error e => simp [Except.map]

/-- An element is rendered when its children are and it is written. -/
lemma Node.render_element {name : String} {attributes : Attributes} {children : Forest} {w : Text} :
    (Node.element name attributes children).render r s = .ok w ↔
      ∃ t, (Node.element name attributes children).content r s = .ok t ∧
        r.write s (.element name attributes children) t = .ok w := by
  rw [Node.render, Node.content]
  dsimp only [Node.name?, Option.getD_some, Node.attributes, Node.children]
  cases forestRender r (s.enter name attributes children) [] children with
  | ok parts => simp [Except.map]
  | error e => simp [Except.map]

/-- An element is written by the first of the rules for notes that applies to it, or else by its
structure. -/
lemma Renderer.write_standard (s : Surroundings) (node : Node) (t : Text) :
    Renderer.standard.write s node t =
      if node.named "img" then .ok (imageText node.attributes)
      else if isEmbeddedFrame node then .ok (frameText (node.name?.getD "") node.attributes)
      else if hasIdentifier node then anchoredText .standard s node t
      else if isFootnoteReference node then .ok (footnoteReferenceText node)
      else if isFootnoteBody node then .ok (footnoteBodyText node.attributes t)
      else structuralText .standard s node t := by
  simp only [Renderer.write, Renderer.standard, firstRule?, RenderRule.standard, List.find?_cons,
    List.find?_nil, RenderRule.image, RenderRule.embeddedFrame, RenderRule.identifier,
    RenderRule.footnoteReference, RenderRule.footnoteBody]
  by_cases himage : node.named "img" = true
  · simp only [himage, if_true]
  by_cases hframe : isEmbeddedFrame node = true
  · simp only [himage, hframe, if_true, if_false, Bool.false_eq_true]
  by_cases hid : hasIdentifier node = true
  · simp only [himage, hframe, hid, if_true, if_false, Bool.false_eq_true]
  by_cases hreference : isFootnoteReference node = true
  · simp only [himage, hframe, hid, hreference, if_true, if_false, Bool.false_eq_true]
  by_cases hbody : isFootnoteBody node = true
  · simp only [himage, hframe, hid, hreference, hbody, if_true, if_false, Bool.false_eq_true]
  · simp only [himage, hframe, hid, hreference, hbody, if_false, Bool.false_eq_true]

/-- The nodes of a forest are rendered one after another, but for those that are ignored. -/
lemma forestRender_cons {around : Forest → Forest → Surroundings} {before rest : Forest}
    {node : Node} {parts : List Text} :
    forestRender r around before (node :: rest) = .ok parts ↔
      if (around before rest).ignores node then
        forestRender r around (node :: before) rest = .ok parts
      else ∃ part others, node.render r (around before rest) = .ok part ∧
        forestRender r around (node :: before) rest = .ok others ∧ parts = part :: others := by
  rw [forestRender]
  split_ifs with hignored
  · rfl
  · cases node.render r (around before rest) with
    | error e => simp
    | ok part =>
        cases forestRender r around (node :: before) rest with
        | error e => simp
        | ok others => simp [eq_comm]

/-- A document is rendered when its nodes are and what they give is joined and tidied. -/
lemma Document.render_eq_ok {document : Forest} {out : Text} :
    Document.render r document = .ok out ↔
      ∃ t, Document.joined r document = .ok t ∧ cleanUp t = out := by
  rw [Document.render, Document.joined]
  cases forestRender r (Surroundings.top.enter documentName [] document) [] document with
  | ok parts => simp [Except.map]
  | error e => simp [Except.map]

/-- What lies at a place is no text. -/
lemma Node.ignores_of_places {node : Node} (h : (place, element) ∈ node.places s)
    (around : Surroundings) : around.ignores node = false := by
  cases node with
  | element => rfl
  | text | comment | doctype => simp [Node.places] at h

/-! ### Outward -/

/-- A property of texts that the Markdown of an element at a place has, and that is handed on by
each element that it lies in. -/
structure HandedOn (r : Renderer) (place : Surroundings) (element : Node) (Q : Text → Prop) :
    Prop where
  own : ∀ t, element.render r place = .ok t → Q t
  step : ∀ s name attributes children parts part t,
    Ancestor.of s name attributes children :: s.ancestors <:+ place.ancestors →
    part ∈ parts → Q part →
    r.write s (.element name attributes children) (joinChildren s name parts) = .ok t → Q t

variable {Q : Text → Prop}

mutual
/-- A property that is handed on comes to the root of the tree. -/
theorem Node.render_outward (hQ : HandedOn r place element Q) (node : Node) (s : Surroundings)
    (t : Text) (h : (place, element) ∈ node.places s) (hrender : node.render r s = .ok t) :
    s.ancestors <:+ place.ancestors ∧ Q t := by
  match node with
  | .element name attributes children =>
      rw [Node.places, List.mem_cons] at h
      rcases h with heq | hbelow
      · cases heq
        exact ⟨List.suffix_refl _, hQ.own t hrender⟩
      · obtain ⟨_, hcontent, hwrite⟩ := Node.render_element.mp hrender
        obtain ⟨parts, hparts, rfl⟩ := Node.content_element.mp hcontent
        obtain ⟨hsuffix, part, hpart, hq⟩ :=
          forestRender_outward hQ children _ [] parts (Ancestor.of s name attributes children
            :: s.ancestors) (fun _ _ => rfl) hbelow hparts
        exact ⟨(List.suffix_cons _ _).trans hsuffix,
          hQ.step s name attributes children parts part t hsuffix hpart hq hwrite⟩
  | .text _ _ => simp [Node.places] at h
  | .comment _ => simp [Node.places] at h
  | .doctype _ => simp [Node.places] at h

/-- A property that is handed on comes to one of the parts of the forest. -/
theorem forestRender_outward (hQ : HandedOn r place element Q) (forest : Forest)
    (around : Forest → Forest → Surroundings) (before : Forest) (parts : List Text)
    (ancestors : List Ancestor)
    (haround : ∀ before after, (around before after).ancestors = ancestors)
    (h : (place, element) ∈ forestPlaces around before forest)
    (hrender : forestRender r around before forest = .ok parts) :
    ancestors <:+ place.ancestors ∧ ∃ part ∈ parts, Q part := by
  match forest with
  | [] => simp [forestPlaces] at h
  | node :: rest =>
      rw [forestPlaces, List.mem_append] at h
      rw [forestRender_cons] at hrender
      rcases h with hnode | hrest
      · rw [Node.ignores_of_places hnode, if_neg Bool.false_ne_true] at hrender
        obtain ⟨part, others, hpart, -, rfl⟩ := hrender
        obtain ⟨hsuffix, hq⟩ := Node.render_outward hQ node _ part hnode hpart
        rw [haround] at hsuffix
        exact ⟨hsuffix, part, List.mem_cons_self, hq⟩
      · split_ifs at hrender with hignored
        · exact forestRender_outward hQ rest around _ parts ancestors haround hrest hrender
        · obtain ⟨first, others, -, hothers, rfl⟩ := hrender
          obtain ⟨hsuffix, part, hpart, hq⟩ :=
            forestRender_outward hQ rest around _ others ancestors haround hrest hothers
          exact ⟨hsuffix, part, List.mem_cons_of_mem _ hpart, hq⟩
end

/-- A property that is handed on comes to one of the parts that a document is put together from. -/
theorem Document.joined_outward {document : Forest} {t : Text} (hQ : HandedOn r place element Q)
    (h : (place, element) ∈ Document.places document)
    (hjoined : Document.joined r document = .ok t) :
    ∃ parts, t = Text.trim (· = '\n') (joinParts parts) ∧ ∃ part ∈ parts, Q part := by
  rw [Document.joined] at hjoined
  rw [Document.places] at h
  cases hparts : forestRender r (Surroundings.top.enter documentName [] document) [] document with
  | error e =>
      rw [hparts] at hjoined
      cases hjoined
  | ok parts =>
      rw [hparts] at hjoined
      cases hjoined
      obtain ⟨-, hpart⟩ := forestRender_outward hQ document
        (Surroundings.top.enter documentName [] document) [] parts
        [Ancestor.of .top documentName [] document] (fun _ _ => rfl) h hparts
      exact ⟨parts, rfl, hpart⟩

theorem Document.render_outward {document : Forest} {out : Text}
    (hQ : HandedOn r place element Q) (h : (place, element) ∈ Document.places document)
    (hrender : Document.render r document = .ok out) :
    ∃ parts, out = cleanUp (Text.trim (· = '\n') (joinParts parts)) ∧ ∃ part ∈ parts, Q part := by
  obtain ⟨t, hjoined, rfl⟩ := Document.render_eq_ok.mp hrender
  obtain ⟨parts, rfl, hpart⟩ := Document.joined_outward hQ h hjoined
  exact ⟨parts, rfl, hpart⟩

end PageNotes
