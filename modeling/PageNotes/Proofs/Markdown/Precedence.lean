import PageNotes.Markdown.Render
import PageNotes.Proofs.Html.Traversal

/-!
The order of rules. Of a list of rules nothing matters for an element but the first one that applies
to it, so lists with the same first rule for every element of a document render it alike. Rules of
which no two apply to one element may change places.

* `firstWriting?`, `SameFirst`: how the first rule for an element writes it, and lists of rules that
  agree on this;
* `SameFirst.forestRender`: such lists render a forest alike;
* `AreExclusive`, `AreExclusive.firstRule?_perm`: exclusive rules in another order;
* `areExclusive_identified`: identifiers and the two parts of footnotes exclude each other;
* `Document.render_precedence`: what the order of the rules for notes comes down to.
-/

namespace PageNotes

/-! ### First rules -/

/-- How the first rule that applies to an element writes it; none if no rule applies. -/
def firstWriting? (rules : List RenderRule) (node : Node) :
    Option (Surroundings → Node → Text → Except RenderError Text) :=
  (firstRule? rules node).map RenderRule.write

/-- Lists of rules of which the first ones for each element of a forest write alike. -/
def SameFirst (rules others : List RenderRule) (forest : Forest) : Prop :=
  ∀ node ∈ forestElements forest, firstWriting? rules node = firstWriting? others node

variable {o : MarkdownOptions} {rules others : List RenderRule} {node : Node}

lemma sameFirst_element {name : String} {attributes : Attributes} {children rest : Forest} :
    SameFirst rules others (.element name attributes children :: rest) ↔
      firstWriting? rules (.element name attributes children)
        = firstWriting? others (.element name attributes children) ∧
      SameFirst rules others children ∧ SameFirst rules others rest := by
  simp only [SameFirst, forestElements_element, List.forall_mem_cons, List.forall_mem_append]

lemma sameFirst_leaf (h : node.isElement = false) {rest : Forest} :
    SameFirst rules others (node :: rest) ↔ SameFirst rules others rest := by
  rw [SameFirst, SameFirst, forestElements_leaf h]

/-- An element is put into form by its first rule alone. -/
lemma Renderer.write_eq (o : MarkdownOptions) (rules : List RenderRule) (s : Surroundings)
    (node : Node) (t : Text) :
    Renderer.write ⟨o, rules⟩ s node t =
      match firstWriting? rules node with
      | some write => write s node t
      | none => structuralText o s node t := by
  rw [Renderer.write, firstWriting?]
  cases firstRule? rules node with
  | some rule => rfl
  | none => rfl

lemma Renderer.write_congr (h : firstWriting? rules node = firstWriting? others node)
    (s : Surroundings) (t : Text) :
    Renderer.write ⟨o, rules⟩ s node t = Renderer.write ⟨o, others⟩ s node t := by
  rw [write_eq, write_eq, h]

/-! ### Rendering -/

/-- What is no element is rendered without any rule. -/
lemma Node.render_leaf (h : node.isElement = false) (s : Surroundings) :
    node.render ⟨o, rules⟩ s = node.render ⟨o, others⟩ s := by
  cases node with
  | element => simp [Node.isElement] at h
  | text | comment | doctype => rfl

lemma forestRender_congr_cons {r r' : Renderer} {around : Forest → Forest → Surroundings}
    {before rest : Forest}
    (hnode : ∀ s, node.render r s = node.render r' s)
    (hrest : forestRender r around (node :: before) rest
      = forestRender r' around (node :: before) rest) :
    forestRender r around before (node :: rest) = forestRender r' around before (node :: rest) := by
  rw [forestRender, forestRender, hrest, hnode]

/-- Lists with the same first rules render a forest alike. -/
theorem SameFirst.forestRender {forest : Forest} (h : SameFirst rules others forest)
    (around : Forest → Forest → Surroundings) (before : Forest) :
    PageNotes.forestRender ⟨o, rules⟩ around before forest
      = PageNotes.forestRender ⟨o, others⟩ around before forest := by
  induction forest using Forest.ind generalizing around before with
  | nil => rfl
  | element name attributes children rest ihChildren ihRest =>
      obtain ⟨hfirst, hchildren, hrest⟩ := sameFirst_element.mp h
      refine forestRender_congr_cons (fun s => ?_) (ihRest hrest around _)
      rw [Node.render, Node.render, ihChildren hchildren]
      simp only [Renderer.write_congr hfirst]
  | leaf node rest hleaf ih =>
      have hrest := (sameFirst_leaf hleaf).mp h
      exact forestRender_congr_cons (Node.render_leaf hleaf) (ih hrest around _)

/-- Lists with the same first rules render a document alike. -/
lemma SameFirst.render {document : Forest} (h : SameFirst rules others document) :
    Document.render ⟨o, rules⟩ document = Document.render ⟨o, others⟩ document := by
  rw [Document.render, Document.render, h.forestRender]

/-! ### Exclusive rules -/

/-- Rules of which no two apply to a node. -/
def AreExclusive (rules : List RenderRule) (node : Node) : Prop :=
  rules.Pairwise fun rule other => ¬(rule.applies node = true ∧ other.applies node = true)

lemma AreExclusive.perm (h : AreExclusive rules node) (hperm : rules.Perm others) :
    AreExclusive others node :=
  (hperm.pairwise_iff fun hnot hboth => hnot hboth.symm).mp h

/-- Exclusive rules have the same first rule in every order. -/
lemma AreExclusive.firstRule?_perm (h : AreExclusive rules node) (hperm : rules.Perm others) :
    firstRule? rules node = firstRule? others node := by
  rw [firstRule?, firstRule?]
  induction hperm with
  | nil => rfl
  | cons rule _ ih =>
      rw [List.find?_cons, List.find?_cons, ih (List.pairwise_cons.mp h).2]
  | swap rule other rest =>
      have hnot : ¬(other.applies node = true ∧ rule.applies node = true) :=
        (List.pairwise_cons.mp h).1 rule List.mem_cons_self
      rw [List.find?_cons, List.find?_cons, List.find?_cons, List.find?_cons]
      cases hrule : rule.applies node with
      | false => rfl
      | true =>
          cases hother : other.applies node with
          | false => rfl
          | true => exact absurd ⟨hother, hrule⟩ hnot
  | trans hfirst _ ihFirst ihSecond =>
      exact (ihFirst h).trans (ihSecond (AreExclusive.perm h hfirst))

/-- No element is both a picture and a frame. -/
lemma areExclusive_shown (node : Node) : AreExclusive [.image, .embeddedFrame] node := by
  refine List.pairwise_pair.mpr fun ⟨himage, hframe⟩ => ?_
  cases node with
  | element name attributes children =>
      obtain rfl : name = "img" := of_decide_eq_true himage
      have hno : isFrame "img" = false := by decide
      exact absurd (hno.symm.trans hframe) Bool.false_ne_true
  | text | comment | doctype => cases himage

/-- No element has two of these: an identifier of its own, the form of a reference to a footnote and
the form of a footnote. -/
lemma areExclusive_identified (o : MarkdownOptions) (node : Node) :
    AreExclusive [.identifier o, .footnoteReference, .footnoteBody] node := by
  have hidentified : hasIdentifier node = true →
      isFootnoteReference node = false ∧ isFootnoteBody node = false := by
    intro h
    rw [hasIdentifier, Bool.and_eq_true, Bool.not_eq_true', Bool.not_eq_true'] at h
    exact Bool.or_eq_false_iff.mp h.2
  -- a reference is a link or a superscript, which no footnote is
  have hnote : isFootnoteReference node = true → isFootnoteBody node = false := by
    intro h
    rw [isFootnoteReference, Bool.and_eq_true] at h
    rw [isFootnoteBody, h.1, Bool.not_true, Bool.and_false, Bool.false_and]
  have hnotReference : ¬(hasIdentifier node = true ∧ isFootnoteReference node = true) :=
    fun ⟨hid, happlies⟩ => by simp [(hidentified hid).1] at happlies
  have hnotBody : ¬(hasIdentifier node = true ∧ isFootnoteBody node = true) :=
    fun ⟨hid, happlies⟩ => by simp [(hidentified hid).2] at happlies
  have hnotBoth : ¬(isFootnoteReference node = true ∧ isFootnoteBody node = true) :=
    fun ⟨hreference, happlies⟩ => by simp [hnote hreference] at happlies
  refine .cons ?_ (.cons ?_ (List.pairwise_singleton _ _))
  · exact List.forall_mem_cons.mpr ⟨hnotReference, List.forall_mem_singleton.mpr hnotBody⟩
  · exact List.forall_mem_singleton.mpr hnotBoth

/-- With exclusive rules before others that are exclusive among themselves, the order within each of
the two groups does not matter. -/
lemma firstRule?_append_perm {early late early' late' : List RenderRule}
    (hearly : AreExclusive early node) (hlate : AreExclusive late node)
    (hperm : early.Perm early') (hperm' : late.Perm late') :
    firstRule? (early ++ late) node = firstRule? (early' ++ late') node := by
  have hfirst := hearly.firstRule?_perm hperm
  have hsecond := hlate.firstRule?_perm hperm'
  rw [firstRule?, firstRule?] at hfirst hsecond
  rw [firstRule?, firstRule?, List.find?_append, List.find?_append, hfirst, hsecond]

/-! ### The rules for notes -/

/-- **The order of rules** matters through the first rule for each element alone. Of the rules for
identifiers, references to footnotes and footnotes at most one applies to an element, so the rules
for notes may stand in any order that has pictures and frames first. -/
theorem Document.render_precedence (o : MarkdownOptions) (document : Forest) :
    (∀ rules others, SameFirst rules others document →
      Document.render ⟨o, rules⟩ document = Document.render ⟨o, others⟩ document) ∧
    (∀ node, AreExclusive [.identifier o, .footnoteReference, .footnoteBody] node) ∧
    ∀ early late, early.Perm [.image, .embeddedFrame] →
      late.Perm [.identifier o, .footnoteReference, .footnoteBody] →
      Document.render ⟨o, early ++ late⟩ document
        = Document.render ⟨o, RenderRule.standard o⟩ document := by
  refine ⟨fun _ _ h => h.render, areExclusive_identified o, fun early late hearly hlate => ?_⟩
  have hsame : SameFirst (early ++ late) (RenderRule.standard o) document := by
    intro node _
    have hfirst := firstRule?_append_perm ((areExclusive_shown node).perm hearly.symm)
      ((areExclusive_identified o node).perm hlate.symm) hearly hlate
    rw [firstWriting?, firstWriting?, hfirst]
    rfl
  exact hsame.render

/-- A picture with an identifier in a paragraph with one. -/
def identifiedPicture : Node :=
  .element "p" [("id", ['p'])] [.element "img" [("id", ['i']), ("src", ['a'])] []]

/-- A rule for deleted texts changes nothing in a paragraph with a picture, nor do the rules for
notes in another order. -/
theorem Document.render_precedence_picture :
    Document.render ⟨.standard, .enclosing "strike" "del" ['~'] ['~']
        :: RenderRule.standard .standard⟩ [identifiedPicture]
          = .ok "<span id=\"p\">![](a)</span>".toList ∧
      Document.render ⟨.standard, [.embeddedFrame, .image] ++
        [.footnoteBody, .footnoteReference, .identifier .standard]⟩ [identifiedPicture]
          = .ok "<span id=\"p\">![](a)</span>".toList := by
  have hstandard : Document.render ⟨.standard, RenderRule.standard .standard⟩ [identifiedPicture]
      = .ok "<span id=\"p\">![](a)</span>".toList := by
    decide +kernel
  obtain ⟨hfirst, -, horder⟩ := Document.render_precedence .standard [identifiedPicture]
  refine ⟨?_, ?_⟩
  · rw [hfirst _ (RenderRule.standard .standard), hstandard]
    have helements : forestElements [identifiedPicture] = [identifiedPicture,
      .element "img" [("id", ['i']), ("src", ['a'])] []] := rfl
    intro node hnode
    rw [helements] at hnode
    rcases List.mem_cons.mp hnode with rfl | hnode
    · rfl
    · obtain rfl := List.mem_singleton.mp hnode
      rfl
  · have hlate := List.reverse_perm
      [RenderRule.identifier .standard, .footnoteReference, .footnoteBody]
    exact (horder _ _ (.swap _ _ _) hlate).trans hstandard

end PageNotes
