import PageNotes.Proofs.Markdown.Fences
import PageNotes.Proofs.Markdown.OnLines
import PageNotes.Proofs.Markdown.Places

/-!
Blocks of code in a document. A `pre` element is written as a block between two fences, and the
elements around it keep the block on lines of its own, but for those that set it into a line or mark
or indent its lines. The fences are always three backticks, and the last step of rendering does not
know which fences belong together. So what is read back from the fences of a block may be something
else than the block, which depends on its text and on the lines before it.

* `Node.codeHint`, `Node.codeText`: the language and the code of a block;
* `Node.render_block`: how a `pre` element is written;
* `Ancestor.keepsBlocks`, `Renderer.write_keepsBlocks`: the elements around it;
* `Document.codeBlocks_delimited`: the blocks of a document that are read back from their fences.
-/

namespace PageNotes

/-! ### The block -/

/-- The language of the block of code that a `pre` element stands for, as the page names it. -/
def Node.codeHint (s : Surroundings) (node : Node) : Text :=
  match forestFindCode? ("pre", node.attributes) node.children with
  | some (parent, code) => codeLanguage code.attributes (some parent)
  | none => codeLanguage node.attributes (s.parent?.map fun p => (p.name, p.attributes))

/-- The code of the block that a `pre` element stands for, without line ends around it. -/
def Node.codeText (node : Node) : Text :=
  Text.trim (· = '\n') <|
    match forestFindCode? ("pre", node.attributes) node.children with
    | some (_, code) => code.innerText
    | none => node.innerText

/-- A block of code from fence to fence. -/
def blockMarkdown (language code : Text) : Text :=
  fenceMark ++ (language ++ '\n' :: (code ++ '\n' :: fenceMark))

lemma fenced_blockMarkdown (language code : Text) : Fenced (blockMarkdown language code) := by
  refine ⟨rfl, ?_⟩
  have hend : blockMarkdown language code
      = (fenceMark ++ (language ++ '\n' :: (code ++ ['\n', '`', '`']))) ++ ['`'] := by
    simp [blockMarkdown, fenceMark]
  rw [hend, List.getLast?_concat]

lemma newline_mem_blockMarkdown (language code : Text) : '\n' ∈ blockMarkdown language code := by
  simp [blockMarkdown]

lemma linesOf_blockMarkdown (language code : Text) :
    linesOf (blockMarkdown language code) = blockLines language code := by
  rw [blockMarkdown, ← List.append_assoc, linesOf, Text.split_append_cons, Text.split_append_cons,
    blockLines]
  rfl

lemma codeBlockText_eq (s : Surroundings) (node : Node) :
    codeBlockText s node
      = '\n' :: (onLines (blockMarkdown (node.codeHint s) node.codeText) ++ ['\n']) := by
  have hfenced : ∀ language code : Text, fencedText language code
      = '\n' :: (onLines (blockMarkdown language (Text.trim (· = '\n') code)) ++ ['\n']) := by
    intro language code
    simp [fencedText, onLines, blockMarkdown]
  rw [codeBlockText, Node.codeHint, Node.codeText]
  cases forestFindCode? ("pre", node.attributes) node.children with
  | none => exact hfenced _ _
  | some found => exact hfenced _ _

/-- The block of code that a `pre` element stands for. -/
def Node.codeBlock (s : Surroundings) (node : Node) : Text :=
  blockMarkdown (node.codeHint s) node.codeText

variable {s : Surroundings} {element : Node} {name : String} {attributes : Attributes}
  {children : Forest} {k t w : Text}

/-- A `pre` element that is no footnote is written with its block on lines of its own. -/
lemma Node.render_block (hpre : element.named "pre" = true) (hbody : isFootnoteBody element = false)
    (hw : element.render .standard s = .ok w) : onLines (element.codeBlock s) <:+: w := by
  cases element with
  | text | comment | doctype => cases hpre
  | element name attributes children =>
      obtain rfl : name = "pre" := of_decide_eq_true hpre
      obtain ⟨t, -, hwrite⟩ := Node.render_element.mp hw
      have himage : (Node.element "pre" attributes children).named "img" = false := rfl
      have hframe : isEmbeddedFrame (.element "pre" attributes children) = false := rfl
      have hreference : isFootnoteReference (.element "pre" attributes children) = false := rfl
      have hstructure : structuralText .standard s (.element "pre" attributes children) t
          = .ok (codeBlockText s (.element "pre" attributes children)) := rfl
      have hblock : onLines ((Node.element "pre" attributes children).codeBlock s)
          <:+: codeBlockText s (.element "pre" attributes children) := by
        rw [codeBlockText_eq]
        exact Sturdy.cons _ (List.prefix_append _ _).isInfix
      rw [Renderer.write_standard, himage, hframe, hreference, hbody, if_neg Bool.false_ne_true,
        if_neg Bool.false_ne_true, if_neg Bool.false_ne_true, if_neg Bool.false_ne_true,
        hstructure] at hwrite
      split_ifs at hwrite
      · have hcell : isCell "pre" = false := rfl
        rw [anchoredText_eq, hcell, Bool.false_and, if_neg Bool.false_ne_true, hstructure] at hwrite
        exact Except.ok.inj hwrite ▸ (fenced_blockMarkdown _ _).anchorInto
          (newline_mem_blockMarkdown _ _) (by decide) (by decide) _ hblock
      · exact Except.ok.inj hwrite ▸ hblock

/-! ### The elements around the block -/

/-- Whether an element keeps the blocks of code in it on lines of their own: its form does not break
lines, and if it is a footnote, it has no number, so that no link is put behind its text. -/
def Ancestor.keepsBlocks (a : Ancestor) : Prop :=
  breaksLines a.name = false ∧
    (isFootnoteBody a.node = true → identifierNumber (a.attributes.get "id") = [])

/-- Within such elements nothing is written on one line, in code or in an item. -/
lemma open_of_keepsBlocks (h : ∀ a ∈ s.ancestors, a.keepsBlocks) :
    s.inline = false ∧ s.inside "li" = false ∧ s.inside "pre" = false := by
  rw [Surroundings.inline, Surroundings.inside, Surroundings.inside, List.any_eq_false,
    List.any_eq_false, List.any_eq_false]
  refine ⟨fun a ha => ?_, fun a ha => ?_, fun a ha => ?_⟩
  all_goals
    obtain ⟨⟨-, hcell, -⟩, ⟨hitem, hpre, -⟩, hlevel, -⟩ := kind_of_breaksLines (h a ha).1
    simp [hcell, hlevel, hitem, hpre]

/-- An element that keeps blocks of code on lines of their own is written with them. -/
lemma Renderer.write_keepsBlocks (hk : Fenced k) (hlines : '\n' ∈ k)
    (hkeeps : (Ancestor.of s name attributes children).keepsBlocks)
    (hinline : s.inline = false) (hli : s.inside "li" = false) (h : onLines k <:+: t)
    (hw : Renderer.standard.write s (.element name attributes children) t = .ok w) :
    onLines k <:+: w := by
  obtain ⟨hbreaks, hfootnote⟩ := hkeeps
  replace hbreaks : breaksLines name = false := hbreaks
  obtain ⟨⟨-, hcell, hheading⟩, ⟨hitem, -, himage, hlink, hraised⟩, -, hframe⟩ :=
    kind_of_breaksLines hbreaks
  have hnamed : (Node.element name attributes children).named "img" = false := by
    simpa [Node.named] using himage
  have hembedded : isEmbeddedFrame (.element name attributes children) = false := hframe
  have hreference : isFootnoteReference (.element name attributes children) = false := by
    have hneither : isLinkOrSuperscript (.element name attributes children) = false := by
      simpa [isLinkOrSuperscript, Node.named] using ⟨hlink, hraised⟩
    rw [isFootnoteReference, hneither, Bool.false_and]
  rw [Renderer.write_standard, hnamed, hembedded, hreference, if_neg Bool.false_ne_true,
    if_neg Bool.false_ne_true, if_neg Bool.false_ne_true] at hw
  split_ifs at hw with _ hbody
  · rw [anchoredText_eq, hcell, Bool.false_and, if_neg Bool.false_ne_true] at hw
    cases hrendered : structuralText .standard s (.element name attributes children) t with
    | error e =>
        rw [hrendered] at hw
        cases hw
    | ok rendered =>
        rw [hrendered] at hw
        exact Except.ok.inj hw ▸ hk.anchorInto hlines hheading hitem _
          (hk.structuralText rfl hinline hli hbreaks h hrendered)
  · exact Except.ok.inj hw ▸ hk.footnoteBodyText (hfootnote hbody) h
  · exact hk.structuralText rfl hinline hli hbreaks h hw

/-! ### The document -/

/-- The block of a `pre` element has lines of its own in the Markdown of the document. -/
lemma Document.blockLines_infix {document : Forest} {place : Surroundings}
    (hplace : (place, element) ∈ Document.places document) (hpre : element.named "pre" = true)
    (hbody : isFootnoteBody element = false) (hkeeps : ∀ a ∈ place.ancestors, a.keepsBlocks)
    (hjoined : Document.joined .standard document = .ok t) :
    blockLines (element.codeHint place) element.codeText <:+: linesOf t := by
  have hk : Fenced (element.codeBlock place) := fenced_blockMarkdown _ _
  have hlines : '\n' ∈ element.codeBlock place := newline_mem_blockMarkdown _ _
  have hon : HandedOn .standard place element (onLines (element.codeBlock place) <:+: ·) := by
    constructor
    case own => exact fun w hw => Node.render_block hpre hbody hw
    case step =>
      intro s name attributes children parts part w hsuffix hpart hblock hwrite
      have hkeep := hkeeps _ (hsuffix.subset List.mem_cons_self)
      obtain ⟨hinline, hli, hinside⟩ := open_of_keepsBlocks fun a ha =>
        hkeeps a (hsuffix.subset (List.mem_cons_of_mem _ ha))
      have hother : decide (name = "pre") = false :=
        decide_eq_false (kind_of_breaksLines hkeep.1).2.1.2.1
      refine Renderer.write_keepsBlocks hk hlines hkeep hinline hli ?_ hwrite
      rw [joinChildren, hother, hinside, Bool.or_false, if_neg Bool.false_ne_true]
      exact hk.joinParts hpart hblock
  obtain ⟨parts, rfl, part, hpart, hblock⟩ := Document.joined_outward hon hplace hjoined
  rw [← linesOf_blockMarkdown]
  exact linesOf_infix (hk.trim (by decide) (hk.joinParts hpart hblock))

/-- **Blocks of code**: in a document each `pre` element that is no footnote, and that lies in
elements that keep blocks of code, has the lines of its block in the Markdown before it is tidied.
Wherever they stand there, the block is read back from its fences in the rendered document just when
its language is on one line, no line of the code is a fence itself, and, if an odd number of the
lines before are fences, the code has no blank line that is not empty or follows another. -/
theorem Document.codeBlocks_delimited {document : Forest} {place : Surroundings} {element : Node}
    {out : Text} (hplace : (place, element) ∈ Document.places document)
    (hpre : element.named "pre" = true) (hbody : isFootnoteBody element = false)
    (hkeeps : ∀ a ∈ place.ancestors, a.keepsBlocks)
    (hrender : Document.render .standard document = .ok out) :
    ∃ t, Document.joined .standard document = .ok t ∧ cleanUp t = out ∧
      blockLines (element.codeHint place) element.codeText <:+: linesOf t ∧
      ∀ before after,
        linesOf t = before ++ (blockLines (element.codeHint place) element.codeText ++ after) →
        (Delimited (keptBefore before) (element.codeHint place) element.codeText out ↔
          '\n' ∉ element.codeHint place ∧
            (∀ l ∈ linesOf element.codeText, isFence l = false) ∧
            (Odd (before.countP isFence) → Tidy (linesOf element.codeText))) := by
  obtain ⟨t, hjoined, rfl⟩ := Document.render_eq_ok.mp hrender
  exact ⟨t, hjoined, rfl, Document.blockLines_infix hplace hpre hbody hkeeps hjoined,
    fun before after h => cleanUp_delimited_iff h⟩

/-- A paragraph with code that has two backticks in it, so that its line starts with three. -/
def codeParagraph : Node :=
  .element "p" [] [.element "code" [] [.text .plain "a``b".toList]]

/-- A block of code with two blank lines in it. -/
def spacedBlock : Node := .element "pre" [] [.text .plain "x\n\n\ny".toList]

/-- Where the block stands. -/
def spacedBlockPlace : Surroundings where
  ancestors := [⟨documentName, [], [codeParagraph, spacedBlock], []⟩]
  before := [codeParagraph]
  after := []

/-- The line before the block looks like a fence, so one of the blank lines in the block is lost. -/
theorem Document.codeBlocks_delimited_spaced :
    Document.render .standard [codeParagraph, spacedBlock]
        = .ok "``` a``b ```\n\n```\nx\n\ny\n```".toList ∧
      ¬Delimited ["``` a``b ```".toList, []] [] "x\n\n\ny".toList
        "``` a``b ```\n\n```\nx\n\ny\n```".toList := by
  have hrender : Document.render .standard [codeParagraph, spacedBlock]
      = .ok "``` a``b ```\n\n```\nx\n\ny\n```".toList := by
    decide +kernel
  have hjoined : Document.joined .standard [codeParagraph, spacedBlock]
      = .ok "``` a``b ```\n\n```\nx\n\n\ny\n```".toList := by
    decide +kernel
  have hplace : (spacedBlockPlace, spacedBlock)
      ∈ Document.places [codeParagraph, spacedBlock] := by
    simp [Document.places, forestPlaces, Node.places, codeParagraph, spacedBlock, spacedBlockPlace,
      Surroundings.enter, Surroundings.top]
  have hkeeps : ∀ a ∈ spacedBlockPlace.ancestors, a.keepsBlocks := by
    intro a ha
    rw [List.mem_singleton.mp ha]
    exact ⟨by decide, fun h => absurd h (by decide +kernel)⟩
  obtain ⟨t, ht, -, -, hblock⟩ :=
    Document.codeBlocks_delimited hplace (by decide) (by decide +kernel) hkeeps hrender
  obtain rfl : t = "``` a``b ```\n\n```\nx\n\n\ny\n```".toList :=
    Except.ok.inj (ht.symm.trans hjoined)
  refine ⟨hrender, fun hdelimited => ?_⟩
  have htidy := ((hblock ["``` a``b ```".toList, []] [] (by decide +kernel)).mp hdelimited).2.2
    (by decide +kernel)
  exact absurd htidy.apart (by decide +kernel)

end PageNotes
