import PageNotes.Proofs.Html.Beside
import PageNotes.Proofs.Markdown.CodeBlocks

/-!
The text of a block of code. The first `code` element in a `pre` element is looked up for its
language, and its text is written for that of the whole block, so all text beside it is lost.

* `forestFindCode?_snd`: the element that is looked up;
* `Node.codeText_eq`: the text that is written, and `Node.textBesideCode`: the text that is lost;
* `Node.codeText_whole_iff`: when the block has the whole text.
-/

namespace PageNotes

/-- The element that is looked up is the first `code` element in document order. -/
lemma forestFindCode?_snd (parent : String × Attributes) (forest : Forest) :
    (forestFindCode? parent forest).map Prod.snd
      = (forestElements forest).find? (Node.named "code") := by
  induction forest using Forest.ind generalizing parent with
  | nil => rfl
  | element name attributes children rest ihChildren ihRest =>
      rw [forestElements_element, List.find?_cons, List.find?_append, forestFindCode?,
        Node.findCode?, Option.map_or, ihRest, ← ihChildren (name, attributes), Node.named]
      by_cases hname : name = "code"
      · rw [if_pos hname, decide_eq_true hname]
        rfl
      · rw [if_neg hname, decide_eq_false hname]
  | leaf node rest hleaf ih =>
      rw [forestElements_leaf hleaf, ← ih parent]
      cases node with
      | element => simp [Node.isElement] at hleaf
      | text | comment | doctype => rfl

/-- The text of a `pre` element that lies beside its first `code` element. -/
def Node.textBesideCode (node : Node) : Text :=
  textBeside .plain (Node.named "code") node.children

variable (attributes : Attributes) (children : Forest)

/-- The code of a block is the text of the first `code` element, or else the whole text, without the
line ends around it. -/
lemma Node.codeText_eq : (Node.element "pre" attributes children).codeText
    = Text.trim (· = '\n') (firstText .plain (Node.named "code") children) := by
  have hfind := forestFindCode?_snd ("pre", attributes) children
  rw [Node.codeText, firstText, ← hfind]
  dsimp only [Node.attributes, Node.children]
  cases hcode : forestFindCode? ("pre", attributes) children with
  | none => rfl
  | some found =>
      rw [hcode] at hfind
      have hnamed := List.find?_some hfind.symm
      exact congrArg (Text.trim (· = '\n')) (textOf_plain rfl hnamed).symm

/-- **The text of a block of code.** A `pre` element is written between fences with a stretch of its
text, without the line ends around this. What lies on the two sides of the stretch is the text
beside the first `code` element, and it is the whole text of the `pre` element that is written, but
for line ends at its ends, just when there are only line ends beside it. -/
theorem Node.codeText_whole_iff (s : Surroundings) (t : Text) :
    structuralText .standard s (.element "pre" attributes children) t
      = .ok ('\n' :: '\n' :: (fenceMark ++ (Node.element "pre" attributes children).codeHint s ++
          '\n' :: ((Node.element "pre" attributes children).codeText ++
            '\n' :: (fenceMark ++ ['\n', '\n'])))) ∧
    (∃ before stretch after,
      (Node.element "pre" attributes children).innerText = before ++ (stretch ++ after) ∧
      (Node.element "pre" attributes children).textBesideCode = before ++ after ∧
      (Node.element "pre" attributes children).codeText = Text.trim (· = '\n') stretch) ∧
    ((Node.element "pre" attributes children).codeText
        = Text.trim (· = '\n') (Node.element "pre" attributes children).innerText ↔
      ∀ c ∈ (Node.element "pre" attributes children).textBesideCode, c = '\n') := by
  have hwritten : structuralText .standard s (.element "pre" attributes children) t
      = .ok (codeBlockText s (.element "pre" attributes children)) := rfl
  have hplain : (Node.element "pre" attributes children).innerText = forestText .plain children := rfl
  obtain ⟨before, after, hbeside, htext⟩ := exists_around .plain (Node.named "code") children
  refine ⟨?_, ⟨before, _, after, htext, hbeside, Node.codeText_eq attributes children⟩, ?_⟩
  · rw [hwritten, codeBlockText_eq]
    simp [onLines, blockMarkdown]
  · rw [Node.codeText_eq, hplain, trim_firstText_iff]
    simp [Node.textBesideCode, Node.children]

end PageNotes
