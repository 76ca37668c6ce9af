import PageNotes.Proofs.Html.Traversal
import PageNotes.Proofs.Text.Trim

/-!
The text beside an element. Of the elements of a class below some element, the first one in document
order is often read by itself, and then the text on its two sides is left aside.

* `forestTextBeside?_eq_some`: around the text of the element it is the whole text;
* `firstText`, `textBeside`: what is read and what is left aside;
* `trim_firstText_iff`: when nothing but characters that are trimmed is left aside.
-/

namespace PageNotes

mutual
/-- The texts of one role in a tree on the two sides of its first element of a class. -/
def Node.textBeside? (role : TextRole) (p : Node → Bool) : Node → Option Text
  | .element name attributes children =>
    if p (.element name attributes children) then some [] else forestTextBeside? role p children
  | .text _ _ => none
  | .comment _ => none
  | .doctype _ => none

/-- The texts of one role in a forest on the two sides of its first element of a class. -/
def forestTextBeside? (role : TextRole) (p : Node → Bool) : Forest → Option Text
  | [] => none
  | node :: rest =>
    match node.textBeside? role p with
    | some beside => some (beside ++ forestText role rest)
    | none => (forestTextBeside? role p rest).map (node.textOf role ++ ·)
end

variable {role : TextRole} {p : Node → Bool} {forest : Forest}

lemma textBeside?_leaf {node : Node} (h : node.isElement = false) :
    node.textBeside? role p = none := by
  cases node with
  | element => simp [Node.isElement] at h
  | text | comment | doctype => rfl

/-- Without an element of the class there is no text beside one. -/
lemma forestTextBeside?_eq_none (h : (forestElements forest).find? p = none) :
    forestTextBeside? role p forest = none := by
  induction forest using Forest.ind with
  | nil => rfl
  | element name attributes children rest ihChildren ihRest =>
      rw [forestElements_element, List.find?_cons, List.find?_append] at h
      cases hself : p (.element name attributes children) with
      | true =>
          rw [hself] at h
          cases h
      | false =>
          rw [hself] at h
          obtain ⟨hchildren, hrest⟩ := Option.or_eq_none_iff.mp h
          rw [forestTextBeside?, Node.textBeside?, hself, if_neg Bool.false_ne_true,
            ihChildren hchildren, ihRest hrest]
          rfl
  | leaf node rest hleaf ih =>
      rw [forestElements_leaf hleaf] at h
      rw [forestTextBeside?, textBeside?_leaf hleaf, ih h]
      rfl

/-- The text beside the first element of the class has the text of this element somewhere in it. -/
lemma forestTextBeside?_eq_some {element : Node}
    (h : (forestElements forest).find? p = some element) :
    ∃ before after, forestTextBeside? role p forest = some (before ++ after) ∧
      forestText role forest = before ++ (element.textOf role ++ after) := by
  induction forest using Forest.ind with
  | nil => cases h
  | element name attributes children rest ihChildren ihRest =>
      rw [forestElements_element, List.find?_cons, List.find?_append] at h
      rw [forestTextBeside?, Node.textBeside?, Node.forestText]
      cases hself : p (.element name attributes children) with
      | true =>
          rw [hself] at h
          obtain rfl := Option.some.inj h
          exact ⟨[], forestText role rest, rfl, rfl⟩
      | false =>
          rw [hself] at h
          rw [if_neg Bool.false_ne_true, Node.textOf]
          rcases Option.or_eq_some_iff.mp h with hchildren | ⟨hnone, hrest⟩
          · obtain ⟨before, after, hbeside, htext⟩ := ihChildren hchildren
            refine ⟨before, after ++ forestText role rest, ?_, ?_⟩
            · rw [hbeside]
              exact congrArg some (List.append_assoc _ _ _)
            · rw [htext, List.append_assoc, List.append_assoc]
          · obtain ⟨before, after, hbeside, htext⟩ := ihRest hrest
            refine ⟨forestText role children ++ before, after, ?_, ?_⟩
            · rw [forestTextBeside?_eq_none hnone, hbeside, List.append_assoc]
              rfl
            · rw [htext, List.append_assoc]
  | leaf node rest hleaf ih =>
      rw [forestElements_leaf hleaf] at h
      obtain ⟨before, after, hbeside, htext⟩ := ih h
      refine ⟨node.textOf role ++ before, after, ?_, ?_⟩
      · rw [forestTextBeside?, textBeside?_leaf hleaf, hbeside, List.append_assoc]
        rfl
      · rw [Node.forestText, htext, List.append_assoc]

/-! ### What is read and what is left aside -/

/-- The plain texts in an element that gives the texts in it no other role are what is seen of it. -/
lemma textOf_plain {name : String} (hname : TextRole.of name = .plain) {element : Node}
    (h : element.named name = true) : element.textOf .plain = element.innerText := by
  cases element with
  | element other attributes children =>
      obtain rfl : other = name := of_decide_eq_true h
      rw [Node.textOf, Node.innerText, hname]
  | text | comment | doctype => cases h

/-- The texts of one role in the first element of a class, or all of them if there is none. -/
def firstText (role : TextRole) (p : Node → Bool) (forest : Forest) : Text :=
  match (forestElements forest).find? p with
  | some element => element.textOf role
  | none => forestText role forest

/-- The texts of one role that are left aside when the first element of a class is read. -/
def textBeside (role : TextRole) (p : Node → Bool) (forest : Forest) : Text :=
  (forestTextBeside? role p forest).getD []

/-- What is left aside stands before and after what is read. -/
lemma exists_around (role : TextRole) (p : Node → Bool) (forest : Forest) :
    ∃ before after, textBeside role p forest = before ++ after ∧
      forestText role forest = before ++ (firstText role p forest ++ after) := by
  rw [textBeside, firstText]
  cases h : (forestElements forest).find? p with
  | none => exact ⟨[], [], by rw [forestTextBeside?_eq_none h]; rfl, (List.append_nil _).symm⟩
  | some element =>
      obtain ⟨before, after, hbeside, htext⟩ := @forestTextBeside?_eq_some role _ _ _ h
      exact ⟨before, after, by rw [hbeside]; rfl, htext⟩

/-- What is read is the whole text, but for characters at the ends, just when all that is left aside
is of these characters. -/
theorem trim_firstText_iff (q : Char → Bool) (role : TextRole) (p : Node → Bool)
    (forest : Forest) :
    Text.trim q (firstText role p forest) = Text.trim q (forestText role forest) ↔
      ∀ c ∈ textBeside role p forest, q c = true := by
  obtain ⟨before, after, hbeside, htext⟩ := exists_around role p forest
  rw [hbeside, htext, eq_comm, Text.trim_surrounded_iff]

end PageNotes
