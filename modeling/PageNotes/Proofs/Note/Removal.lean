import Mathlib.Data.List.Induction
import Mathlib.Logic.Relation
import PageNotes.Proofs.Note.Conversion
import PageNotes.Proofs.Text.Parts

/-!
What is removed from a page. Elements are taken out one by one from a tree that changes under way,
some of them when an element around them is gone already; whatever the order, what stays is the
tree without the subtrees of these elements, every other node as it was.

* `Removes`, `Sweeps`: one element taken out, and elements taken out until none is left;
* `sweeps_iff`: whatever the order, this ends with the pruned forest;
* `forestOutline`: the nodes of a forest, each with the tags around it, and `forestOutline_inj`:
  there is no other forest with the same outline;
* `cleanTag_spec`, `distinctTags_eq`: the tags of some markers;
* `Content.sanitize_removes`: what is left of a page, and its tags.
-/

namespace PageNotes

open Relation (ReflTransGen)

/-! ### Elements taken out -/

/-- A class of elements that is told by their tags, whatever lies below them. -/
structure IsByTag (rejected : Node → Bool) : Prop where
  element : ∀ name attributes children children',
    rejected (.element name attributes children) = rejected (.element name attributes children')
  leaf : ∀ node, node.isElement = false → rejected node = false

lemma isNonContent_byTag : IsByTag isNonContent where
  element _ _ _ _ := rfl
  leaf node h := by
    cases node with
    | element => simp [Node.isElement] at h
    | text | comment | doctype => rfl

lemma isMarker_byTag : IsByTag isMarker where
  element _ _ _ _ := rfl
  leaf node h := by
    cases node with
    | element => simp [Node.isElement] at h
    | text | comment | doctype => rfl

/-- One element of a class is taken out of a forest with all that lies below it. -/
inductive Removes (rejected : Node → Bool) : Forest → Forest → Prop
  | here {name : String} {attributes : Attributes} {children : Forest}
      (h : rejected (.element name attributes children) = true) (rest : Forest) :
      Removes rejected (.element name attributes children :: rest) rest
  | inside (name : String) (attributes : Attributes) {children children' : Forest}
      (h : Removes rejected children children') (rest : Forest) :
      Removes rejected (.element name attributes children :: rest)
        (.element name attributes children' :: rest)
  | after (node : Node) {rest rest' : Forest} (h : Removes rejected rest rest') :
      Removes rejected (node :: rest) (node :: rest')

/-- The elements of a class are taken out one by one, in any order, until there are none. -/
structure Sweeps (rejected : Node → Bool) (f g : Forest) : Prop where
  steps : ReflTransGen (Removes rejected) f g
  clean : ∀ node ∈ forestElements g, rejected node = false

section Sweeping

variable {rejected : Node → Bool} {f g : Forest}

lemma forestPrune_leaf (hr : IsByTag rejected) {node : Node} (h : node.isElement = false)
    (rest : Forest) : forestPrune rejected (node :: rest) = node :: forestPrune rejected rest := by
  rw [forestPrune, if_neg (Bool.eq_false_iff.mp (hr.leaf node h))]
  cases node with
  | element => simp [Node.isElement] at h
  | text | comment | doctype => rfl

/-- Taking an element out does not change what is left in the end. -/
lemma Removes.prune (hr : IsByTag rejected) (h : Removes rejected f g) :
    forestPrune rejected f = forestPrune rejected g := by
  induction h with
  | here h rest => rw [forestPrune_element, if_pos h]
  | @inside name attributes children children' _ rest ih =>
      rw [forestPrune_element, forestPrune_element, ih, hr.element name attributes children children']
  | after node _ ih => rw [forestPrune, forestPrune, ih]

/-- A forest without elements of the class is left as it is. -/
lemma forestPrune_clean (hr : IsByTag rejected)
    (h : ∀ node ∈ forestElements f, rejected node = false) : forestPrune rejected f = f := by
  induction f using Forest.ind with
  | nil => rfl
  | element name attributes children rest ihChildren ihRest =>
      simp only [Node.forestElements, Node.elements, List.cons_append, List.mem_cons,
        List.mem_append] at h
      rw [forestPrune_element, if_neg (Bool.eq_false_iff.mp (h _ (Or.inl rfl))),
        ihChildren fun node hnode => h node (Or.inr (Or.inl hnode)),
        ihRest fun node hnode => h node (Or.inr (Or.inr hnode))]
  | leaf node rest hleaf ih =>
      rw [forestPrune_leaf hr hleaf, ih]
      intro other hother
      refine h other ?_
      rw [Node.forestElements]
      exact List.mem_append_right _ hother

/-- What is left has no element of the class. -/
lemma not_rejected_of_mem_forestPrune (hr : IsByTag rejected) (f : Forest) :
    ∀ node ∈ forestElements (forestPrune rejected f), rejected node = false := by
  induction f using Forest.ind with
  | nil => simp [forestPrune, Node.forestElements]
  | element name attributes children rest ihChildren ihRest =>
      rw [forestPrune_element]
      split_ifs with hrejected
      · exact ihRest
      · intro node hnode
        simp only [Node.forestElements, Node.elements, List.cons_append, List.mem_cons,
          List.mem_append] at hnode
        rcases hnode with rfl | hnode | hnode
        · rw [hr.element name attributes _ children]
          exact Bool.eq_false_iff.mpr hrejected
        · exact ihChildren node hnode
        · exact ihRest node hnode
  | leaf node rest hleaf ih =>
      rw [forestPrune_leaf hr hleaf]
      cases node with
      | element => simp [Node.isElement] at hleaf
      | text | comment | doctype => exact ih

/-- What is left comes about by taking out one element after another. -/
lemma removes_forestPrune (hr : IsByTag rejected) (f : Forest) :
    ReflTransGen (Removes rejected) f (forestPrune rejected f) := by
  induction f using Forest.ind with
  | nil => exact .refl
  | element name attributes children rest ihChildren ihRest =>
      rw [forestPrune_element]
      split_ifs with hrejected
      · exact ihRest.head (.here hrejected rest)
      · exact (ihChildren.lift (fun inner => .element name attributes inner :: rest)
          fun _ _ h => Removes.inside name attributes h rest).trans
            (ihRest.lift _ fun _ _ h => Removes.after _ h)
  | leaf node rest hleaf ih =>
      rw [forestPrune_leaf hr hleaf]
      exact ih.lift _ fun _ _ h => Removes.after node h

/-- Whatever the order in which the elements of a class are taken out, the end is the pruned
forest. -/
theorem sweeps_iff (hr : IsByTag rejected) : Sweeps rejected f g ↔ g = forestPrune rejected f := by
  constructor
  · rintro ⟨hsteps, hclean⟩
    rw [← forestPrune_clean hr hclean]
    clear hclean
    induction hsteps with
    | refl => rfl
    | tail _ hstep ih => rw [← hstep.prune hr, ih]
  · rintro rfl
    exact ⟨removes_forestPrune hr f, not_rejected_of_mem_forestPrune hr f⟩

end Sweeping

/-! ### Outlines -/

/-- A node by itself, with the tags of the elements around it from the root down. -/
abbrev OutlineEntry := List (String × Attributes) × Node

mutual
/-- The nodes of a tree by themselves, in document order, with the tags around them. -/
def Node.outline (above : List (String × Attributes)) : Node → List OutlineEntry
  | .element name attributes children =>
    (above, .element name attributes []) :: forestOutline (above ++ [(name, attributes)]) children
  | .text role content => [(above, .text role content)]
  | .comment content => [(above, .comment content)]
  | .doctype content => [(above, .doctype content)]

/-- The nodes of a forest by themselves, in document order, with the tags around them. -/
def forestOutline (above : List (String × Attributes)) : Forest → List OutlineEntry
  | [] => []
  | node :: rest => node.outline above ++ forestOutline above rest
end

section Outlines

variable {above : List (String × Attributes)} {rejected : Node → Bool}

lemma forestOutline_element (above : List (String × Attributes)) (name : String)
    (attributes : Attributes) (children rest : Forest) :
    forestOutline above (.element name attributes children :: rest)
      = (above, .element name attributes []) ::
        (forestOutline (above ++ [(name, attributes)]) children ++ forestOutline above rest) := by
  rw [forestOutline, Node.outline, List.cons_append]

lemma forestOutline_leaf {node : Node} (h : node.isElement = false) (rest : Forest) :
    forestOutline above (node :: rest) = (above, node) :: forestOutline above rest := by
  cases node with
  | element => simp [Node.isElement] at h
  | text | comment | doctype => rfl

/-- All that is listed of a forest lies below the tags around it. -/
lemma prefix_of_mem_forestOutline {f : Forest} :
    ∀ entry ∈ forestOutline above f, above <+: entry.1 := by
  induction f using Forest.ind generalizing above with
  | nil => simp [forestOutline]
  | element name attributes children rest ihChildren ihRest =>
      intro entry hentry
      rw [forestOutline_element, List.mem_cons, List.mem_append] at hentry
      rcases hentry with rfl | hentry | hentry
      · exact List.prefix_rfl
      · exact (List.prefix_append _ _).trans (ihChildren entry hentry)
      · exact ihRest entry hentry
  | leaf node rest hleaf ih =>
      intro entry hentry
      rw [forestOutline_leaf hleaf, List.mem_cons] at hentry
      rcases hentry with rfl | hentry
      · exact List.prefix_rfl
      · exact ih entry hentry

/-- The list of a forest starts with a node that has nothing else around it. -/
lemma head_forestOutline (above : List (String × Attributes)) (f : Forest) :
    ∀ entry ∈ (forestOutline above f).head?, entry.1 = above := by
  cases f with
  | nil => simp [forestOutline]
  | cons node rest => cases node <;> simp [forestOutline, Node.outline]

/-- What lies below an element is listed up to the next node with as little around it. -/
lemma forestOutline_append_inj {tag : String × Attributes} {children children' rest rest' : Forest}
    (h : forestOutline (above ++ [tag]) children ++ forestOutline above rest
      = forestOutline (above ++ [tag]) children' ++ forestOutline above rest') :
    forestOutline (above ++ [tag]) children = forestOutline (above ++ [tag]) children' ∧
      forestOutline above rest = forestOutline above rest' := by
  have hdeep : ∀ (children : Forest), ∀ entry ∈ forestOutline (above ++ [tag]) children,
      decide (above.length < entry.1.length) = true := by
    intro children entry hentry
    have hlength := (prefix_of_mem_forestOutline entry hentry).length_le
    rw [List.length_append, List.length_singleton] at hlength
    exact decide_eq_true (by omega)
  have hstop : ∀ rest : Forest, (forestOutline above rest).takeWhile
      (fun entry => decide (above.length < entry.1.length)) = [] := by
    intro rest
    have hhead := head_forestOutline above rest
    cases hrest : forestOutline above rest with
    | nil => rfl
    | cons entry more =>
        rw [hrest] at hhead
        rw [List.takeWhile_cons_of_neg]
        simp [hhead entry rfl]
  have hfirst := congrArg
    (List.takeWhile fun entry : OutlineEntry => decide (above.length < entry.1.length)) h
  rw [List.takeWhile_append_of_pos (hdeep children), List.takeWhile_append_of_pos (hdeep children'),
    hstop, hstop, List.append_nil, List.append_nil] at hfirst
  rw [hfirst] at h
  exact ⟨hfirst, List.append_cancel_left h⟩

/-- Two forests with the same outline are the same. -/
theorem forestOutline_inj {f g : Forest} (h : forestOutline above f = forestOutline above g) :
    f = g := by
  induction f using Forest.ind generalizing above g with
  | nil =>
      cases g with
      | nil => rfl
      | cons node rest => cases node <;> simp [forestOutline, Node.outline] at h
  | element name attributes children rest ihChildren ihRest =>
      cases g with
      | nil => simp [forestOutline, Node.outline] at h
      | cons node rest' =>
          cases node with
          | element name' attributes' children' =>
              rw [forestOutline_element, forestOutline_element, List.cons.injEq] at h
              obtain ⟨hnode, hmore⟩ := h
              simp only [Prod.mk.injEq, Node.element.injEq, and_true, true_and] at hnode
              obtain ⟨rfl, rfl⟩ := hnode
              obtain ⟨hchildren, hrest⟩ := forestOutline_append_inj hmore
              rw [ihChildren hchildren, ihRest hrest]
          | text | comment | doctype => simp [forestOutline, Node.outline] at h
  | leaf node rest hleaf ih =>
      cases g with
      | nil =>
          rw [forestOutline_leaf hleaf] at h
          cases h
      | cons node' rest' =>
          rw [forestOutline_leaf hleaf] at h
          cases hleaf' : node'.isElement with
          | false =>
              rw [forestOutline_leaf hleaf', List.cons.injEq, Prod.mk.injEq] at h
              obtain ⟨⟨-, rfl⟩, hrest⟩ := h
              rw [ih hrest]
          | true =>
              cases node' with
              | element =>
                  rw [forestOutline_element, List.cons.injEq, Prod.mk.injEq] at h
                  rw [h.1.2] at hleaf
                  simp [Node.isElement] at hleaf
              | text | comment | doctype => simp [Node.isElement] at hleaf'

/-- Whether neither a node nor an element around it is of a class. -/
def survives (rejected : Node → Bool) (entry : OutlineEntry) : Bool :=
  !entry.1.any (fun (name, attributes) => rejected (.element name attributes [])) &&
    !rejected entry.2

/-- Nothing survives that lies below an element of the class. -/
lemma filter_survives_below {name : String} {attributes : Attributes}
    (h : rejected (.element name attributes []) = true) (children : Forest) :
    (forestOutline (above ++ [(name, attributes)]) children).filter (survives rejected) = [] := by
  rw [List.filter_eq_nil_iff]
  intro entry hentry
  have hmem : (name, attributes) ∈ entry.1 :=
    (prefix_of_mem_forestOutline entry hentry).subset (by simp)
  have hany : entry.1.any (fun (name, attributes) => rejected (.element name attributes []))
      = true := List.any_eq_true.mpr ⟨_, hmem, h⟩
  simp [survives, hany]

/-- What is left of a forest is what survives, every node as it was. -/
theorem forestOutline_forestPrune (hr : IsByTag rejected)
    (habove : above.any (fun (name, attributes) => rejected (.element name attributes [])) = false)
    (f : Forest) :
    forestOutline above (forestPrune rejected f)
      = (forestOutline above f).filter (survives rejected) := by
  induction f using Forest.ind generalizing above with
  | nil => rfl
  | element name attributes children rest ihChildren ihRest =>
      have hself : survives rejected (above, .element name attributes [])
          = !rejected (.element name attributes []) := by simp [survives, habove]
      rw [forestPrune_element, hr.element name attributes children [], forestOutline_element,
        List.filter_cons, List.filter_append, hself]
      cases hrejected : rejected (.element name attributes []) with
      | true =>
          rw [filter_survives_below hrejected, if_pos rfl, if_neg (by simp), List.nil_append,
            ihRest habove]
      | false =>
          have hinside : (above ++ [(name, attributes)]).any
              (fun (name, attributes) => rejected (.element name attributes [])) = false := by
            simp [habove, hrejected]
          rw [if_neg (by simp), if_pos (by simp), forestOutline_element, ihRest habove,
            ihChildren hinside]
  | leaf node rest hleaf ih =>
      have hself : survives rejected (above, node) = true := by
        simp [survives, habove, hr.leaf node hleaf]
      rw [forestPrune_leaf hr hleaf, forestOutline_leaf hleaf, forestOutline_leaf hleaf,
        List.filter_cons, if_pos hself, ih habove]

end Outlines

/-- What is removed for either of two reasons does not survive both. -/
lemma survives_isRemoved (entry : OutlineEntry) :
    survives isRemoved entry = (survives isMarker entry && survives isNonContent entry) := by
  rw [Bool.eq_iff_iff]
  simp only [survives, isRemoved, Bool.and_eq_true, Bool.not_eq_true', List.any_eq_false,
    Bool.or_eq_false_iff, Bool.not_eq_true]
  exact ⟨fun ⟨h, h'⟩ => ⟨⟨fun x hx => (h x hx).2, h'.2⟩, fun x hx => (h x hx).1, h'.1⟩,
    fun ⟨⟨h, h'⟩, k, k'⟩ => ⟨fun x hx => ⟨k x hx, h x hx⟩, k', h'⟩⟩

/-- What is left of a page without what is removed for either reason. -/
lemma forestOutline_withoutMarkers (document : Forest) :
    forestOutline [] (withoutMarkers (readable document))
      = (forestOutline [] document).filter (survives isRemoved) := by
  rw [withoutMarkers, readable, forestOutline_forestPrune isMarker_byTag rfl,
    forestOutline_forestPrune isNonContent_byTag rfl, List.filter_filter]
  exact List.filter_congr fun entry _ => (survives_isRemoved entry).symm

/-! ### Tags -/

/-- The tag of a marker is not empty, has no blank at either end and is not ignored. -/
lemma cleanTag_spec {settings : TagSettings} {raw tag : Text}
    (h : cleanTag settings raw = some tag) :
    tag ≠ [] ∧ (∀ c ∈ tag.head?, isBlank c = false) ∧ (∀ c ∈ tag.getLast?, isBlank c = false) ∧
      tag.lower ∉ settings.ignored := by
  rw [cleanTag] at h
  split_ifs at h with hdropped
  obtain rfl := Option.some.inj h
  rw [Bool.or_eq_true, not_or, List.isEmpty_iff, List.contains_iff_mem] at hdropped
  refine ⟨hdropped.1, fun c => ?_, fun c => ?_, hdropped.2⟩
  · rw [tagBody]
    exact Text.strip_head _ c
  · rw [tagBody]
    exact Text.strip_last _ c

/-- The tags of several markers are their tags without repetitions. -/
lemma distinctTags_eq (tags : List Text) : distinctTags tags = tags.eraseDups := by
  rw [distinctTags]
  induction tags using List.reverseRecOn with
  | nil => rfl
  | append_singleton tags tag ih =>
      rw [List.foldl_append, List.foldl_cons, List.foldl_nil, eraseDups_concat, ih]
      by_cases h : tag ∈ tags
      · rw [if_pos (by simpa using h), if_pos h]
      · rw [if_neg (by simpa using h), if_neg h]

/-! ### The content of a page -/

/-- **What is removed from a page.** Elements with nothing to read are taken out one by one, and
then the markers of tags, in whatever order: there is one way in which this can end. What is left
are the nodes that neither are such elements nor lie below one, every one as it was and in its
place, and no other forest has these. The tags are those of all markers that were left by the
first removal, in document order, the first of equal ones; none is empty, has a blank at either end
or is ignored. -/
theorem Content.sanitize_removes (tags : TagSettings) (document : Forest) :
    ∃ kept, (∀ f, Sweeps isNonContent document f ↔ f = kept) ∧
      (∀ f, Sweeps isMarker kept f ↔ f = (sanitize ⟨tags, false⟩ document).document) ∧
      (∀ f, forestOutline [] f = (forestOutline [] document).filter (survives isRemoved) ↔
        f = (sanitize ⟨tags, false⟩ document).document) ∧
      (sanitize ⟨tags, false⟩ document).tags
        = ((((forestElements kept).filter isMarker).map Node.innerText).filterMap
            (cleanTag tags)).eraseDups ∧
      ∀ tag ∈ (sanitize ⟨tags, false⟩ document).tags,
        tag ≠ [] ∧ (∀ c ∈ tag.head?, isBlank c = false) ∧
          (∀ c ∈ tag.getLast?, isBlank c = false) ∧ tag.lower ∉ tags.ignored := by
  have htags : (sanitize ⟨tags, false⟩ document).tags
      = ((markerTexts (readable document)).filterMap (cleanTag tags)).eraseDups :=
    distinctTags_eq _
  refine ⟨readable document, fun f => sweeps_iff isNonContent_byTag,
    fun f => sweeps_iff isMarker_byTag, fun f => ?_, htags, fun tag htag => ?_⟩
  · rw [← forestOutline_withoutMarkers]
    exact ⟨forestOutline_inj, fun h => congrArg _ h⟩
  · rw [htags, List.mem_eraseDups, List.mem_filterMap] at htag
    obtain ⟨raw, -, hclean⟩ := htag
    exact cleanTag_spec hclean

end PageNotes
