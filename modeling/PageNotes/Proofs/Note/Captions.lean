import PageNotes.Proofs.Note.Removal

/-!
What moving captions does to a page. An image takes its caption up as its alternative text, and the
caption goes with the blanks and line breaks around it. Nothing else goes, but all that lies below
a caption goes with it.

* `IsCaption`: the caption in the nodes behind an image;
* `Captioned`: two forests of which one is the other with its captions moved, and what went;
* `Caption.inferAll_captioned`: moving captions is this;
* `Captioned.outline`, `Captioned.images`: what stays stands where it stood, and of the images only
  those below what went are gone;
* `Content.sanitize_captions`: the content of a page with its captions moved.
-/

namespace PageNotes

/-! ### Captions -/

/-- A caption in the nodes behind an image: an italic element with a text, behind nothing but blanks
and line breaks, and those that follow it. -/
structure IsCaption (siblings before : Forest) (caption : Node) (after rest : Forest) : Prop where
  siblings_eq : siblings = (before ++ caption :: after) ++ rest
  before : ∀ node ∈ before, isFiller node = true
  italic : isItalic caption = true
  text : Text.strip caption.innerText ≠ []
  after : ∀ node ∈ after, isFiller node = true
  rest : ∀ node ∈ rest.head?, isFiller node = false

lemma isFiller_of_isItalic {node : Node} (h : isItalic node = true) : isFiller node = false := by
  cases node with
  | element name attributes children =>
      simp only [isItalic, Node.named, Bool.or_eq_true, decide_eq_true_eq] at h
      rcases h with rfl | rfl <;> simp [isFiller, Node.isBlankText, Node.named]
  | text | comment | doctype => simp [isItalic, Node.named] at h

lemma drop_fillers (siblings : Forest) :
    siblings.drop (siblings.takeWhile isFiller).length = siblings.dropWhile isFiller := by
  calc siblings.drop (siblings.takeWhile isFiller).length
      = (siblings.takeWhile isFiller ++ siblings.dropWhile isFiller).drop
          (siblings.takeWhile isFiller).length := by rw [List.takeWhile_append_dropWhile]
    _ = siblings.dropWhile isFiller := List.drop_left

/-- What is found behind an image is its caption. -/
lemma captionAfter?_eq_some {siblings : Forest} {text : Text} {count : Nat}
    (h : captionAfter? siblings = some (text, count)) :
    ∃ before caption after rest, IsCaption siblings before caption after rest ∧
      text = Text.strip caption.innerText ∧ siblings.drop count = rest := by
  rw [captionAfter?] at h
  dsimp only at h
  rw [drop_fillers] at h
  split at h
  · rename_i node rest hnode
    split_ifs at h with hcaption
    rw [Bool.and_eq_true, Bool.not_eq_true', List.isEmpty_eq_false_iff] at hcaption
    simp only [Option.some.injEq, Prod.mk.injEq] at h
    obtain ⟨rfl, rfl⟩ := h
    have heq : siblings = (siblings.takeWhile isFiller ++ node :: rest.takeWhile isFiller) ++
        rest.dropWhile isFiller := by
      rw [List.append_assoc, List.cons_append, List.takeWhile_append_dropWhile, ← hnode,
        List.takeWhile_append_dropWhile]
    refine ⟨siblings.takeWhile isFiller, node, rest.takeWhile isFiller, rest.dropWhile isFiller,
      ⟨heq, fun _ => List.mem_takeWhile_imp, hcaption.1, hcaption.2,
        fun _ => List.mem_takeWhile_imp, fun other hother => ?_⟩, rfl, ?_⟩
    · have hfirst := List.head?_dropWhile_not isFiller rest
      rw [Option.mem_def.mp hother] at hfirst
      simpa using hfirst
    · rw [Nat.add_assoc, ← List.drop_drop, drop_fillers, hnode, ← List.drop_drop, List.drop_one,
        List.tail_cons, drop_fillers]
  · simp at h

/-- A caption behind an image is found. -/
lemma captionAfter?_ne_none {siblings before after rest : Forest} {caption : Node}
    (h : IsCaption siblings before caption after rest) : captionAfter? siblings ≠ none := by
  have hbefore : siblings.takeWhile isFiller = before := by
    rw [h.siblings_eq, List.append_assoc, List.takeWhile_append_of_pos h.before, List.cons_append,
      List.takeWhile_cons_of_neg (by simp [isFiller_of_isItalic h.italic]), List.append_nil]
  rw [captionAfter?, hbefore, h.siblings_eq, List.append_assoc, List.drop_left, List.cons_append]
  simp [h.italic, h.text]

/-- A forest, what it is with its captions moved, and the nodes that went, in order. An image takes
its caption up when there is one behind it, and every other node is as it was. -/
inductive Captioned : Forest → Forest → Forest → Prop
  | nil : Captioned [] [] []
  | leaf {node : Node} (h : node.isElement = false) {rest rest' gone : Forest}
      (hrest : Captioned rest rest' gone) : Captioned (node :: rest) (node :: rest') gone
  | element {name : String} {attributes : Attributes}
      {children children' gone rest rest' goneBehind : Forest}
      (hnone : name = "img" → ∀ before caption after more,
        ¬ IsCaption rest before caption after more)
      (hchildren : Captioned children children' gone) (hrest : Captioned rest rest' goneBehind) :
      Captioned (.element name attributes children :: rest)
        (.element name attributes children' :: rest') (gone ++ goneBehind)
  | image {attributes : Attributes} {caption : Node}
      {children children' gone siblings before after rest rest' goneBehind : Forest}
      (hcaption : IsCaption siblings before caption after rest)
      (hchildren : Captioned children children' gone) (hrest : Captioned rest rest' goneBehind) :
      Captioned (.element "img" attributes children :: siblings)
        (.element "img" (attributes.set "alt" (Text.strip caption.innerText)) children' :: rest')
        (gone ++ (before ++ caption :: after) ++ goneBehind)

namespace Caption

lemma inferAll_skip (skip : Nat) (forest : Forest) :
    inferAll skip forest = inferAll 0 (forest.drop skip) := by
  induction forest generalizing skip with
  | nil => rw [List.drop_nil, inferAll, inferAll]
  | cons node rest ih =>
      cases skip with
      | zero => rfl
      | succ skip => rw [inferAll, List.drop_succ_cons, ih]

lemma inferAll_leaf {node : Node} (h : node.isElement = false) (rest : Forest) :
    inferAll 0 (node :: rest) = node :: inferAll 0 rest := by
  cases node with
  | element => simp [Node.isElement] at h
  | text | comment | doctype => rfl

/-- Moving captions takes up each caption there is and removes nothing else. -/
theorem inferAll_captioned (forest : Forest) (skip : Nat) :
    ∃ gone, Captioned (forest.drop skip) (inferAll skip forest) gone := by
  induction forest using Forest.ind generalizing skip with
  | nil => exact ⟨[], by rw [List.drop_nil, inferAll]; exact .nil⟩
  | element name attributes children rest ihChildren ihRest =>
      cases skip with
      | succ skip =>
          rw [inferAll, List.drop_succ_cons]
          exact ihRest skip
      | zero =>
          obtain ⟨gone, hchildren⟩ := ihChildren 0
          rw [List.drop_zero] at hchildren ⊢
          rw [inferAll, infer]
          dsimp only
          split
          · rename_i text count hfound
            split_ifs at hfound with himage
            obtain ⟨before, caption, after, more, hcaption, rfl, hmore⟩ :=
              captionAfter?_eq_some hfound
            obtain ⟨goneBehind, hrest⟩ := ihRest count
            rw [hmore] at hrest
            obtain rfl : name = "img" := by simpa [Node.named] using himage
            exact ⟨_, .image hcaption hchildren hrest⟩
          · rename_i hfound
            obtain ⟨goneBehind, hrest⟩ := ihRest 0
            rw [List.drop_zero] at hrest
            refine ⟨_, .element (fun himage before caption after more hcaption => ?_) hchildren
              hrest⟩
            rw [if_pos (by simp [Node.named, himage])] at hfound
            exact captionAfter?_ne_none hcaption hfound
  | leaf node rest hleaf ih =>
      cases skip with
      | succ skip =>
          rw [inferAll, List.drop_succ_cons]
          exact ih skip
      | zero =>
          obtain ⟨gone, hrest⟩ := ih 0
          rw [List.drop_zero] at hrest ⊢
          rw [inferAll_leaf hleaf]
          exact ⟨gone, .leaf hleaf hrest⟩

end Caption

/-! ### What stays -/

/-- A tag without the alternative text, if it is that of an image. -/
def tagWithoutAlt (tag : String × Attributes) : String × Attributes :=
  if tag.1 = "img" then (tag.1, tag.2.filter (·.1 ≠ "alt")) else tag

/-- A node of an outline and the tags around it without the alternative texts of images. -/
def entryWithoutAlt (entry : OutlineEntry) : OutlineEntry :=
  (entry.1.map tagWithoutAlt, match entry.2 with
    | .element name attributes children =>
      .element name (tagWithoutAlt (name, attributes)).2 children
    | node => node)

lemma entryWithoutAlt_element (above : List (String × Attributes)) (name : String)
    (attributes : Attributes) (children : Forest) :
    entryWithoutAlt (above, .element name attributes children)
      = (above.map tagWithoutAlt, .element name (tagWithoutAlt (name, attributes)).2 children) :=
  rfl

/-- The images of a forest without their alternative texts, in document order. -/
def forestImages (forest : Forest) : List (String × Attributes) :=
  ((forestTags forest).filter (·.1 = "img")).map tagWithoutAlt

lemma Attributes.filter_set (attributes : Attributes) (key : String) (value : Text) :
    (attributes.set key value).filter (·.1 ≠ key) = attributes.filter (·.1 ≠ key) := by
  induction attributes with
  | nil => simp [set]
  | cons head rest ih =>
      obtain ⟨name, old⟩ := head
      by_cases h : name = key
      · simp [set, h]
      · simpa [set, h] using ih

lemma tagWithoutAlt_set (attributes : Attributes) (text : Text) :
    tagWithoutAlt ("img", attributes.set "alt" text) = tagWithoutAlt ("img", attributes) := by
  rw [tagWithoutAlt, tagWithoutAlt, if_pos rfl, if_pos rfl, Attributes.filter_set]

lemma forestOutline_append (above : List (String × Attributes)) (f g : Forest) :
    forestOutline above (f ++ g) = forestOutline above f ++ forestOutline above g := by
  induction f with
  | nil => rfl
  | cons node rest ih => rw [List.cons_append, forestOutline, ih, forestOutline, List.append_assoc]

lemma forestTags_append (f g : Forest) : forestTags (f ++ g) = forestTags f ++ forestTags g := by
  induction f using Forest.ind with
  | nil => rfl
  | element name attributes children rest _ ihRest => simp [ihRest]
  | leaf node rest hleaf ih => simp [forestTags_leaf hleaf, ih]

lemma forestImages_append (f g : Forest) :
    forestImages (f ++ g) = forestImages f ++ forestImages g := by
  simp [forestImages, forestTags_append]

lemma forestImages_element (name : String) (attributes : Attributes) (children rest : Forest) :
    forestImages (.element name attributes children :: rest)
      = (if name = "img" then [tagWithoutAlt (name, attributes)] else []) ++
        (forestImages children ++ forestImages rest) := by
  by_cases h : name = "img" <;> simp [forestImages, h]

lemma forestImages_leaf {node : Node} (h : node.isElement = false) (rest : Forest) :
    forestImages (node :: rest) = forestImages rest := by
  rw [forestImages, forestTags_leaf h, forestImages]

namespace Captioned

variable {forest forest' gone : Forest}

/-- What stays is as it was and stands where it stood, but for the alternative texts of images. -/
theorem outline (h : Captioned forest forest' gone) (above above' : List (String × Attributes))
    (habove : above'.map tagWithoutAlt = above.map tagWithoutAlt) :
    ((forestOutline above' forest').map entryWithoutAlt).Sublist
      ((forestOutline above forest).map entryWithoutAlt) := by
  induction h generalizing above above' with
  | nil => exact .refl _
  | @leaf node hleaf _ _ _ _ ih =>
      have hself : entryWithoutAlt (above', node) = entryWithoutAlt (above, node) := by
        rw [entryWithoutAlt, entryWithoutAlt, habove]
      rw [forestOutline_leaf hleaf, forestOutline_leaf hleaf, List.map_cons, List.map_cons, hself]
      exact (ih above above' habove).cons_cons _
  | @element name attributes _ _ _ _ _ _ _ _ _ ihChildren ihRest =>
      have hself : entryWithoutAlt (above', .element name attributes [])
          = entryWithoutAlt (above, .element name attributes []) := by
        rw [entryWithoutAlt_element, entryWithoutAlt_element, habove]
      rw [forestOutline_element, forestOutline_element, List.map_cons, List.map_cons, hself,
        List.map_append, List.map_append]
      exact ((ihChildren _ _ (by simp [habove])).append (ihRest above above' habove)).cons_cons _
  | @image attributes caption _ _ _ _ _ _ _ _ _ hcaption _ _ ihChildren ihRest =>
      have hself : entryWithoutAlt
            (above', .element "img" (attributes.set "alt" (Text.strip caption.innerText)) [])
          = entryWithoutAlt (above, .element "img" attributes []) := by
        rw [entryWithoutAlt_element, entryWithoutAlt_element, habove, tagWithoutAlt_set]
      rw [forestOutline_element, forestOutline_element, List.map_cons, List.map_cons, hself,
        List.map_append, List.map_append, hcaption.siblings_eq, forestOutline_append,
        List.map_append]
      refine List.Sublist.cons_cons _ ((ihChildren _ _ ?_).append ?_)
      · simp [habove, tagWithoutAlt_set]
      · exact (ihRest above above' habove).trans (List.sublist_append_right _ _)

/-- The images are those that stay and those below the nodes that went. -/
theorem images (h : Captioned forest forest' gone) :
    (forestImages forest).Perm (forestImages forest' ++ forestImages gone) := by
  rw [List.perm_iff_count]
  intro image
  induction h with
  | nil => rfl
  | leaf hleaf _ ih =>
      rw [List.count_append] at ih ⊢
      rw [forestImages_leaf hleaf, forestImages_leaf hleaf, ih]
  | element _ _ _ ihChildren ihRest =>
      simp only [forestImages_element, forestImages_append, List.count_append] at ihChildren ihRest ⊢
      omega
  | @image attributes caption _ _ _ _ before after _ _ _ hcaption _ _ ihChildren ihRest =>
      rw [hcaption.siblings_eq]
      simp only [forestImages_element, forestImages_append, List.count_append, tagWithoutAlt_set]
        at ihChildren ihRest ⊢
      omega

end Captioned

/-! ### The content of a page -/

/-- **What moving captions does to a page.** The tags stay the same. Each image with a caption behind
it takes up the text of the caption, and the caption goes with the blanks and line breaks around it;
nothing else goes. What stays is as it was but for the alternative texts of images, and stands in
the same elements and in the same order. No image is gone but those below what went. -/
theorem Content.sanitize_captions (tags : TagSettings) (document : Forest) :
    (sanitize ⟨tags, true⟩ document).tags = (sanitize ⟨tags, false⟩ document).tags ∧
      ∃ gone, Captioned (sanitize ⟨tags, false⟩ document).document
          (sanitize ⟨tags, true⟩ document).document gone ∧
        ((forestOutline [] (sanitize ⟨tags, true⟩ document).document).map entryWithoutAlt).Sublist
          ((forestOutline [] (sanitize ⟨tags, false⟩ document).document).map entryWithoutAlt) ∧
        (forestImages (sanitize ⟨tags, false⟩ document).document).Perm
          (forestImages (sanitize ⟨tags, true⟩ document).document ++ forestImages gone) := by
  obtain ⟨gone, h⟩ := Caption.inferAll_captioned (withoutMarkers (readable document)) 0
  rw [List.drop_zero] at h
  exact ⟨rfl, gone, h, h.outline [] [] rfl, h.images⟩

/-- A page whose caption has an image in it. -/
def captionWithImage : Forest :=
  Document.parse "<p><img src=\"a.png\"><i>cap<img src=\"b.png\"></i></p>".toList

set_option maxRecDepth 100000 in
/-- An image in a caption is gone with it, whatever its alternative text. -/
theorem captionWithImage_loses :
    ("img", [("src", "b.png".toList)])
        ∈ forestImages (Content.sanitize ⟨⟨[], false⟩, false⟩ captionWithImage).document ∧
      ("img", [("src", "b.png".toList)])
        ∉ forestImages (Content.sanitize ⟨⟨[], false⟩, true⟩ captionWithImage).document := by
  decide +kernel

end PageNotes
