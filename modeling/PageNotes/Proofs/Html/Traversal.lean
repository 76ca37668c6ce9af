import Mathlib.Tactic.Common
import PageNotes.Reference.Rewrite

/-!
Passes over the elements of a document. A pass visits the elements in document order and changes
attributes alone, so what it does is told by the list of the tags, names with attributes, that it
meets.

* `Forest.ind`: induction over forests;
* `forestTags`: the tags of a forest in document order;
* `forestTags_mapAccum`, `forestMapAccum_state`: a pass over a forest is a pass over its tags;
* `forestMapAccum_congr`: two passes that do the same at each state on the way do the same.
-/

namespace PageNotes

/-- The induction principle of forests: a property holds of every forest once it is inherited from
the children of its first node and from the rest. -/
@[elab_as_elim]
theorem Forest.ind {P : Forest → Prop} (nil : P [])
    (element : ∀ name attributes children rest, P children → P rest →
      P (.element name attributes children :: rest))
    (leaf : ∀ node rest, node.isElement = false → P rest → P (node :: rest))
    (forest : Forest) : P forest :=
  @Node.rec_1 (fun node => ∀ rest, P rest → P (node :: rest)) P
    (fun name attributes children hchildren rest hrest =>
      element name attributes children rest hchildren hrest)
    (fun role content rest => leaf (.text role content) rest rfl)
    (fun content rest => leaf (.comment content) rest rfl)
    (fun content rest => leaf (.doctype content) rest rfl)
    nil (fun _ rest hnode hrest => hnode rest hrest) forest

/-! ### Elements -/

lemma forestElements_element (name : String) (attributes : Attributes) (children rest : Forest) :
    forestElements (.element name attributes children :: rest)
      = .element name attributes children :: (forestElements children ++ forestElements rest) := by
  rw [Node.forestElements, Node.elements, List.cons_append]

lemma forestElements_leaf {node : Node} (h : node.isElement = false) (rest : Forest) :
    forestElements (node :: rest) = forestElements rest := by
  cases node with
  | element => simp [Node.isElement] at h
  | text | comment | doctype => rfl

/-! ### Tags -/

/-- The name of an element with its attributes. -/
def Node.tag? : Node → Option (String × Attributes)
  | .element name attributes _ => some (name, attributes)
  | _ => none

/-- The tags of a forest in document order. -/
def forestTags (forest : Forest) : List (String × Attributes) :=
  (forestElements forest).filterMap Node.tag?

@[simp] lemma forestTags_nil : forestTags [] = [] := rfl

@[simp] lemma forestTags_element (name : String) (attributes : Attributes)
    (children rest : Forest) :
    forestTags (.element name attributes children :: rest)
      = (name, attributes) :: (forestTags children ++ forestTags rest) := by
  simp [forestTags, Node.forestElements, Node.elements, Node.tag?]

@[simp] lemma forestTags_leaf {node : Node} (h : node.isElement = false) (rest : Forest) :
    forestTags (node :: rest) = forestTags rest := by
  cases node with
  | element => simp [Node.isElement] at h
  | text | comment | doctype => rfl

/-- The references of a document are those of its tags. -/
lemma documentReferences_eq (document : Forest) :
    documentReferences document = (forestTags document).filterMap fun (name, attributes) =>
      (assetAttribute? name).map fun key => (name, attributes.get? key) := by
  rw [documentReferences, forestTags, List.filterMap_filterMap]
  congr 1
  funext node
  cases node with
  | element => rfl
  | text | comment | doctype => rfl

/-! ### Passes -/

variable {σ : Type} {f g : σ → String → Attributes → Attributes × σ}

/-- A pass over tags. -/
def tagsMapAccum (f : σ → String → Attributes → Attributes × σ) (s : σ) :
    List (String × Attributes) → List (String × Attributes) × σ
  | [] => ([], s)
  | (name, attributes) :: rest =>
    let (attributes, s) := f s name attributes
    let (rest, s) := tagsMapAccum f s rest
    ((name, attributes) :: rest, s)

lemma tagsMapAccum_append (s : σ) (tags more : List (String × Attributes)) :
    tagsMapAccum f s (tags ++ more) =
      ((tagsMapAccum f s tags).1 ++ (tagsMapAccum f (tagsMapAccum f s tags).2 more).1,
        (tagsMapAccum f (tagsMapAccum f s tags).2 more).2) := by
  induction tags generalizing s with
  | nil => rfl
  | cons tag tags ih => simp [tagsMapAccum, ih]

lemma forestMapAccum_leaf {node : Node} (h : node.isElement = false) (s : σ) (rest : Forest) :
    forestMapAccum f s (node :: rest)
      = (node :: (forestMapAccum f s rest).1, (forestMapAccum f s rest).2) := by
  cases node with
  | element => simp [Node.isElement] at h
  | text | comment | doctype => simp [forestMapAccum, Node.mapAccum]

/-- A pass over a forest is a pass over its tags. -/
theorem forestTags_mapAccum (s : σ) (forest : Forest) :
    (forestTags (forestMapAccum f s forest).1, (forestMapAccum f s forest).2)
      = tagsMapAccum f s (forestTags forest) := by
  induction forest using Forest.ind generalizing s with
  | nil => rfl
  | element name attributes children rest ihChildren ihRest =>
      have hchildren := ihChildren (f s name attributes).2
      have hrest := ihRest (forestMapAccum f (f s name attributes).2 children).2
      rw [Prod.ext_iff] at hchildren hrest
      dsimp only at hchildren hrest
      simp only [forestMapAccum, Node.mapAccum, forestTags_element, tagsMapAccum,
        tagsMapAccum_append, ← hchildren.1, ← hchildren.2, ← hrest.1, ← hrest.2]
  | leaf node rest hleaf ih =>
      rw [forestMapAccum_leaf hleaf, forestTags_leaf hleaf, forestTags_leaf hleaf]
      exact ih s

/-- The tags after a pass. -/
lemma forestMapAccum_tags (s : σ) (forest : Forest) :
    forestTags (forestMapAccum f s forest).1 = (tagsMapAccum f s (forestTags forest)).1 :=
  congrArg Prod.fst (forestTags_mapAccum s forest)

/-- The state after a pass. -/
lemma forestMapAccum_state (s : σ) (forest : Forest) :
    (forestMapAccum f s forest).2 = (tagsMapAccum f s (forestTags forest)).2 :=
  congrArg Prod.snd (forestTags_mapAccum s forest)

/-- Two passes do the same if they do so at each state that is good, all states before a good one
being good and the last one being so. -/
theorem forestMapAccum_congr (Good : σ → Prop)
    (hback : ∀ s name attributes, Good (f s name attributes).2 → Good s)
    (hstep : ∀ s name attributes, Good (f s name attributes).2 →
      g s name attributes = f s name attributes)
    (s : σ) (forest : Forest) (h : Good (forestMapAccum f s forest).2) :
    Good s ∧ forestMapAccum g s forest = forestMapAccum f s forest := by
  induction forest using Forest.ind generalizing s with
  | nil => exact ⟨h, rfl⟩
  | element name attributes children rest ihChildren ihRest =>
      simp only [forestMapAccum, Node.mapAccum] at h ⊢
      obtain ⟨hmid, hrest⟩ := ihRest _ h
      obtain ⟨hfirst, hchildren⟩ := ihChildren _ hmid
      refine ⟨hback s name attributes hfirst, ?_⟩
      rw [hstep s name attributes hfirst, hchildren, hrest]
  | leaf node rest hleaf ih =>
      rw [forestMapAccum_leaf hleaf] at h ⊢
      obtain ⟨hs, heq⟩ := ih s h
      exact ⟨hs, by rw [forestMapAccum_leaf hleaf, heq]⟩

end PageNotes
