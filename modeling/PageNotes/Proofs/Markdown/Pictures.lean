import PageNotes.Proofs.Markdown.Places

/-!
Pictures in Markdown and what tells them apart. The alternative text, the source and the title of a
picture are written one after another with marks between them, and as they are. So a text that holds
such a mark can be read in two ways, and pictures with different texts can be written alike.

* `Picture`, `Picture.clause`: the texts of a picture and how they are written;
* `append_pair_eq_iff`: two ways to split a text at a mark of two characters;
* `Picture.TakesTitle`, `Picture.TakesTarget`: pictures that take in the marks of others;
* `Picture.clause_eq_iff`, `Picture.IsPlain.clause_eq_iff`: when pictures are written alike;
* `Renderer.write_picture_iff`: this for every two pictures.
-/

namespace PageNotes

/-! ### Clauses -/

/-- The texts of a picture, empty if they are not given. -/
@[ext]
structure Picture where
  alternative : Text
  source : Text
  title : Text

/-- The texts of a picture in its attributes. -/
def Attributes.picture (attributes : Attributes) : Picture :=
  ⟨attributes.get "alt", attributes.get "src", attributes.get "title"⟩

namespace Picture

variable {p q : Picture}

/-- The title as it stands behind the source. -/
def titled (p : Picture) : Text :=
  if p.title.isEmpty then [] else ' ' :: '"' :: (p.title ++ ['"'])

/-- What stands in the round brackets. -/
def target (p : Picture) : Text := p.source ++ p.titled

/-- A picture as it is written. -/
def clause (p : Picture) : Text :=
  '!' :: '[' :: (p.alternative ++ ']' :: '(' :: (p.target ++ [')']))

lemma titled_of_empty (h : p.title = []) : p.titled = [] := by
  rw [titled, h]
  rfl

lemma titled_of_ne (h : p.title ≠ []) : p.titled = ' ' :: '"' :: (p.title ++ ['"']) := by
  rw [titled, List.isEmpty_eq_false_iff.mpr h, if_neg Bool.false_ne_true]

end Picture

lemma imageText_eq {attributes : Attributes} (h : attributes.get "src" ≠ []) :
    imageText attributes = attributes.picture.clause := by
  rw [imageText, List.isEmpty_eq_false_iff.mpr h, if_neg Bool.false_ne_true]
  rfl

/-! ### Two ways to split a text -/

section Split

variable {α : Type} {a b c d : List α} {x y : α}

/-- A mark of two different characters does not overlap with itself. -/
lemma eq_or_goes_on (hxy : x ≠ y) {e : List α} (h : x :: y :: b = e ++ x :: y :: d) :
    (e = [] ∧ b = d) ∨ ∃ rest, e = x :: y :: rest ∧ b = rest ++ x :: y :: d := by
  match e with
  | [] =>
      obtain ⟨-, htail⟩ := List.cons.inj h
      exact Or.inl ⟨rfl, (List.cons.inj htail).2⟩
  | [first] =>
      obtain ⟨-, htail⟩ := List.cons.inj h
      exact absurd (List.cons.inj htail).1.symm hxy
  | first :: second :: rest =>
      obtain ⟨rfl, htail⟩ := List.cons.inj h
      obtain ⟨rfl, hrest⟩ := List.cons.inj htail
      exact Or.inr ⟨rest, rfl, hrest⟩

/-- Two ways to split a text at a mark are the same, or the first part of one of them goes on
behind the mark where the other is split. -/
lemma append_pair_eq_iff (hxy : x ≠ y) :
    a ++ x :: y :: b = c ++ x :: y :: d ↔ (a = c ∧ b = d) ∨
      (∃ rest, c = a ++ x :: y :: rest ∧ b = rest ++ x :: y :: d) ∨
      ∃ rest, a = c ++ x :: y :: rest ∧ d = rest ++ x :: y :: b := by
  constructor
  · intro h
    rcases List.append_eq_append_iff.mp h with ⟨e, rfl, htail⟩ | ⟨e, rfl, htail⟩
    · rcases eq_or_goes_on hxy htail with ⟨rfl, rfl⟩ | ⟨rest, rfl, rfl⟩
      · exact Or.inl ⟨(List.append_nil a).symm, rfl⟩
      · exact Or.inr (Or.inl ⟨rest, rfl, rfl⟩)
    · rcases eq_or_goes_on hxy htail with ⟨rfl, rfl⟩ | ⟨rest, rfl, rfl⟩
      · exact Or.inl ⟨List.append_nil c, rfl⟩
      · exact Or.inr (Or.inr ⟨rest, rfl, rfl⟩)
  · rintro (⟨rfl, rfl⟩ | ⟨rest, rfl, rfl⟩ | ⟨rest, rfl, rfl⟩) <;> simp

end Split

/-! ### Pictures that are written alike -/

namespace Picture

variable {p q : Picture}

/-- The source of a picture takes in the mark before the title of another: it goes on with a part of
this title. -/
def TakesTitle (p q : Picture) : Prop :=
  p.title ≠ [] ∧ ∃ rest, q.source = p.source ++ ' ' :: '"' :: rest ∧
    p.title ++ ['"'] = rest ++ q.titled

/-- The alternative text of a picture takes in the mark before the source of another: it goes on
with a part of what stands in the round brackets of this. -/
def TakesTarget (p q : Picture) : Prop :=
  ∃ rest, q.alternative = p.alternative ++ ']' :: '(' :: rest ∧
    p.target = rest ++ ']' :: '(' :: q.target

lemma TakesTitle.target_eq (h : TakesTitle p q) : p.target = q.target := by
  obtain ⟨htitle, rest, hsource, hrest⟩ := h
  rw [target, target, titled_of_ne htitle, hsource, hrest]
  simp

/-- The same stands in the round brackets of two pictures just when they have one source and title,
or one of them takes in the title of the other. -/
lemma target_eq_iff : p.target = q.target ↔
    (p.source = q.source ∧ p.title = q.title) ∨ TakesTitle p q ∨ TakesTitle q p := by
  constructor
  · intro h
    by_cases hp : p.title = []
    · by_cases hq : q.title = []
      · rw [target, target, titled_of_empty hp, titled_of_empty hq, List.append_nil,
          List.append_nil] at h
        exact Or.inl ⟨h, hp.trans hq.symm⟩
      · rw [target, target, titled_of_empty hp, titled_of_ne hq, List.append_nil] at h
        exact Or.inr (Or.inr ⟨hq, _, h, by rw [titled_of_empty hp, List.append_nil]⟩)
    · by_cases hq : q.title = []
      · rw [target, target, titled_of_ne hp, titled_of_empty hq, List.append_nil] at h
        exact Or.inr (Or.inl ⟨hp, _, h.symm, by rw [titled_of_empty hq, List.append_nil]⟩)
      · rw [target, target, titled_of_ne hp, titled_of_ne hq, append_pair_eq_iff (by decide)] at h
        rcases h with ⟨hsource, htitle⟩ | ⟨rest, hsource, htitle⟩ | ⟨rest, hsource, htitle⟩
        · exact Or.inl ⟨hsource, List.append_cancel_right htitle⟩
        · exact Or.inr (Or.inl ⟨hp, rest, hsource, by rw [titled_of_ne hq, htitle]⟩)
        · exact Or.inr (Or.inr ⟨hq, rest, hsource, by rw [titled_of_ne hp, htitle]⟩)
  · rintro (⟨hsource, htitle⟩ | htakes | htakes)
    · rw [target, target, titled, titled, hsource, htitle]
    · exact htakes.target_eq
    · exact htakes.target_eq.symm

/-- Two pictures are written alike just when they have the same texts, or one of them takes in a
mark of the other. -/
theorem clause_eq_iff : p.clause = q.clause ↔
    p = q ∨ (p.alternative = q.alternative ∧ (TakesTitle p q ∨ TakesTitle q p)) ∨
      TakesTarget p q ∨ TakesTarget q p := by
  have hsplit : p.clause = q.clause ↔
      p.alternative ++ ']' :: '(' :: p.target = q.alternative ++ ']' :: '(' :: q.target := by
    have hclause : ∀ p : Picture, p.clause
        = ['!', '['] ++ (p.alternative ++ ']' :: '(' :: p.target ++ [')']) := by
      intro p
      simp [clause]
    rw [hclause, hclause, List.append_cancel_left_eq, List.append_cancel_right_eq]
  rw [hsplit, append_pair_eq_iff (by decide), target_eq_iff, Picture.ext_iff, and_or_left, or_assoc]
  rfl

/-- A picture without a mark in its alternative text and its source. -/
structure IsPlain (p : Picture) : Prop where
  alternative : ¬[']', '('] <:+: p.alternative
  source : ¬[' ', '"'] <:+: p.source

lemma IsPlain.not_takesTitle (h : q.IsPlain) : ¬TakesTitle p q := by
  rintro ⟨-, rest, hsource, -⟩
  exact h.source ⟨p.source, rest, by simp [hsource]⟩

lemma IsPlain.not_takesTarget (h : q.IsPlain) : ¬TakesTarget p q := by
  rintro ⟨rest, halternative, -⟩
  exact h.alternative ⟨p.alternative, rest, by simp [halternative]⟩

/-- Plain pictures are told apart by how they are written. -/
lemma IsPlain.clause_eq_iff (hp : p.IsPlain) (hq : q.IsPlain) : p.clause = q.clause ↔ p = q := by
  rw [Picture.clause_eq_iff]
  simp [hp.not_takesTitle, hq.not_takesTitle, hp.not_takesTarget, hq.not_takesTarget]

end Picture

variable {attributes others : Attributes} {children children' : Forest}

/-- A picture with a source is written as its clause. -/
lemma Renderer.write_picture (h : attributes.get "src" ≠ []) (s : Surroundings) (t : Text) :
    Renderer.standard.write s (.element "img" attributes children) t
      = .ok attributes.picture.clause := by
  rw [Renderer.write_standard, if_pos (by rfl)]
  exact congrArg Except.ok (imageText_eq h)

/-- **Pictures** with sources are written alike just when they have the same alternative text,
source and title, or the source or the alternative text of one of them takes in a mark of the other.
Those without a mark in their alternative texts and sources are told apart. -/
theorem Renderer.write_picture_iff (hsource : attributes.get "src" ≠ [])
    (hsource' : others.get "src" ≠ []) (s s' : Surroundings) (t t' : Text) :
    (Renderer.standard.write s (.element "img" attributes children) t
        = Renderer.standard.write s' (.element "img" others children') t' ↔
      attributes.picture = others.picture ∨
      (attributes.get "alt" = others.get "alt" ∧
        (attributes.picture.TakesTitle others.picture ∨
          others.picture.TakesTitle attributes.picture)) ∨
      attributes.picture.TakesTarget others.picture ∨
      others.picture.TakesTarget attributes.picture) ∧
    (attributes.picture.IsPlain → others.picture.IsPlain →
      (Renderer.standard.write s (.element "img" attributes children) t
        = Renderer.standard.write s' (.element "img" others children') t' ↔
      attributes.picture = others.picture)) := by
  rw [Renderer.write_picture hsource, Renderer.write_picture hsource', Except.ok.injEq]
  exact ⟨Picture.clause_eq_iff, fun hplain hplain' => hplain.clause_eq_iff hplain'⟩

/-- A picture with quotes in its title. -/
def quotedTitle : Attributes := [("src", ['a']), ("title", "b\" \"c".toList)]

/-- A picture with quotes in its source. -/
def quotedSource : Attributes := [("src", "a \"b\"".toList), ("title", ['c'])]

/-- They are written alike, though neither their sources nor their titles are the same. -/
theorem Renderer.write_picture_iff_quoted :
    Renderer.standard.write .top (.element "img" quotedTitle []) []
        = Renderer.standard.write .top (.element "img" quotedSource []) [] ∧
      quotedTitle.get "src" ≠ quotedSource.get "src" ∧
      quotedTitle.get "title" ≠ quotedSource.get "title" ∧
      ¬quotedSource.picture.IsPlain := by
  have htakes : quotedTitle.picture.TakesTitle quotedSource.picture :=
    ⟨by decide +kernel, ['b', '"'], by decide +kernel, by decide +kernel⟩
  have hsource : quotedTitle.get "src" ≠ [] ∧ quotedSource.get "src" ≠ [] := by decide +kernel
  have halike := (@Renderer.write_picture_iff quotedTitle quotedSource [] [] hsource.1 hsource.2
    .top .top [] []).1
  exact ⟨halike.mpr (Or.inr (Or.inl ⟨by decide +kernel, Or.inl htakes⟩)), by decide +kernel,
    by decide +kernel, fun hplain => hplain.not_takesTitle htakes⟩

end PageNotes
