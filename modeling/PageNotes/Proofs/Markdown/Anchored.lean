import PageNotes.Proofs.Markdown.Carried

/-!
Putting identifiers in. But for cells, an identifier is put into the Markdown that the structure of
its element gives, at a place that depends on the kind of the element.

* `anchorInto`, `anchoredText_eq`: where the identifier of an element goes;
* `rowStart?_lead`, `itemStart?_lead`: what rows and list items start with;
* `Sturdy.anchoredText`: the sturdy parts of an element are in its Markdown with the identifier;
* `Targets`, `targets_anchorInto`: and so is the identifier itself.
-/

namespace PageNotes

/-! ### Starts of rows and list items -/

/-- The length of the mark of a list item at the start of a text, none if there is no such mark. -/
def markLength (t : Text) : Nat :=
  let digits := (t.takeWhile isDigit).length
  match t.drop digits with
  | '.' :: _ => if 0 < digits then digits + 1 else 0
  | c :: _ => if digits = 0 && (c = '-' || c = '*' || c = '+') then 1 else 0
  | [] => 0

/-- A list item starts with blanks, its mark and more blanks. -/
lemma itemStart?_eq (t : Text) :
    itemStart? t =
      let lead := (t.takeWhile isBlank).length
      let mark := markLength (t.drop lead)
      let space := (((t.drop lead).drop mark).takeWhile isBlank).length
      if 0 < mark && 0 < space then some (lead + mark + space) else none := rfl

variable {t : Text}

lemma isLeadChar_of_blank {c : Char} (h : isBlank c = true) : isLeadChar c = true := by
  rw [isLeadChar, h]
  rfl

lemma isLeadChar_takeWhile_blank (t : Text) :
    ∀ c ∈ t.take (t.takeWhile isBlank).length, isLeadChar c = true := by
  intro c hc
  rw [Text.take_takeWhile_length] at hc
  exact isLeadChar_of_blank (List.mem_takeWhile_imp hc)

/-- A row starts with blanks, a bar and a space, if there is one. -/
lemma rowStart?_eq_some {start : Nat} (h : rowStart? t = some start) :
    ∃ space, (space = [] ∨ space = [' ']) ∧
      t.take start = t.takeWhile isBlank ++ '|' :: space := by
  rw [rowStart?] at h
  split at h
  · rename_i rest hbar
    cases h
    refine ⟨[' '], Or.inr rfl, ?_⟩
    rw [List.take_add, hbar, Text.take_takeWhile_length]
    rfl
  · rename_i rest _ hbar
    cases h
    refine ⟨[], Or.inl rfl, ?_⟩
    rw [List.take_add, hbar, Text.take_takeWhile_length]
    rfl
  · cases h

/-- A row starts with lead characters, up to the place of its mark. -/
lemma rowStart?_lead {start : Nat} (h : rowStart? t = some start) :
    ∀ c ∈ t.take start, isLeadChar c = true := by
  obtain ⟨space, hspace, htake⟩ := rowStart?_eq_some h
  intro c hc
  rw [htake, List.mem_append, List.mem_cons] at hc
  rcases hc with hblank | rfl | hc
  · exact isLeadChar_of_blank (List.mem_takeWhile_imp hblank)
  · decide
  · rcases hspace with rfl | rfl
    · cases hc
    · rw [List.mem_singleton.mp hc]
      decide

/-- The mark of a list item is a number with a dot, or a dash, an asterisk or a plus sign. -/
lemma markLength_lead (t : Text) : ∀ c ∈ t.take (markLength t), isLeadChar c = true := by
  have hdigits : ∀ c ∈ t.take (t.takeWhile isDigit).length, isLeadChar c = true := by
    intro c hc
    rw [Text.take_takeWhile_length] at hc
    rw [isLeadChar, List.mem_takeWhile_imp hc, Bool.or_true]
    rfl
  rw [markLength]
  generalize (t.takeWhile isDigit).length = digits at hdigits ⊢
  intro c hc
  split at hc
  · rename_i rest hdot
    split_ifs at hc
    · rw [List.take_add, hdot, List.mem_append] at hc
      rcases hc with hc | hc
      · exact hdigits c hc
      · rw [List.take_succ_cons, List.take_zero, List.mem_singleton] at hc
        rw [hc]
        decide
    · simp at hc
  · rename_i bullet rest _ hbullet
    split_ifs at hc with hmark
    · simp only [Bool.and_eq_true, Bool.or_eq_true, decide_eq_true_eq] at hmark
      obtain ⟨hzero, hmark⟩ := hmark
      rw [hzero, List.drop_zero] at hbullet
      rw [hbullet, List.take_succ_cons, List.take_zero, List.mem_singleton] at hc
      rw [hc]
      rcases hmark with (rfl | rfl) | rfl <;> decide
    · simp at hc
  · simp at hc

/-- A list item starts with its mark, between blanks. -/
lemma itemStart?_lead {start : Nat} (h : itemStart? t = some start) :
    ∀ c ∈ t.take start, isLeadChar c = true := by
  intro c hc
  rw [itemStart?_eq] at h
  dsimp only at h
  split_ifs at h
  cases h
  rw [List.take_add, List.take_add, List.mem_append, List.mem_append] at hc
  rcases hc with (hc | hc) | hc
  · exact isLeadChar_takeWhile_blank t c hc
  · exact markLength_lead _ c hc
  · rw [← List.drop_drop] at hc
    exact isLeadChar_takeWhile_blank _ c hc

/-! ### Where identifiers go -/

/-- The headings whose identifier goes behind the text. -/
def isNumberedHeading (name : String) : Bool := ["h1", "h2", "h3", "h4", "h5", "h6"].contains name

/-- The Markdown of an element with its identifier, from that of its structure. -/
def anchorInto (s : Surroundings) (name : String) (identifier rendered : Text) : Text :=
  if isNumberedHeading name then anchorHeading identifier rendered
  else if s.verbatim then rendered
  else if isRowGroup name then anchorRows identifier rendered
  else if name = "li" then anchorItem identifier rendered
  else anchorOther name identifier rendered

/-- The identifier of a cell goes around its text, all others into what the structure gives. -/
lemma anchoredText_eq (o : MarkdownOptions) (s : Surroundings) (name : String)
    (attributes : Attributes) (children : Forest) (t : Text) :
    anchoredText o s (.element name attributes children) t =
      if isCell name && !s.verbatim then
        structuralText o s (.element name attributes children)
          (wrapCore (attributeText (attributes.get "id")) t)
      else (structuralText o s (.element name attributes children) t).map
        (anchorInto s name (attributeText (attributes.get "id"))) := by
  have hsame : ∀ rendered : Except RenderError Text, rendered.map (fun t => t) = rendered := by
    intro rendered
    cases rendered <;> rfl
  have hnumbered : ["h1", "h2", "h3", "h4", "h5", "h6"].contains name = isNumberedHeading name :=
    rfl
  simp only [anchoredText, Node.name?, Option.getD_some, Node.attributes, hnumbered]
  by_cases hheading : isNumberedHeading name = true
  · have hcell : isCell name = false := by
      simp only [isNumberedHeading, List.contains_iff_mem, List.mem_cons, List.not_mem_nil,
        or_false] at hheading
      rcases hheading with rfl | rfl | rfl | rfl | rfl | rfl <;> decide
    rw [if_pos hheading, hcell, Bool.false_and, if_neg Bool.false_ne_true]
    congr 1
    funext rendered
    rw [anchorInto, if_pos hheading]
  · rw [if_neg hheading]
    by_cases hverbatim : s.verbatim = true
    · rw [if_pos hverbatim, hverbatim, Bool.not_true, Bool.and_false, if_neg Bool.false_ne_true]
      have hinto : anchorInto s name (attributeText (attributes.get "id")) = fun t => t := by
        funext rendered
        rw [anchorInto, if_neg hheading, if_pos hverbatim]
      rw [hinto, hsame]
    · rw [if_neg hverbatim, eq_false_of_ne_true hverbatim, Bool.not_false, Bool.and_true]
      by_cases hcell : isCell name = true
      · simp only [hcell, if_true]
      · simp only [hcell, if_false, Bool.false_eq_true]
        have hinto : anchorInto s name (attributeText (attributes.get "id")) = fun rendered =>
            if isRowGroup name then anchorRows (attributeText (attributes.get "id")) rendered
            else if name = "li" then anchorItem (attributeText (attributes.get "id")) rendered
            else anchorOther name (attributeText (attributes.get "id")) rendered := by
          funext rendered
          rw [anchorInto, if_neg hheading, if_neg hverbatim]
        rw [hinto]
        by_cases hrow : isRowGroup name = true
        · simp only [hrow, if_true]
        · by_cases hitem : name = "li"
          · subst hitem
            simp only [hrow, if_true, if_false, Bool.false_eq_true]
          · simp only [hrow, hitem, if_false, Bool.false_eq_true]

/-! ### What is carried along -/

namespace Sturdy

variable {k : Text} {s : Surroundings}

lemma wrapCore (hk : Sturdy k) (identifier : Text) (h : k <:+: t) :
    k <:+: PageNotes.wrapCore identifier t := by
  have hcore := hk.strip h
  rw [PageNotes.wrapCore, hk.isEmpty_of_infix hcore, if_neg Bool.false_ne_true]
  exact left _ (left _ (right _ hcore))

lemma anchorHeading (hk : Sturdy k) (identifier : Text) (h : k <:+: t) :
    k <:+: PageNotes.anchorHeading identifier t := by
  have hbody := hk.stripEnd h
  rw [PageNotes.anchorHeading, hk.isEmpty_of_infix hbody, if_neg Bool.false_ne_true]
  exact left _ hbody

lemma drop_lead (hk : Sturdy k) {start : Nat} (hlead : ∀ c ∈ t.take start, isLeadChar c = true)
    (h : k <:+: t) : k <:+: t.drop start := by
  rw [← List.take_append_drop start t] at h
  exact hk.of_append hlead h

lemma anchorRows (hk : Sturdy k) (identifier : Text) (h : k <:+: t) :
    k <:+: PageNotes.anchorRows identifier t := by
  rw [PageNotes.anchorRows]
  cases hstart : rowStart? t with
  | none => exact right _ h
  | some start => exact right _ (hk.drop_lead (rowStart?_lead hstart) h)

lemma anchorItem (hk : Sturdy k) (identifier : Text) (h : k <:+: t) :
    k <:+: PageNotes.anchorItem identifier t := by
  rw [PageNotes.anchorItem]
  cases hstart : itemStart? t with
  | none => exact right _ h
  | some start =>
      have hrest := hk.drop_lead (itemStart?_lead hstart) h
      dsimp only
      rw [← List.takeWhile_append_dropWhile (p := (· ≠ '\n')) (l := t.drop start)] at hrest
      generalize (t.drop start).takeWhile (· ≠ '\n') = line at hrest ⊢
      generalize hbelow : (t.drop start).dropWhile (· ≠ '\n') = below at hrest ⊢
      cases below with
      | nil =>
          rw [List.append_nil] at hrest
          exact left _ (left _ (right _ hrest))
      | cons c below =>
          have hc : c = '\n' := Text.eq_of_dropWhile_ne hbelow
          rcases infix_of_append_cons hk.ne_nil (hc ▸ hk.newline_notMem) hrest with hline | hbelow
          · exact left _ (left _ (right _ hline))
          · exact right _ (cons _ hbelow)

lemma anchorOther (hk : Sturdy k) (name : String) (identifier : Text) (h : k <:+: t) :
    k <:+: PageNotes.anchorOther name identifier t := by
  rw [PageNotes.anchorOther]
  split_ifs
  · exact cons _ (cons _ (right _ h))
  · exact right _ h
  · exact right _ h
  · exact hk.wrapCore identifier h

lemma anchorInto (hk : Sturdy k) (name : String) (identifier : Text) (h : k <:+: t) :
    k <:+: PageNotes.anchorInto s name identifier t := by
  rw [PageNotes.anchorInto]
  split_ifs
  · exact hk.anchorHeading identifier h
  · exact h
  · exact hk.anchorRows identifier h
  · exact hk.anchorItem identifier h
  · exact hk.anchorOther name identifier h

/-- The Markdown of an element with its identifier holds the sturdy parts of what its children
give. -/
lemma anchoredText (hk : Sturdy k) {o : MarkdownOptions} (ho : o.wrap = false) {name : String}
    (hcode : isCode name = false) (hdrops : dropsContent name = false) {attributes : Attributes}
    {children : Forest} {w : Text} (h : k <:+: t)
    (hw : PageNotes.anchoredText o s (.element name attributes children) t = .ok w) : k <:+: w := by
  rw [anchoredText_eq] at hw
  split_ifs at hw
  · exact hk.structuralText ho hcode hdrops (hk.wrapCore _ h) hw
  · cases hrendered : PageNotes.structuralText o s (.element name attributes children) t with
    | error e =>
        rw [hrendered] at hw
        cases hw
    | ok rendered =>
        rw [hrendered] at hw
        cases hw
        exact hk.anchorInto name _ (hk.structuralText ho hcode hdrops h hrendered)

end Sturdy

/-! ### The identifier itself -/

/-- An identifier as it stands behind the text of a heading. -/
def headingMark (value : Text) : Text := '{' :: '#' :: (attributeText value ++ ['}'])

/-- Whether a text holds an identifier, as an attribute or behind the text of a heading. -/
def Targets (value t : Text) : Prop := attributePart "id" value <:+: t ∨ headingMark value <:+: t

lemma Targets.mono {value t w : Text} (h : Targets value t) (hw : t <:+: w) : Targets value w :=
  h.imp (·.trans hw) (·.trans hw)

lemma anchorOpening_eq (value : Text) :
    anchorOpening (attributeText value) = "<span ".toList ++ attributePart "id" value ++ ['>'] := by
  have hstart : "<span id=\"".toList = "<span ".toList ++ ("id".toList ++ ['=', '"']) := by
    decide +kernel
  unfold anchorOpening attributePart
  generalize "<span ".toList = before, "id".toList = name at hstart ⊢
  simp only [hstart, List.append_assoc, List.cons_append, List.nil_append]

lemma targets_anchorOpening (value : Text) : Targets value (anchorOpening (attributeText value)) :=
  Or.inl ⟨"<span ".toList, ['>'], (anchorOpening_eq value).symm⟩

lemma targets_emptyAnchor (value : Text) : Targets value (emptyAnchor (attributeText value)) :=
  (targets_anchorOpening value).mono (List.prefix_append _ _).isInfix

lemma targets_wrapCore (value t : Text) : Targets value (wrapCore (attributeText value) t) := by
  rw [wrapCore]
  split_ifs
  · exact (targets_emptyAnchor value).mono (List.suffix_append _ _).isInfix
  · exact (targets_anchorOpening value).mono (Sturdy.left _ (Sturdy.left _ (Sturdy.left _
      (List.suffix_append _ _).isInfix)))

/-- The identifier of an element is put in, but for code and for headings without text. -/
lemma targets_anchorInto (s : Surroundings) (hverbatim : s.verbatim = false) (name : String)
    (value rendered : Text)
    (hheading : isNumberedHeading name = true → rendered.allBlank = false) :
    Targets value (anchorInto s name (attributeText value) rendered) := by
  have hempty := targets_emptyAnchor value
  have hopening := targets_anchorOpening value
  rw [anchorInto]
  simp only [hverbatim, Bool.false_eq_true, if_false]
  split_ifs with hnumbered hrow hitem
  · have hbody := Text.stripEnd_isEmpty rendered
    rw [hheading hnumbered] at hbody
    rw [anchorHeading, hbody, if_neg Bool.false_ne_true]
    refine Or.inr ⟨Text.stripEnd rendered ++ [' '], rendered.drop (Text.stripEnd rendered).length,
      ?_⟩
    rw [headingMark]
    simp
  · rw [anchorRows]
    cases rowStart? rendered with
    | none => exact hempty.mono (List.prefix_append _ _).isInfix
    | some start =>
        exact hempty.mono (Sturdy.left _ (List.suffix_append _ _).isInfix)
  · rw [anchorItem]
    cases itemStart? rendered with
    | none => exact hempty.mono (List.prefix_append _ _).isInfix
    | some start =>
        exact hopening.mono (Sturdy.left _ (Sturdy.left _ (Sturdy.left _
          (List.suffix_append _ _).isInfix)))
  · rw [anchorOther]
    split_ifs
    · exact hempty.mono (Sturdy.cons _ (Sturdy.cons _ (List.prefix_append _ _).isInfix))
    · exact hempty.mono (List.prefix_append _ _).isInfix
    · exact hempty.mono (List.prefix_append _ _).isInfix
    · exact targets_wrapCore value rendered

end PageNotes
