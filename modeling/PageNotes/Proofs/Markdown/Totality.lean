import PageNotes.Html.Builder
import PageNotes.Proofs.Markdown.Anchored
import PageNotes.Proofs.Markdown.Places

/-!
Which documents have a rendering. An element is rendered by its name, and the name may be that of a
function of the renderer that is no conversion: four of these fail, and four are rules, which then
write elements that they do not apply to. Apart from that only numbers are in the way: the start of
a list and the columns of a cell, where digits are taken for a number that cannot be read.

* `isReserved`, `namedRule?`: the names of the functions of the renderer;
* `misreads`: elements with a number that cannot be read;
* `Unwritable`: the elements that have no Markdown;
* `Renderer.write_isOk`: which elements are written;
* `Document.render_total`: a document has a rendering just when no element of it is unwritable, and
  an element of which nothing is known is what its children give.
-/

namespace PageNotes

/-! ### Names of elements -/

/-- Whether an element has the name of a function of the renderer that fails as a conversion. -/
def isReserved (name : String) : Bool :=
  ["identifier_rule", "structural", "soup", "fn_cache"].contains
    (String.ofList (conversionName name))

/-- The rule whose name an element has, so that it writes the element. -/
def namedRule? (name : String) : Option RenderRule :=
  match String.ofList (conversionName name) with
  | "image_rule" => some .image
  | "frame_rule" => some .embeddedFrame
  | "footnote_reference_rule" => some .footnoteReference
  | "footnote_body_rule" => some .footnoteBody
  | _ => none

/-- Whether Markdown has a conversion for an element. -/
def isConverted (name : String) : Bool :=
  ["a", "b", "strong", "em", "i", "del", "s", "sub", "sup", "code", "kbd", "samp", "q", "br", "img",
    "video", "p", "div", "article", "section", "dl", "blockquote", "hr", "ul", "ol", "list", "li",
    "dt", "dd", "pre", "table", "caption", "figcaption", "td", "th", "tr", "script",
    "style"].contains (String.ofList (conversionName name)) || (headingLevel? name).isSome

/-! ### Numbers -/

/-- Whether a text is taken for a number, all its characters being accepted, and cannot be read: a
character is no decimal digit, or there are too many of them. -/
def misread (accepted : Char → Bool) (digits : Text) : Bool :=
  !digits.isEmpty && digits.all accepted &&
    !(digits.all isDigit && digits.length ≤ integerDigitLimit)

/-- Whether the number of columns of a cell is misread. -/
def misreadsColumns (cell : Node) : Bool := misread isDigitSign (cell.attributes.get "colspan")

/-- Whether a number is misread for an element whose children give `t`: for an item with a text the
start of its list, for a cell and for a row with cells their columns. -/
def misreads (s : Surroundings) (node : Node) (t : Text) : Bool :=
  match String.ofList (conversionName (node.name?.getD "")) with
  | "li" => !(Text.strip t).isEmpty && s.parent?.any fun list =>
      list.name = "ol" && misread isNumeric (list.attributes.get "start")
  | "td" | "th" => misreadsColumns node
  | "tr" => (forestElements node.children).any fun cell =>
      cell.name?.any isCell && misreadsColumns cell
  | _ => false

section Numbers

variable {ε α β : Type}

@[simp] lemma isOk_ok (a : α) : (Except.ok a : Except ε α).isOk = true := rfl

@[simp] lemma isOk_error (e : ε) : (Except.error e : Except ε α).isOk = false := rfl

lemma isOk_iff {x : Except ε α} : x.isOk = true ↔ ∃ a, x = .ok a := by
  cases x <;> simp

lemma isOk_map (f : α → β) (x : Except ε α) : (x.map f).isOk = x.isOk := by
  cases x <;> rfl

end Numbers

/-- Digits have values, one for each. -/
lemma mapM_digitValue? (digits : Text) :
    (∃ ds, digits.mapM digitValue? = some ds ∧ digits.all isDigit = true ∧
      ds.length = digits.length) ∨
      (digits.mapM digitValue? = none ∧ digits.all isDigit = false) := by
  induction digits with
  | nil => exact Or.inl ⟨[], rfl, rfl, rfl⟩
  | cons c digits ih =>
      rw [List.mapM_cons, List.all_cons, isDigit]
      cases digitValue? c with
      | none => exact Or.inr ⟨rfl, rfl⟩
      | some d =>
          rcases ih with ⟨ds, hds, hall, hlength⟩ | ⟨hnone, hall⟩
          · exact Or.inl ⟨d :: ds, by rw [hds]; rfl, by rw [hall]; rfl,
              by rw [List.length_cons, List.length_cons, hlength]⟩
          · exact Or.inr ⟨by rw [hnone]; rfl, by rw [hall]; rfl⟩

lemma readNumber_isOk (digits : Text) :
    (readNumber digits).isOk
      = (digits.all isDigit && decide (digits.length ≤ integerDigitLimit)) := by
  rw [readNumber]
  rcases mapM_digitValue? digits with ⟨ds, hds, hall, hlength⟩ | ⟨hnone, hall⟩
  · rw [hds, hall, Bool.true_and, ← hlength]
    dsimp only
    rw [ofDecimalDigits]
    split_ifs with hmany
    · exact (decide_eq_false (Nat.not_le.mpr hmany)).symm
    · exact (decide_eq_true (Nat.not_lt.mp hmany)).symm
  · rw [hnone, hall]
    rfl

/-- What is taken for a number is read unless it is misread. -/
lemma number_isOk {α : Type} (accepted : Char → Bool) (digits : Text) (f : Nat → α) (a : α) :
    (if (!digits.isEmpty && digits.all accepted) = true then (readNumber digits).map f
      else .ok a).isOk = !misread accepted digits := by
  rw [misread]
  split_ifs with hnumber
  · rw [isOk_map, hnumber, readNumber_isOk, Bool.true_and, Bool.not_not]
  · rw [Bool.eq_false_iff.mpr hnumber]
    rfl

lemma columnSpan_isOk (cell : Node) :
    (columnSpan cell.attributes).isOk = !misreadsColumns cell :=
  number_isOk isDigitSign (cell.attributes.get "colspan") _ _

lemma totalSpan_isOk (cells : Forest) :
    (totalSpan cells).isOk = !cells.any misreadsColumns := by
  induction cells with
  | nil => rfl
  | cons cell rest ih =>
      rw [totalSpan, List.any_cons, Bool.not_or, ← ih, ← columnSpan_isOk]
      cases columnSpan cell.attributes with
      | error e => rfl
      | ok span => cases totalSpan rest <;> rfl

lemma itemMark_isOk (s : Surroundings) :
    (itemMark .standard s).isOk = !(s.parent?.any fun list =>
      list.name = "ol" && misread isNumeric (list.attributes.get "start")) := by
  rw [itemMark]
  cases hparent : s.parent? with
  | none => rfl
  | some list =>
      rw [Option.filter_some, Option.any_some]
      by_cases hol : list.name = "ol"
      · rw [if_pos (decide_eq_true hol), decide_eq_true hol, Bool.true_and]
        exact number_isOk isNumeric (list.attributes.get "start") _ _
      · rw [decide_eq_false hol, if_neg Bool.false_ne_true, Bool.false_and]
        simp [MarkdownOptions.standard]

lemma paragraphText_isOk (s : Surroundings) (t : Text) :
    (paragraphText .standard s t).isOk = true := by
  rw [paragraphText]
  dsimp only [MarkdownOptions.standard]
  split_ifs <;> rfl

lemma itemText_isOk (s : Surroundings) (t : Text) :
    (itemText .standard s t).isOk = ((Text.strip t).isEmpty || (itemMark .standard s).isOk) := by
  rw [itemText]
  split_ifs with hempty
  · rw [hempty]
    rfl
  · rw [isOk_map, Bool.eq_false_iff.mpr hempty, Bool.false_or]

lemma rowText_isOk (s : Surroundings) (children : Forest) (t : Text) :
    (rowText .standard s children t).isOk = !(forestElements children).any fun cell =>
      cell.name?.any isCell && misreadsColumns cell := by
  rw [← List.any_filter, ← totalSpan_isOk, rowText]
  dsimp only
  cases totalSpan ((forestElements children).filter fun node => node.name?.any isCell) with
  | error e => rfl
  | ok span =>
      simp only [bind, Except.bind]
      split_ifs <;> rfl

/-! ### Writing an element -/

lemma elementMarkdown_isOk (s : Surroundings) (name : String) (attributes : Attributes)
    (children : Forest) (t : Text) :
    (elementMarkdown .standard s name attributes children t).isOk
      = !(isReserved name || misreads s (.element name attributes children) t) := by
  rw [elementMarkdown]
  split
  case h_17 hname => simp [isReserved, misreads, Node.name?, hname, paragraphText_isOk]
  case h_27 hname =>
    simp [isReserved, misreads, Node.name?, hname, itemText_isOk, itemMark_isOk]
  case h_34 hname | h_35 hname =>
    simp only [isReserved, misreads, Node.name?, Option.getD_some, hname, cellText, isOk_map]
    exact columnSpan_isOk (.element name attributes children)
  case h_36 hname =>
    simp [isReserved, misreads, Node.name?, hname, rowText_isOk, Node.children]
  case h_43 hname | h_44 hname | h_45 hname | h_46 hname => simp [isReserved, hname]
  case h_47 hitem _ _ _ _ _ _ hcell hhead hrow _ _ _ _ _ _ hidentifier hstructural hsoup hcache =>
    have hreserved : isReserved name = false := by
      simp only [isReserved, List.contains_eq_mem, List.mem_cons, List.not_mem_nil, or_false,
        decide_eq_false_iff_not, not_or]
      exact ⟨hidentifier, hstructural, hsoup, hcache⟩
    have hnumber : misreads s (.element name attributes children) t = false := by
      rw [misreads]
      split
      case h_1 hname => exact absurd hname hitem
      case h_2 hname => exact absurd hname hcell
      case h_3 hname => exact absurd hname hhead
      case h_4 hname => exact absurd hname hrow
      case h_5 => rfl
    rw [hreserved, hnumber]
    split <;> rfl
  all_goals
    rename_i hname
    simp [isReserved, misreads, Node.name?, hname]

lemma structuralText_isOk (s : Surroundings) (name : String) (attributes : Attributes)
    (children : Forest) (t : Text) :
    (structuralText .standard s (.element name attributes children) t).isOk
      = !(isReserved name || misreads s (.element name attributes children) t) :=
  elementMarkdown_isOk s name attributes children t

/-- What the children of a cell give does not decide whether it is written. -/
lemma misreads_cell {name : String} (hcell : isCell name = true) (s : Surroundings)
    (attributes : Attributes) (children : Forest) (t t' : Text) :
    misreads s (.element name attributes children) t
      = misreads s (.element name attributes children) t' := by
  rcases (Bool.or_eq_true _ _).mp hcell with hname | hname
  · obtain rfl := of_decide_eq_true hname
    simp [misreads, Node.name?, conversionName]
  · obtain rfl := of_decide_eq_true hname
    simp [misreads, Node.name?, conversionName]

/-- An element with an identifier is written just when it would be without. -/
lemma anchoredText_isOk (s : Surroundings) (name : String) (attributes : Attributes)
    (children : Forest) (t : Text) :
    (anchoredText .standard s (.element name attributes children) t).isOk
      = (structuralText .standard s (.element name attributes children) t).isOk := by
  rw [anchoredText_eq]
  split_ifs with hplace
  · have hcell := ((Bool.and_eq_true _ _).mp hplace).1
    rw [structuralText_isOk, structuralText_isOk, misreads_cell hcell]
  · rw [isOk_map]

/-- Whether a rule gives an element a form that does not come from its structure. -/
def hasOwnForm (node : Node) : Bool :=
  node.named "img" || isEmbeddedFrame node || isFootnoteReference node || isFootnoteBody node

/-- An element is written unless its structure decides, and its name is reserved or a number is
misread. -/
theorem Renderer.write_isOk (s : Surroundings) (name : String) (attributes : Attributes)
    (children : Forest) (t : Text) :
    (Renderer.standard.write s (.element name attributes children) t).isOk
      = (hasOwnForm (.element name attributes children)
          || !(isReserved name || misreads s (.element name attributes children) t)) := by
  rw [write_standard, hasOwnForm]
  by_cases himage : (Node.element name attributes children).named "img" = true
  · rw [if_pos himage, himage]
    rfl
  rw [if_neg himage, Bool.eq_false_iff.mpr himage]
  by_cases hframe : isEmbeddedFrame (.element name attributes children) = true
  · rw [if_pos hframe, hframe]
    rfl
  rw [if_neg hframe, Bool.eq_false_iff.mpr hframe]
  by_cases hid : hasIdentifier (.element name attributes children) = true
  · have hfootnote := ((Bool.and_eq_true _ _).mp hid).2
    rw [Bool.not_eq_true', Bool.or_eq_false_iff] at hfootnote
    rw [if_pos hid, anchoredText_isOk, structuralText_isOk, hfootnote.1, hfootnote.2]
    rfl
  rw [if_neg hid]
  by_cases hreference : isFootnoteReference (.element name attributes children) = true
  · rw [if_pos hreference, hreference]
    rfl
  rw [if_neg hreference, Bool.eq_false_iff.mpr hreference]
  by_cases hbody : isFootnoteBody (.element name attributes children) = true
  · rw [if_pos hbody, hbody]
    rfl
  rw [if_neg hbody, Bool.eq_false_iff.mpr hbody, structuralText_isOk]
  rfl

/-! ### Rendering a document -/

/-- An element that has no Markdown at its place: no rule gives it a form of its own, and its name
is reserved or a number is misread for it. -/
structure Unwritable (s : Surroundings) (node : Node) : Prop where
  structural : hasOwnForm node = false
  fault : isReserved (node.name?.getD "") = true ∨
    ∃ t, node.content .standard s = .ok t ∧ misreads s node t = true

/-- An element whose children give a text is written just when it is not unwritable. -/
lemma Renderer.write_iff {s : Surroundings} {name : String} {attributes : Attributes}
    {children : Forest} {t : Text}
    (hcontent : (Node.element name attributes children).content .standard s = .ok t) :
    (∃ w, Renderer.standard.write s (.element name attributes children) t = .ok w) ↔
      ¬ Unwritable s (.element name attributes children) := by
  have hfault : (∃ t', (Node.element name attributes children).content .standard s = .ok t' ∧
      misreads s (.element name attributes children) t' = true) ↔
        misreads s (.element name attributes children) t = true := by
    simp [hcontent]
  have hunwritable : Unwritable s (.element name attributes children) ↔
      hasOwnForm (.element name attributes children) = false ∧ (isReserved name = true ∨
        misreads s (.element name attributes children) t = true) := by
    rw [← hfault]
    exact ⟨fun h => ⟨h.structural, h.fault⟩, fun h => ⟨h.1, h.2⟩⟩
  rw [hunwritable, ← isOk_iff, write_isOk]
  simp [or_iff_not_imp_left]

mutual
/-- An element has a rendering just when no element of it is unwritable. -/
theorem Node.render_iff (node : Node) (s : Surroundings) :
    (∃ w, node.render .standard s = .ok w) ↔
      ∀ place ∈ node.places s, ¬ Unwritable place.1 place.2 := by
  match node with
  | .element name attributes children =>
      have hbelow := forestRender_iff children (s.enter name attributes children) []
      rw [Node.places, List.forall_mem_cons, ← hbelow]
      -- whether the root is written may depend on what its children give, so these come first
      constructor
      · rintro ⟨w, hw⟩
        obtain ⟨t, hcontent, hwrite⟩ := Node.render_element.mp hw
        obtain ⟨parts, hparts, -⟩ := Node.content_element.mp hcontent
        exact ⟨(Renderer.write_iff hcontent).mp ⟨w, hwrite⟩, parts, hparts⟩
      · rintro ⟨hroot, parts, hparts⟩
        have hcontent := Node.content_element.mpr ⟨parts, hparts, rfl⟩
        obtain ⟨w, hwrite⟩ := (Renderer.write_iff hcontent).mpr hroot
        exact ⟨w, Node.render_element.mpr ⟨_, hcontent, hwrite⟩⟩
  | .text _ _ | .comment _ | .doctype _ => simp [Node.render, Node.places]

/-- A forest has a rendering just when no element of it is unwritable. -/
theorem forestRender_iff (forest : Forest) (around : Forest → Forest → Surroundings)
    (before : Forest) :
    (∃ parts, forestRender .standard around before forest = .ok parts) ↔
      ∀ place ∈ forestPlaces around before forest, ¬ Unwritable place.1 place.2 := by
  match forest with
  | [] => simp [forestRender, forestPlaces]
  | node :: rest =>
      have hnode := Node.render_iff node (around before rest)
      have hrest := forestRender_iff rest around (node :: before)
      rw [forestPlaces, List.forall_mem_append, ← hnode, ← hrest]
      simp only [forestRender_cons]
      cases hignored : (around before rest).ignores node with
      | true =>
          -- only texts, comments and document types are ignored, and these are always rendered
          cases node with
          | element => simp [Surroundings.ignores] at hignored
          | text | comment | doctype => simp [Node.render]
      | false =>
          simp only [Bool.false_eq_true, if_false]
          constructor
          · rintro ⟨_, part, others, hpart, hothers, -⟩
            exact ⟨⟨part, hpart⟩, others, hothers⟩
          · rintro ⟨⟨part, hpart⟩, others, hothers⟩
            exact ⟨_, part, others, hpart, hothers, rfl⟩
end

/-! ### Elements of which nothing is known -/

/-- An element is rendered by writing it with what its children give. -/
lemma Node.render_eq_bind (r : Renderer) (s : Surroundings) (name : String)
    (attributes : Attributes) (children : Forest) :
    (Node.element name attributes children).render r s =
      ((Node.element name attributes children).content r s).bind
        (r.write s (.element name attributes children)) := by
  rw [Node.render, Node.content]
  dsimp only [Node.name?, Option.getD_some, Node.attributes, Node.children]
  cases forestRender r (s.enter name attributes children) [] children with
  | error e => rfl
  | ok parts => rfl

/-- Without a conversion an element is what its children give, unless it has the name of a rule. -/
lemma elementMarkdown_unknown (o : MarkdownOptions) (s : Surroundings) {name : String}
    (hconverted : isConverted name = false) (hreserved : isReserved name = false)
    (attributes : Attributes) (children : Forest) (t : Text) :
    elementMarkdown o s name attributes children t =
      match namedRule? name with
      | none => .ok t
      | some rule => rule.write s (.element name attributes children) t := by
  rw [elementMarkdown]
  split
  case h_39 hname | h_40 hname | h_41 hname | h_42 hname =>
    simp only [namedRule?, hname]
    rfl
  case h_43 hname | h_44 hname | h_45 hname | h_46 hname => simp [isReserved, hname] at hreserved
  case h_47 himage hframe hreference hbody _ _ _ _ =>
    have hrule : namedRule? name = none := by
      rw [namedRule?]
      split
      case h_1 hname => exact absurd hname himage
      case h_2 hname => exact absurd hname hframe
      case h_3 hname => exact absurd hname hreference
      case h_4 hname => exact absurd hname hbody
      case h_5 => rfl
    have hheading : headingLevel? name = none := by
      rw [isConverted, Bool.or_eq_false_iff, Option.isSome_eq_false_iff,
        Option.isNone_iff_eq_none] at hconverted
      exact hconverted.2
    rw [hrule, hheading]
  all_goals
    rename_i hname
    simp [isConverted, hname] at hconverted

/-- **Rendering is total but for the functions of the renderer**: a document has a rendering just
when no element of it is unwritable. An element that no rule applies to and for which Markdown has
no conversion is what its children give, unless it has the name of such a function. -/
theorem Document.render_total (document : Forest) :
    ((∃ out, Document.render .standard document = .ok out) ↔
      ∀ place ∈ Document.places document, ¬ Unwritable place.1 place.2) ∧
    ∀ s name attributes children,
      firstRule? Renderer.standard.rules (.element name attributes children) = none →
      isConverted name = false → isReserved name = false →
      (Node.element name attributes children).render .standard s =
        match namedRule? name with
        | none => (Node.element name attributes children).content .standard s
        | some rule => ((Node.element name attributes children).content .standard s).bind
            (rule.write s (.element name attributes children)) := by
  constructor
  · rw [Document.places, ← forestRender_iff, Document.render, ← isOk_iff, isOk_map, isOk_iff]
  · intro s name attributes children hrule hconverted hreserved
    have hwrite : Renderer.standard.write s (.element name attributes children) = fun t =>
        match namedRule? name with
        | none => .ok t
        | some rule => rule.write s (.element name attributes children) t := by
      funext t
      rw [Renderer.write, hrule]
      exact elementMarkdown_unknown .standard s hconverted hreserved attributes children t
    rw [Node.render_eq_bind, hwrite]
    cases namedRule? name with
    | some rule => rfl
    | none =>
        cases (Node.element name attributes children).content .standard s with
        | error e => rfl
        | ok t => rfl

/-- An element named for the function that renders by structure. -/
def structuralElement : Node := .element "structural" [] [.text .plain ['x']]

/-- An element of which nothing is known. -/
def unknownElement : Node := .element "my-tag" [] [.text .plain ['x']]

/-- An element named for the rule for pictures. -/
def pictureRuleElement : Node := .element "image-rule" [] [.text .plain ['x']]

/-- A page with the first of them has no rendering; the second is its text, the third a picture
without a source. -/
theorem Document.render_total_structural :
    Document.parse "<p><structural>x</structural></p>".toList
        = [.element "html" [] [.element "body" [] [.element "p" [] [structuralElement]]]] ∧
      (¬ ∃ out, Document.render .standard
        [.element "html" [] [.element "body" [] [.element "p" [] [structuralElement]]]] = .ok out) ∧
      unknownElement.render .standard .top = .ok ['x'] ∧
      pictureRuleElement.render .standard .top = .ok [] := by
  refine ⟨by rfl, ?structural, ?unknown, ?picture⟩
  case structural =>
    intro hrendered
    have hall := (Document.render_total _).1.mp hrendered
    simp only [Document.places, forestPlaces, Node.places, structuralElement, List.append_nil,
      List.forall_mem_cons] at hall
    exact hall.2.2.2.1 ⟨by decide +kernel, Or.inl (by decide +kernel)⟩
  case unknown =>
    exact (Document.render_total []).2 .top "my-tag" [] [.text .plain ['x']] rfl
      (by decide +kernel) (by decide +kernel)
  case picture =>
    exact (Document.render_total []).2 .top "image-rule" [] [.text .plain ['x']] rfl
      (by decide +kernel) (by decide +kernel)

end PageNotes
