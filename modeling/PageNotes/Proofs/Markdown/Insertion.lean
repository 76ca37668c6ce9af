import PageNotes.Proofs.Markdown.Marks
import PageNotes.Proofs.Text.Trim

/-!
Identifiers as insertions. An element with an identifier is written as its structure alone would be,
with markup put in at one place: nothing, the identifier behind the text of a heading, or the mark
of a place. Without this markup the rendering of the structure is left.

* `Insertion`, `Insertion.plain`, `Insertion.text`: a rendering without and with what is put in;
* `Insertion.Fits`: which insertion belongs to which element;
* `writtenIdentifier`: the identifier as it is written, which in a cell stands on one line;
* `cellText_wrapCore`: the mark in a cell, which is put in before the cell is one;
* `anchoredText_insertion`, `Renderer.write_identifier`: every element with an identifier is its
  rendering with an insertion.
-/

namespace PageNotes

/-! ### Insertions -/

/-- A rendering into which markup is put: nothing, the identifier behind its last text, or the mark
of a place. -/
inductive Insertion where
  | nothing (rendered : Text)
  | behind (body blanks : Text)
  | mark (m : Marked)

namespace Insertion

/-- The rendering without what is put in. -/
def plain : Insertion → Text
  | nothing rendered => rendered
  | behind body blanks => body ++ blanks
  | mark m => m.plain

/-- The rendering with the markup for an identifier put in. -/
def text (value : Text) : Insertion → Text
  | nothing rendered => rendered
  | behind body blanks => body ++ ' ' :: headingMark value ++ blanks
  | mark m => m.text (attributeText value)

/-- What is put into which element: into a heading the identifier behind the last character that is
no blank, if there is one, into other elements in code nothing, and else a mark, with line ends
before it only where it stands before a block. -/
def Fits (s : Surroundings) (name : String) : Insertion → Prop
  | nothing rendered =>
    if isNumberedHeading name then rendered.allBlank = true else s.verbatim = true
  | behind body blanks => isNumberedHeading name = true ∧
    (∃ c ∈ body.getLast?, isBlank c = false) ∧ blanks.allBlank = true
  | mark m => isNumberedHeading name = false ∧ s.verbatim = false ∧
    (m.lead = [] ∨ m.lead = ['\n', '\n'] ∧ m.before = [] ∧ m.inner = [] ∧
      m.after.head? = some '\n')

variable {s : Surroundings} {name : String} {i : Insertion}

/-- In code an insertion leaves a rendering as it is, but for a heading with text. -/
lemma text_eq_plain_iff (hfits : i.Fits s name) (hverbatim : s.verbatim = true) (value : Text) :
    i.text value = i.plain ↔ (isNumberedHeading name = true → i.plain.allBlank = true) := by
  cases i with
  | nothing rendered =>
      refine ⟨fun _ hheading => ?_, fun _ => rfl⟩
      rwa [Fits, if_pos hheading] at hfits
  | behind body blanks =>
      obtain ⟨hheading, ⟨c, hc, hblank⟩, -⟩ := hfits
      constructor
      · intro heq
        have hlength := congrArg List.length heq
        simp only [text, plain, headingMark, List.length_append, List.length_cons] at hlength
        omega
      · intro hblanks
        have hall := List.all_eq_true.mp (hblanks hheading) c
          (List.mem_append_left _ (List.mem_of_getLast? hc))
        rw [hblank] at hall
        cases hall
  | mark m =>
      rw [hfits.2.1] at hverbatim
      cases hverbatim

end Insertion

/-! ### Headings -/

/-- A heading gets its identifier behind its text, if it has any. -/
lemma anchorHeading_insertion (s : Surroundings) {name : String}
    (h : isNumberedHeading name = true) (value rendered : Text) :
    ∃ i : Insertion, anchorHeading (attributeText value) rendered = i.text value ∧
      i.plain = rendered ∧ i.Fits s name := by
  have hblank : (Text.stripEnd rendered).isEmpty = rendered.allBlank :=
    Text.stripEnd_isEmpty rendered
  by_cases hempty : rendered.allBlank = true
  · refine ⟨.nothing rendered, ?_, rfl, by rwa [Insertion.Fits, if_pos h]⟩
    rw [anchorHeading, hblank, if_pos hempty]
    rfl
  · refine ⟨.behind (Text.stripEnd rendered) (Text.takeEnd isBlank rendered), ?_,
      Text.trimEnd_append_takeEnd isBlank rendered, h, ?_, ?_⟩
    · rw [anchorHeading, hblank, if_neg hempty, Insertion.text, headingMark,
        ← Text.drop_trimEnd_length isBlank rendered]
      simp
    · have hne : Text.stripEnd rendered ≠ [] := by
        rwa [Ne, ← List.isEmpty_iff, hblank]
      have hlast := List.getLast?_eq_some_getLast hne
      exact ⟨_, hlast, Text.trimEnd_getLast isBlank rendered _ hlast⟩
    · exact List.all_eq_true.mpr fun c hc => Text.of_mem_takeEnd hc

/-! ### Cells -/

/-- A text on one line. -/
def oneLine (t : Text) : Text := Text.replaceChar '\n' [' '] t

/-- Spaces stand for the line ends. -/
lemma oneLine_eq_map (t : Text) : oneLine t = t.map fun c => if c = '\n' then ' ' else c := by
  rw [oneLine, Text.replaceChar, List.map_eq_flatMap]
  congr 1
  funext c
  split_ifs <;> rfl

/-- A text without line ends is on one line. -/
lemma oneLine_eq_self {t : Text} (h : '\n' ∉ t) : oneLine t = t := by
  rw [oneLine_eq_map]
  refine (List.map_congr_left fun c hc => if_neg ?_).trans (List.map_id' t)
  rintro rfl
  exact h hc

lemma oneLine_append (a b : Text) : oneLine (a ++ b) = oneLine a ++ oneLine b :=
  List.flatMap_append

/-- Line ends and quotes do not get into each other's way. -/
lemma oneLine_attributeText (value : Text) :
    oneLine (attributeText value) = attributeText (oneLine value) := by
  rw [oneLine, attributeText, attributeText, oneLine, Text.replaceChar, Text.replaceChar,
    Text.replaceChar, Text.replaceChar, List.flatMap_assoc, List.flatMap_assoc]
  congr 1
  funext c
  by_cases hquote : c = '"'
  · subst hquote
    decide
  · by_cases hline : c = '\n'
    · subst hline
      decide
    · rw [if_neg hquote, if_neg hline, List.flatMap_singleton, List.flatMap_singleton,
        if_neg hline, if_neg hquote]

/-- A mark on one line is the mark of the identifier on one line. -/
lemma oneLine_anchorOpening (value : Text) :
    oneLine (anchorOpening (attributeText value))
      = anchorOpening (attributeText (oneLine value)) := by
  obtain ⟨start, hopening, hstart⟩ : ∃ start, (∀ identifier,
      anchorOpening identifier = start ++ identifier ++ ['"', '>']) ∧ oneLine start = start :=
    ⟨"<span id=\"".toList, fun _ => rfl, by decide +kernel⟩
  have hend : oneLine ['"', '>'] = ['"', '>'] := by decide
  rw [hopening, hopening, oneLine_append, oneLine_append, hstart, hend, oneLine_attributeText]

/-- The mark of a place around the core of a text. -/
def coreMark (t : Text) : Marked :=
  if (Text.strip t).isEmpty then ⟨[], t, [], []⟩
  else ⟨[], t.takeWhile isBlank, Text.strip t,
    t.drop ((t.takeWhile isBlank).length + (Text.strip t).length)⟩

lemma wrapCore_eq (identifier t : Text) :
    wrapCore identifier t = (coreMark t).text identifier := by
  rw [wrapCore, coreMark]
  split_ifs
  · simp only [Marked.text, emptyAnchor, List.nil_append, List.append_nil, List.append_assoc]
  · simp only [Marked.text, List.nil_append]

lemma coreMark_plain (t : Text) : (coreMark t).plain = t := by
  rw [coreMark]
  split_ifs
  · simp [Marked.plain]
  · rw [Marked.plain, List.append_assoc, ← Text.stripStart_eq]
    exact List.takeWhile_append_dropWhile

/-- Outside the mark of a place around the core of a text there are blanks. -/
lemma coreMark_outside (t : Text) :
    (coreMark t).lead = [] ∧ (coreMark t).inner = Text.strip t ∧
      ∀ c ∈ (coreMark t).before ++ (coreMark t).after, isBlank c = true := by
  rw [coreMark]
  split_ifs with hempty
  · have hcore : Text.strip t = [] := List.isEmpty_iff.mp hempty
    refine ⟨rfl, hcore.symm, fun c hc => ?_⟩
    rw [List.append_nil] at hc
    exact List.dropWhile_eq_nil_iff.mp (Text.stripStart_eq_nil hcore) c hc
  · refine ⟨rfl, rfl, fun c hc => ?_⟩
    rcases List.mem_append.mp hc with hc | hc
    · exact List.mem_takeWhile_imp hc
    · rw [← List.drop_drop, Text.drop_takeWhile_length] at hc
      have hend : c ∈ Text.takeEnd isBlank (Text.stripStart t) := by
        rwa [← Text.drop_trimEnd_length]
      exact Text.of_mem_takeEnd hend

/-- Without the blanks at its ends a text with a mark around its core is the core in the mark. -/
lemma strip_wrapCore (identifier t : Text) :
    Text.strip (wrapCore identifier t)
      = anchorOpening identifier ++ Text.strip t ++ anchorClosing := by
  obtain ⟨hlead, hinner, hblanks⟩ := coreMark_outside t
  have hhead : (anchorOpening identifier ++ Text.strip t ++ anchorClosing).head? = some '<' := rfl
  have hlast : (anchorOpening identifier ++ Text.strip t ++ anchorClosing).getLast?
      = some '>' := by
    have hclosing : anchorClosing = ['<', '/', 's', 'p', 'a', 'n', '>'] := by decide +kernel
    rw [hclosing, List.getLast?_append_of_ne_nil _ (by simp)]
    rfl
  have htrimmed : Text.strip (anchorOpening identifier ++ Text.strip t ++ anchorClosing)
      = anchorOpening identifier ++ Text.strip t ++ anchorClosing := by
    refine Text.trim_eq_self (fun c hc => ?_) (fun c hc => ?_)
    · obtain rfl : '<' = c := Option.some.inj (hhead.symm.trans hc)
      decide
    · obtain rfl : '>' = c := Option.some.inj (hlast.symm.trans hc)
      decide
  have hsplit : wrapCore identifier t = (coreMark t).before
      ++ (anchorOpening identifier ++ Text.strip t ++ anchorClosing ++ (coreMark t).after) := by
    rw [wrapCore_eq, Marked.text, hlead, hinner]
    simp only [List.nil_append, List.append_assoc]
  rw [hsplit]
  exact (Text.trim_surrounded_iff.mpr hblanks).trans htrimmed

/-- A cell with the mark of a place is the cell with the mark put in around its text, which is on
one line then. -/
lemma cellText_wrapCore {attributes : Attributes} {t rendered : Text} (value : Text)
    (h : cellText attributes t = .ok rendered) :
    ∃ m : Marked, cellText attributes (wrapCore (attributeText value) t)
        = .ok (m.text (attributeText (oneLine value))) ∧ m.plain = rendered ∧ m.lead = [] := by
  rw [cellText] at h
  cases hspan : columnSpan attributes with
  | error e =>
      rw [hspan] at h
      cases h
  | ok span =>
      rw [hspan] at h
      cases h
      have hclosing : oneLine anchorClosing = anchorClosing := by decide +kernel
      have hline : Text.replaceChar '\n' [' '] (Text.strip (wrapCore (attributeText value) t))
          = anchorOpening (attributeText (oneLine value))
            ++ Text.replaceChar '\n' [' '] (Text.strip t) ++ anchorClosing := by
        rw [strip_wrapCore, ← oneLine, oneLine_append, oneLine_append, oneLine_anchorOpening,
          hclosing]
        rfl
      refine ⟨⟨[], [' '], Text.replaceChar '\n' [' '] (Text.strip t),
        (List.replicate span [' ', '|']).flatten⟩, ?_, ?_, rfl⟩
      · rw [cellText, hspan, Except.map, hline]
        simp only [Marked.text, List.nil_append, List.cons_append, List.append_assoc]
      · simp only [Marked.plain, List.nil_append, List.cons_append]

/-! ### Elements with identifiers -/

/-- Line ends are put before a mark only where it stands before a block. -/
lemma marked_lead (name : String) (rendered : Text) :
    (marked name rendered).lead = [] ∨ (marked name rendered).lead = ['\n', '\n'] ∧
      (marked name rendered).before = [] ∧ (marked name rendered).inner = [] ∧
      (marked name rendered).after.head? = some '\n' := by
  rw [marked]
  split_ifs with hrow hitem hblock hstart
  · cases rowStart? rendered <;> exact Or.inl rfl
  · cases itemStart? rendered <;> exact Or.inl rfl
  · exact Or.inr ⟨rfl, rfl, rfl, hstart⟩
  · exact Or.inl rfl
  · exact Or.inl rfl
  · exact Or.inl rfl

/-- The identifier of an element as it is written; in a cell it stands on one line. -/
def writtenIdentifier (o : MarkdownOptions) (s : Surroundings) (name : String) (value : Text) :
    Text :=
  if isCell name && !s.verbatim && o.elements.allows name then oneLine value else value

/-- Without line ends the identifier is written as it is. -/
lemma writtenIdentifier_eq_self {o : MarkdownOptions} {s : Surroundings} {name : String}
    {value : Text} (h : '\n' ∉ value) : writtenIdentifier o s name value = value := by
  rw [writtenIdentifier, oneLine_eq_self h, ite_self]

variable {o : MarkdownOptions} {name : String} {attributes : Attributes} {children : Forest}
  {s : Surroundings} {t rendered : Text}

/-- What is put into a rendering from outside is an insertion. -/
lemma anchorInto_insertion (s : Surroundings) (name : String) (value rendered : Text) :
    ∃ i : Insertion, anchorInto s name (attributeText value) rendered = i.text value ∧
      i.plain = rendered ∧ i.Fits s name := by
  by_cases hheading : isNumberedHeading name = true
  · obtain ⟨i, htext, hplain, hfits⟩ := anchorHeading_insertion s hheading value rendered
    exact ⟨i, by rw [anchorInto, if_pos hheading, htext], hplain, hfits⟩
  · by_cases hverbatim : s.verbatim = true
    · refine ⟨.nothing rendered, ?_, rfl, by rwa [Insertion.Fits, if_neg hheading]⟩
      rw [anchorInto, if_neg hheading, if_pos hverbatim]
      rfl
    · refine ⟨.mark (marked name rendered), ?_, marked_plain name rendered,
        eq_false_of_ne_true hheading, eq_false_of_ne_true hverbatim, marked_lead name rendered⟩
      exact anchorInto_eq (eq_false_of_ne_true hheading) (eq_false_of_ne_true hverbatim) _ _

lemma isNumberedHeading_cell (h : isCell name = true) : isNumberedHeading name = false := by
  rw [isCell, Bool.or_eq_true, decide_eq_true_eq, decide_eq_true_eq] at h
  rcases h with rfl | rfl <;> decide

lemma structuralText_cell (h : isCell name = true) (t : Text) :
    structuralText o s (.element name attributes children) t =
      if o.elements.allows name then cellText attributes t else .ok t := by
  rw [isCell, Bool.or_eq_true, decide_eq_true_eq, decide_eq_true_eq] at h
  rcases h with rfl | rfl <;> rfl

/-- Also in a cell, where the mark is put in first, it is an insertion into the rendering. -/
lemma structuralText_wrapCore (hcell : isCell name = true)
    (h : structuralText o s (.element name attributes children) t = .ok rendered) (value : Text) :
    ∃ m : Marked, structuralText o s (.element name attributes children)
        (wrapCore (attributeText value) t) = .ok (m.text (attributeText
          (if o.elements.allows name then oneLine value else value))) ∧
      m.plain = rendered ∧ m.lead = [] := by
  rw [structuralText_cell hcell] at h
  rw [structuralText_cell hcell]
  by_cases hallowed : o.elements.allows name = true
  · rw [if_pos hallowed] at h ⊢
    rw [if_pos hallowed]
    exact cellText_wrapCore value h
  · rw [if_neg hallowed] at h ⊢
    rw [if_neg hallowed]
    cases h
    exact ⟨coreMark t, by rw [wrapCore_eq], coreMark_plain t, (coreMark_outside t).1⟩

/-- Whether a cell can be written does not depend on what is in it. -/
lemma structuralText_cell_error (hcell : isCell name = true) {e : RenderError}
    (h : structuralText o s (.element name attributes children) t = .error e) (w : Text) :
    structuralText o s (.element name attributes children) w = .error e := by
  rw [structuralText_cell hcell] at h
  rw [structuralText_cell hcell]
  split_ifs at h with hallowed
  · rw [cellText] at h
    rw [if_pos hallowed, cellText]
    cases hspan : columnSpan attributes with
    | ok span =>
        rw [hspan] at h
        cases h
    | error other =>
        rw [hspan] at h
        cases h
        rfl

/-- With its identifier an element is its rendering with an insertion. -/
lemma anchoredText_insertion
    (h : structuralText o s (.element name attributes children) t = .ok rendered) :
    ∃ i : Insertion, anchoredText o s (.element name attributes children) t
        = .ok (i.text (writtenIdentifier o s name (attributes.get "id"))) ∧
      i.plain = rendered ∧ i.Fits s name := by
  rw [anchoredText_eq, writtenIdentifier]
  by_cases hcell : (isCell name && !s.verbatim) = true
  · obtain ⟨hname, hverbatim⟩ := Bool.and_eq_true_iff.mp hcell
    obtain ⟨m, htext, hplain, hlead⟩ := structuralText_wrapCore hname h (attributes.get "id")
    rw [if_pos hcell, hcell, Bool.true_and]
    exact ⟨.mark m, htext, hplain, isNumberedHeading_cell hname, by simpa using hverbatim,
      Or.inl hlead⟩
  · obtain ⟨i, htext, hplain, hfits⟩ :=
      anchorInto_insertion s name (attributes.get "id") rendered
    rw [if_neg hcell, eq_false_of_ne_true hcell, Bool.false_and, if_neg Bool.false_ne_true, h,
      Except.map, htext]
    exact ⟨i, rfl, hplain, hfits⟩

/-- An element that cannot be written without its identifier cannot be written with it. -/
lemma anchoredText_error {e : RenderError}
    (h : structuralText o s (.element name attributes children) t = .error e) :
    anchoredText o s (.element name attributes children) t = .error e := by
  rw [anchoredText_eq]
  split_ifs with hcell
  · exact structuralText_cell_error (Bool.and_eq_true_iff.mp hcell).1 h _
  · rw [h]
    rfl

section Write

variable (hid : hasIdentifier (.element name attributes children) = true) (himage : name ≠ "img")
  (hframe : isFrame name = false)
include hid himage hframe

/-- An element with an identifier is written by the rule for identifiers. -/
lemma Renderer.write_anchored (o : MarkdownOptions) (s : Surroundings) (t : Text) :
    Renderer.write ⟨o, RenderRule.standard o⟩ s (.element name attributes children) t
      = anchoredText o s (.element name attributes children) t := by
  have hpicture : RenderRule.image.applies (.element name attributes children) = false :=
    decide_eq_false himage
  have hembedded : RenderRule.embeddedFrame.applies (.element name attributes children) = false :=
    hframe
  have hidentifier : (RenderRule.identifier o).applies (.element name attributes children) = true :=
    hid
  rw [Renderer.write, firstRule?, RenderRule.standard, List.find?_cons, hpicture, List.find?_cons,
    hembedded, List.find?_cons, hidentifier]
  rfl

/-- **Identifiers are insertions**: an element with an identifier, but for pictures, frames and
parts of footnotes, is written just when its structure is, and as the rendering of this with an
insertion that fits the element; the identifier is written as it is unless it has line ends. In code
nothing is put in just when the element is no heading with text. -/
theorem Renderer.write_identifier (o : MarkdownOptions) (s : Surroundings) (t : Text) :
    (∀ e, structuralText o s (.element name attributes children) t = .error e →
      Renderer.write ⟨o, RenderRule.standard o⟩ s (.element name attributes children) t
        = .error e) ∧
    (∀ rendered, structuralText o s (.element name attributes children) t = .ok rendered →
      ∃ i : Insertion,
        Renderer.write ⟨o, RenderRule.standard o⟩ s (.element name attributes children) t
          = .ok (i.text (writtenIdentifier o s name (attributes.get "id"))) ∧
        i.plain = rendered ∧ i.Fits s name ∧
        (s.verbatim = true →
          (Renderer.write ⟨o, RenderRule.standard o⟩ s (.element name attributes children) t
            = .ok rendered ↔ (isNumberedHeading name = true → rendered.allBlank = true)))) ∧
    ('\n' ∉ attributes.get "id" →
      writtenIdentifier o s name (attributes.get "id") = attributes.get "id") := by
  rw [Renderer.write_anchored hid himage hframe]
  refine ⟨fun e => anchoredText_error, fun rendered hrendered => ?_, writtenIdentifier_eq_self⟩
  obtain ⟨i, htext, hplain, hfits⟩ := anchoredText_insertion hrendered
  refine ⟨i, htext, hplain, hfits, fun hverbatim => ?_⟩
  rw [htext, ← hplain, Except.ok.injEq]
  exact i.text_eq_plain_iff hfits hverbatim _

end Write

/-- A heading with an identifier. -/
def identifiedHeading : Node := .element "h2" [("id", ['x'])] [.text .plain ['T']]

/-- The surroundings of the only child of a `kbd` element. -/
def withinKeys : Surroundings := Surroundings.top.enter "kbd" [] [identifiedHeading] [] []

/-- A cell with an identifier and a heading in code with one: into the cell a mark is put, and into
the heading its identifier, though it stands in code. -/
theorem Renderer.write_identifier_coded :
    Renderer.standard.write .top (.element "td" [("id", ['c'])] []) " a\nb ".toList
        = .ok " <span id=\"c\">a b</span> |".toList ∧
      withinKeys.verbatim = true ∧
      structuralText .standard withinKeys identifiedHeading ['T'] = .ok "\n\n## T\n\n".toList ∧
      Renderer.standard.write withinKeys identifiedHeading ['T']
        = .ok "\n\n## T {#x}\n\n".toList ∧
      Renderer.standard.write withinKeys identifiedHeading ['T']
        ≠ .ok "\n\n## T\n\n".toList := by
  have hheading : structuralText .standard withinKeys identifiedHeading ['T']
      = .ok "\n\n## T\n\n".toList := by decide +kernel
  have hverbatim : withinKeys.verbatim = true := by decide
  have hid : hasIdentifier identifiedHeading = true := by decide +kernel
  obtain ⟨-, hinsertion, -⟩ := Renderer.write_identifier hid (by decide) (by decide) .standard
    withinKeys ['T']
  obtain ⟨_, -, -, -, hcode⟩ := hinsertion _ hheading
  refine ⟨by decide +kernel, hverbatim, hheading, by decide +kernel, fun hsame => ?_⟩
  have hblank := (hcode hverbatim).mp hsame (by decide)
  exact absurd hblank (by decide +kernel)

end PageNotes
