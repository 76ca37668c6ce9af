import Mathlib.Tactic.IntervalCases
import PageNotes.Proofs.Markdown.Anchored
import PageNotes.Proofs.Markdown.Places
import PageNotes.Proofs.Text.Numerals

/-!
The marks of places and the marks of blocks. An identifier is put in as the mark of a place, an
element around a part of a line. A block, such as a heading or a list, is told by the mark that its
first line starts with, and is one no more when the mark of a place stands before that.

* `opensBlock`: whether a line starts with the mark of a block;
* `Marked`: a rendering with the mark of a place, and whether it covers the mark of a block;
* `marked`, `anchorInto_eq`: where the mark of a place is put;
* `coversBlock`, `marked_covers`: when it covers the mark of a block;
* `Node.render_marked`, `Document.marks_cover`: this for every element of every document.
-/

namespace PageNotes

/-! ### Marks of blocks -/

/-- Number signs of a heading at the start of a line. -/
def opensHeading (line : Text) : Bool :=
  let level := (line.takeWhile (· = '#')).length
  0 < level && level ≤ 6 && endsMark (line.drop level)

/-- A bullet at the start of a line. -/
def opensBullet : Text → Bool
  | c :: rest => (c = '-' || c = '*' || c = '+') && endsMark rest
  | [] => false

/-- The number of a list item at the start of a line. -/
def opensNumber (line : Text) : Bool :=
  let digits := (line.takeWhile isAsciiDigit).length
  0 < digits && digits ≤ 9 && match line.drop digits with
    | c :: rest => (c = '.' || c = ')') && endsMark rest
    | [] => false

/-- A rule across the page. -/
def opensRule : Text → Bool
  | c :: rest =>
    (c = '-' || c = '*' || c = '_') && rest.all (fun d => d = c || isLineSpace d) &&
      2 ≤ rest.count c
  | [] => false

/-- Whether a line starts with the mark of a block: of a heading, a list item, a quotation, a table,
a block of code or a rule. -/
def opensBlock (line : Text) : Bool :=
  opensHeading line || opensBullet line || opensNumber line || line.head? = some '>' ||
    line.head? = some '|' || fenceMark.isPrefixOf line || opensRule line

/-- What holds of ten characters holds of all digits. -/
lemma of_isAsciiDigit {p : Char → Bool} {c : Char} (h : isAsciiDigit c = true)
    (hp : ['0', '1', '2', '3', '4', '5', '6', '7', '8', '9'].all p = true) : p c = true := by
  simp only [isAsciiDigit, Bool.and_eq_true, decide_eq_true_eq] at h
  have hlow : 48 ≤ c.toNat := h.1
  have hhigh : c.toNat ≤ 57 := h.2
  have hmem : c ∈ ['0', '1', '2', '3', '4', '5', '6', '7', '8', '9'] := by
    rw [← Char.ofNat_toNat c]
    interval_cases c.toNat <;> decide
  exact List.all_eq_true.mp hp c hmem

lemma isBlank_of_isAsciiDigit {c : Char} (h : isAsciiDigit c = true) : isBlank c = false := by
  have hnot : (!isBlank c) = true := of_isAsciiDigit (p := fun d => !isBlank d) h (by decide)
  simpa using hnot

lemma isDigit_of_isAsciiDigit {c : Char} (h : isAsciiDigit c = true) : isDigit c = true :=
  of_isAsciiDigit h (by decide)

/-- The mark of a block does not start with a blank. -/
lemma opensBlock_eq_false {line : Text} (h : ∀ c ∈ line.head?, isBlank c = true) :
    opensBlock line = false := by
  cases line with
  | nil => decide
  | cons c rest =>
      have hblank : isBlank c = true := h c rfl
      have hne : ∀ d, isBlank d = false → c ≠ d := by
        rintro d hd rfl
        rw [hblank] at hd
        cases hd
      have hdigit : isAsciiDigit c = false := by
        refine eq_false_of_ne_true fun hdigit => ?_
        exact hne c (isBlank_of_isAsciiDigit hdigit) rfl
      simp [opensBlock, opensHeading, opensBullet, opensNumber, opensRule, fenceMark, hdigit,
        hne '#' (by decide), hne '-' (by decide), hne '*' (by decide), hne '+' (by decide),
        hne '_' (by decide), hne '>' (by decide), hne '|' (by decide),
        (hne '`' (by decide)).symm, List.isPrefixOf]

/-! ### First lines -/

/-- The first line of a text. -/
def firstLine (t : Text) : Text := t.takeWhile (· ≠ '\n')

lemma newline_notMem_firstLine (t : Text) : '\n' ∉ firstLine t := by
  intro hmem
  have hne := List.mem_takeWhile_imp hmem
  simp at hne

/-- A text without line ends goes on the line that follows it. -/
lemma firstLine_append {a : Text} (ha : '\n' ∉ a) (b : Text) :
    firstLine (a ++ b) = a ++ firstLine b := by
  rw [firstLine, List.takeWhile_append_of_pos]
  · rfl
  · intro c hc
    rw [decide_eq_true_eq]
    rintro rfl
    exact ha hc

lemma firstLine_newline (t : Text) : firstLine ('\n' :: t) = [] := rfl

/-- The first line of a text starts as the text does, if it has anything. -/
lemma head?_firstLine {t : Text} {c : Char} (h : c ∈ (firstLine t).head?) : c ∈ t.head? := by
  cases t with
  | nil => exact h
  | cons d t =>
      rw [firstLine, List.takeWhile_cons] at h
      split_ifs at h
      · exact h
      · cases h

lemma opensBlock_firstLine_eq_false {t : Text} (h : ∀ c ∈ t.head?, isBlank c = true) :
    opensBlock (firstLine t) = false :=
  opensBlock_eq_false fun c hc => h c (head?_firstLine hc)

/-! ### The mark of a place -/

/-- A rendering with the mark of a place: line ends put before it, the part before the mark, the
part inside and the part behind it. -/
structure Marked where
  lead : Text
  before : Text
  inner : Text
  after : Text

namespace Marked

/-- The rendering without the mark. -/
def plain (m : Marked) : Text := m.before ++ m.inner ++ m.after

/-- The rendering with the mark. -/
def text (identifier : Text) (m : Marked) : Text :=
  m.lead ++ m.before ++ anchorOpening identifier ++ m.inner ++ anchorClosing ++ m.after

/-- What stands in the rendering from the place of the mark to the end of the line. -/
def line (m : Marked) : Text := m.inner ++ firstLine m.after

/-- Whether the mark covers the mark of a block: it holds the text that a block starts with, or it
stands before this at the start of a line. -/
def covers (m : Marked) : Bool :=
  (!m.inner.isEmpty || Text.allBlank (Text.takeEnd (· ≠ '\n') m.before)) && opensBlock m.line

/-- A rendering with the mark before it. -/
def ahead (lead rendered : Text) : Marked := ⟨lead, [], [], rendered⟩

@[simp] lemma ahead_covers (lead rendered : Text) :
    (ahead lead rendered).covers = opensBlock (firstLine rendered) := rfl

lemma ahead_text (lead rendered identifier : Text) :
    (ahead lead rendered).text identifier = lead ++ (emptyAnchor identifier ++ rendered) := by
  simp [ahead, text, emptyAnchor]

/-- A mark that holds something covers the mark of a block just when this stands there. -/
lemma covers_of_inner {m : Marked} (h : m.inner ≠ []) : m.covers = opensBlock m.line := by
  rw [covers, List.isEmpty_eq_false_iff.mpr h, Bool.not_false, Bool.true_or, Bool.true_and]

end Marked

/-- Where the mark of a place is put into the rendering of an element. -/
def marked (name : String) (rendered : Text) : Marked :=
  let core := Text.strip rendered
  let blanks := rendered.takeWhile isBlank
  if isRowGroup name then
    match rowStart? rendered with
    | none => .ahead [] rendered
    | some start => ⟨[], rendered.take start, [], rendered.drop start⟩
  else if name = "li" then
    match itemStart? rendered with
    | none => .ahead [] rendered
    | some start => ⟨[], rendered.take start, firstLine (rendered.drop start),
        (rendered.drop start).dropWhile (· ≠ '\n')⟩
  else if isStructuralBlock name || core.contains '\n' then
    .ahead (if rendered.head? = some '\n' then ['\n', '\n'] else []) rendered
  else if core.isEmpty then .ahead [] rendered
  else ⟨[], blanks, core, rendered.drop (blanks.length + core.length)⟩

/-- This is where an identifier goes, but for headings and code. -/
lemma anchorInto_eq {s : Surroundings} {name : String} (hheading : isNumberedHeading name = false)
    (hverbatim : s.verbatim = false) (identifier rendered : Text) :
    anchorInto s name identifier rendered = (marked name rendered).text identifier := by
  rw [anchorInto, marked]
  simp only [hheading, hverbatim, Bool.false_eq_true, if_false]
  split_ifs with hrow hitem hblock hstart hempty
  · rw [anchorRows]
    cases rowStart? rendered with
    | none => simp [Marked.ahead_text]
    | some start => simp [Marked.text, emptyAnchor]
  · rw [anchorItem]
    cases itemStart? rendered with
    | none => simp [Marked.ahead_text]
    | some start => simp [Marked.text, firstLine]
  · rw [anchorOther, if_pos hblock, if_pos hstart, Marked.ahead_text]
    rfl
  · rw [anchorOther, if_pos hblock, if_neg hstart, Marked.ahead_text]
    rfl
  · rw [anchorOther, if_neg hblock, if_pos hempty, Marked.ahead_text]
    rfl
  · rw [anchorOther, if_neg hblock, if_neg hempty, wrapCore, if_neg hempty]
    rfl

/-! ### The parts of a rendering -/

/-- Without the mark the rendering is as it was. -/
lemma marked_plain (name : String) (rendered : Text) : (marked name rendered).plain = rendered := by
  rw [marked]
  split_ifs
  · cases rowStart? rendered with
    | none => rfl
    | some start => simp [Marked.plain]
  · cases itemStart? rendered with
    | none => rfl
    | some start => simp [Marked.plain, firstLine]
  · rfl
  · rfl
  · rfl
  · rw [Marked.plain, List.append_assoc, ← Text.stripStart_eq]
    exact List.takeWhile_append_dropWhile

/-- The mark holds a part of a line. -/
lemma newline_notMem_inner (name : String) (rendered : Text) :
    '\n' ∉ (marked name rendered).inner := by
  rw [marked]
  split_ifs with hrow hitem hblock hstart hempty
  · cases rowStart? rendered with
    | none => exact List.not_mem_nil
    | some start => exact List.not_mem_nil
  · cases itemStart? rendered with
    | none => exact List.not_mem_nil
    | some start => exact newline_notMem_firstLine _
  · exact List.not_mem_nil
  · exact List.not_mem_nil
  · exact List.not_mem_nil
  · intro hmem
    exact hblock (by simp [show '\n' ∈ Text.strip rendered from hmem])

/-! ### Covered marks -/

/-- A character with others of a class behind it is among those at the end. -/
lemma mem_takeEnd {p : Char → Bool} {c : Char} {b : Text} (hc : p c = true)
    (hb : ∀ d ∈ b, p d = true) (a : Text) : c ∈ Text.takeEnd p (a ++ c :: b) := by
  rw [Text.takeEnd, List.mem_reverse, List.reverse_append, List.reverse_cons, List.append_assoc,
    List.takeWhile_append_of_pos (by simpa using hb), List.singleton_append, List.takeWhile_cons,
    if_pos hc]
  simp

/-- In a row the mark of a place stands behind the bar. -/
lemma covers_row {rendered : Text} {start : Nat} (h : rowStart? rendered = some start) :
    (⟨[], rendered.take start, [], rendered.drop start⟩ : Marked).covers = false := by
  obtain ⟨space, hspace, htake⟩ := rowStart?_eq_some h
  have hbar : '|' ∈ Text.takeEnd (· ≠ '\n') (rendered.take start) := by
    rw [htake]
    refine mem_takeEnd (by decide) (fun d hd => ?_) _
    rcases hspace with rfl | rfl
    · cases hd
    · rw [List.mem_singleton.mp hd]
      decide
  have hblank : Text.allBlank (Text.takeEnd (· ≠ '\n') (rendered.take start)) = false := by
    refine eq_false_of_ne_true fun hall => ?_
    have hno := List.all_eq_true.mp hall '|' hbar
    revert hno
    decide
  rw [Marked.covers, hblank]
  rfl

lemma firstLine_dropWhile (t : Text) : firstLine (t.dropWhile (· ≠ '\n')) = [] := by
  cases hdrop : t.dropWhile (· ≠ '\n') with
  | nil => rfl
  | cons c rest =>
      rw [Text.eq_of_dropWhile_ne hdrop, firstLine_newline]

/-- In a list item the mark covers the mark of a block that its text starts with. -/
lemma covers_item (before t : Text) :
    (⟨[], before, firstLine t, t.dropWhile (· ≠ '\n')⟩ : Marked).covers
      = opensBlock (firstLine t) := by
  have hline : (⟨[], before, firstLine t, t.dropWhile (· ≠ '\n')⟩ : Marked).line = firstLine t := by
    rw [Marked.line, firstLine_dropWhile, List.append_nil]
  by_cases hempty : firstLine t = []
  · rw [Marked.covers, hline, hempty, show opensBlock [] = false by decide, Bool.and_false]
  · rw [Marked.covers_of_inner hempty, hline]

/-- Around the core of a line the mark covers the mark of a block that the core starts with. -/
lemma covers_core {rendered : Text} (hne : (Text.strip rendered).isEmpty = false)
    (hline : '\n' ∉ Text.strip rendered) :
    (⟨[], rendered.takeWhile isBlank, Text.strip rendered, rendered.drop
      ((rendered.takeWhile isBlank).length + (Text.strip rendered).length)⟩ : Marked).covers
        = opensBlock (firstLine (Text.stripStart rendered)) := by
  rw [Marked.covers_of_inner (List.isEmpty_eq_false_iff.mp hne), Marked.line, Text.stripStart_eq,
    firstLine_append hline]

section Structure

variable {o : MarkdownOptions} {s : Surroundings} {name : String} {attributes : Attributes}
  {children : Forest} {t w : Text}

/-- A row starts with a bar. -/
lemma rowText_head (h : rowText o s children t = .ok w) : w.head? = some '|' := by
  rw [rowText] at h
  generalize totalSpan _ = span at h
  cases span with
  | error e => cases h
  | ok span =>
      simp only [bind, Except.bind] at h
      split_ifs at h
      all_goals
        cases h
        rfl

lemma rowStart?_of_head (h : w.head? = some '|') : ∃ start, rowStart? w = some start := by
  cases w with
  | nil => cases h
  | cons c rest =>
      cases Option.some.inj h
      have hlead : (('|' :: rest : Text).takeWhile isBlank).length = 0 := by
        rw [List.takeWhile_cons, if_neg (by decide)]
        rfl
      rw [rowStart?, hlead, List.drop_zero]
      split
      · exact ⟨_, rfl⟩
      · exact ⟨_, rfl⟩
      · rename_i hno
        exact absurd rfl (hno rest)

/-- A structural block starts with a line end, or with a space if it stands within a line. -/
lemma structuralBlock_head (hblock : isStructuralBlock name = true)
    (h : elementMarkdown o s name attributes children t = .ok w) :
    ∀ c ∈ w.head?, isBlank c = true := by
  have hstart : ∀ {c : Char} {rest : Text}, isBlank c = true →
      ∀ d ∈ (c :: rest).head?, isBlank d = true := by
    intro c rest hc d hd
    cases hd
    exact hc
  simp only [isStructuralBlock, List.contains_iff_mem, List.mem_cons, List.not_mem_nil,
    or_false] at hblock
  rcases hblock with rfl | rfl | rfl | rfl | rfl | rfl | rfl
  · have hlist : Except.ok (listText s t) = Except.ok w := h
    cases hlist
    rw [listText]
    split_ifs <;> exact hstart (by decide)
  · have hlist : Except.ok (listText s t) = Except.ok w := h
    cases hlist
    rw [listText]
    split_ifs <;> exact hstart (by decide)
  · have hdivision : Except.ok (divisionText s t) = Except.ok w := h
    cases hdivision
    rw [divisionText, blockText]
    split_ifs
    · exact hstart (by decide)
    · simp
    · exact hstart (by decide)
  · have htable : Except.ok (tableText t) = Except.ok w := h
    cases htable
    exact hstart (by decide)
  · have hcode : Except.ok (codeBlockText s (.element "pre" attributes children))
        = Except.ok w := h
    cases hcode
    rw [codeBlockText]
    split <;> exact hstart (by decide)
  · have hquote : Except.ok (blockquoteText s t) = Except.ok w := h
    cases hquote
    rw [blockquoteText]
    split_ifs <;> exact hstart (by decide)
  · have hrule : Except.ok ruleText = Except.ok w := h
    cases hrule
    rw [show ruleText = ['\n', '\n', '-', '-', '-', '\n', '\n'] by decide]
    exact hstart (by decide)

/-! ### List items -/

/-- In notes the mark of an item is a dash or a number with a dot, and a space. -/
lemma itemMark_standard {mark : Text} (h : itemMark .standard s = .ok mark) :
    ∃ sign, mark = sign ++ [' '] ∧ (sign = ['-'] ∨ ∃ n, sign = Text.ofNat n ++ ['.']) := by
  rw [itemMark] at h
  split at h
  · dsimp only at h
    split_ifs at h
    · generalize readNumber _ = first at h
      cases first with
      | error e => cases h
      | ok first =>
          cases h
          exact ⟨_, (List.append_assoc _ ['.'] [' ']).symm, Or.inr ⟨_, rfl⟩⟩
    · cases h
      exact ⟨_, (List.append_assoc _ ['.'] [' ']).symm, Or.inr ⟨_, rfl⟩⟩
  · simp only [MarkdownOptions.standard, List.length_singleton, Nat.mod_one,
      List.getD_cons_zero, one_ne_zero, if_false] at h
    cases h
    exact ⟨['-'], rfl, Or.inl rfl⟩

/-- The sign of an item is one as long as it is. -/
lemma markLength_sign {sign : Text} (h : sign = ['-'] ∨ ∃ n, sign = Text.ofNat n ++ ['.'])
    (rest : Text) :
    markLength (sign ++ rest) = sign.length ∧ 0 < sign.length ∧
      ∀ c ∈ (sign ++ rest).head?, isBlank c = false := by
  rcases h with rfl | ⟨n, rfl⟩
  · refine ⟨rfl, by decide, ?_⟩
    intro c hc
    cases hc
    decide
  · have hdigits : ((Text.ofNat n ++ ['.']) ++ rest).takeWhile isDigit = Text.ofNat n := by
      rw [List.append_assoc, List.takeWhile_append_of_pos fun c hc =>
          isDigit_of_isAsciiDigit (Text.isAsciiDigit_of_mem_ofNat hc),
        List.singleton_append, List.takeWhile_cons, if_neg (by decide), List.append_nil]
    have hpos : 0 < (Text.ofNat n).length := List.length_pos_of_ne_nil (Text.ofNat_ne_nil n)
    refine ⟨?_, by simp, ?_⟩
    · rw [markLength, hdigits, List.append_assoc, List.drop_left]
      simp [hpos]
    · obtain ⟨d, digits, hcons, hdigit⟩ := Text.ofNat_eq_cons n
      rw [hcons]
      intro c hc
      cases hc
      exact isBlank_of_isAsciiDigit hdigit

/-- Behind the mark of an item its text starts. -/
lemma itemStart?_mark {mark rest : Text} (hmark : itemMark .standard s = .ok mark)
    (hne : rest ≠ []) (hrest : ∀ c ∈ rest.head?, isBlank c = false) :
    itemStart? (mark ++ rest) = some mark.length := by
  obtain ⟨sign, rfl, hsign⟩ := itemMark_standard hmark
  have hspace : ((' ' :: rest).takeWhile isBlank).length = 1 := by
    obtain ⟨c, rest, rfl⟩ := List.exists_cons_of_ne_nil hne
    rw [List.takeWhile_cons, if_pos (by decide), List.takeWhile_cons, hrest c rfl]
    rfl
  rw [List.append_assoc, List.singleton_append]
  obtain ⟨hlength, hpos, hhead⟩ := markLength_sign hsign (' ' :: rest)
  have hlead : ((sign ++ ' ' :: rest).takeWhile isBlank).length = 0 := by
    obtain ⟨c, sign, rfl⟩ := List.exists_cons_of_ne_nil (List.ne_nil_of_length_pos hpos)
    rw [List.cons_append, List.takeWhile_cons, hhead c rfl]
    rfl
  rw [itemStart?_eq]
  dsimp only
  rw [hlead, List.drop_zero, hlength, List.drop_left, hspace]
  simp [hpos]

/-- The first line of a text is the first of its lines. -/
lemma split_eq (t : Text) : ∃ pieces, Text.split '\n' t = firstLine t :: pieces := by
  induction t with
  | nil => exact ⟨[], rfl⟩
  | cons c t ih =>
      obtain ⟨pieces, hpieces⟩ := ih
      by_cases hc : c = '\n'
      · subst hc
        exact ⟨Text.split '\n' t, by simp [Text.split, firstLine]⟩
      · exact ⟨pieces, by simp [Text.split, firstLine, hc, hpieces]⟩

/-- The first line of an indented text is that of the text, behind the indentation. -/
lemma firstLine_indentLines (width : Nat) {t : Text} (hne : firstLine t ≠ []) :
    ∃ rest, indentLines width t = List.replicate width ' ' ++ rest ∧ rest.head? = t.head? ∧
      firstLine (rest ++ ['\n']) = firstLine t := by
  obtain ⟨pieces, hpieces⟩ := split_eq t
  have hhead : ∀ more, (firstLine t ++ more).head? = t.head? := by
    intro more
    obtain ⟨c, line, hline⟩ := List.exists_cons_of_ne_nil hne
    have hc : c ∈ t.head? := head?_firstLine (by rw [hline]; rfl)
    rw [hline]
    exact hc.symm
  have hfirst : ∀ more, firstLine (firstLine t ++ '\n' :: more) = firstLine t := by
    intro more
    rw [firstLine_append (newline_notMem_firstLine t), firstLine_newline, List.append_nil]
  rw [indentLines, mapLines, linesOf, hpieces, List.map_cons, if_neg (by simpa using hne)]
  cases pieces with
  | nil =>
      refine ⟨firstLine t, rfl, ?_, hfirst []⟩
      simpa using hhead []
  | cons second pieces =>
      rw [List.map_cons, ofLines, Text.join, List.append_assoc, List.append_assoc]
      · refine ⟨_, rfl, hhead _, ?_⟩
        rw [List.append_assoc, List.append_assoc, List.singleton_append]
        exact hfirst _
      · exact List.cons_ne_nil _ _

/-- A list item has no text, or its text stands behind its mark. -/
lemma itemText_standard (h : itemText .standard s t = .ok w) :
    (Text.strip t = [] ∧ w = ['\n']) ∨
      ∃ start, itemStart? w = some start ∧ firstLine (w.drop start) = firstLine (Text.strip t) := by
  rw [itemText] at h
  split_ifs at h with hempty
  · cases h
    exact Or.inl ⟨List.isEmpty_iff.mp hempty, rfl⟩
  · have hne : Text.strip t ≠ [] := by simpa using hempty
    cases hmark : itemMark .standard s with
    | error e =>
        rw [hmark] at h
        cases h
    | ok mark =>
        rw [hmark] at h
        have hw : mark ++ (indentLines mark.length (Text.strip t)).drop mark.length ++ ['\n'] = w :=
          Except.ok.inj h
        obtain ⟨c, core, hcore⟩ := List.exists_cons_of_ne_nil hne
        have hc : c ∈ (Text.strip t).head? := by
          rw [hcore]
          rfl
        have hfirst : firstLine (Text.strip t) ≠ [] := by
          have hnewline : c ≠ '\n' := by
            rintro rfl
            exact Text.strip_head_ne t hc
          rw [hcore, firstLine, List.takeWhile_cons, if_pos (by simpa using hnewline)]
          exact List.cons_ne_nil _ _
        obtain ⟨rest, hindent, hhead, hline⟩ := firstLine_indentLines mark.length hfirst
        rw [hindent, List.drop_left' List.length_replicate, List.append_assoc] at hw
        subst hw
        refine Or.inr ⟨mark.length, itemStart?_mark hmark (by simp) ?_, ?_⟩
        · intro d hd
          refine Text.strip_head t d ?_
          rwa [List.head?_append, hhead, Option.mem_def.mp hc, Option.some_or,
            ← Option.mem_def.mp hc] at hd
        · rw [List.drop_left, hline]

/-! ### Which marks are covered -/

/-- Whether the mark of the place of an element covers the mark of a block, from what its children
give and what its structure makes of this. Before rows and structural blocks it never does. In a
list item it does when the text of the item starts with a block, and in any other element when its
rendering does: where that is one line, because the mark is put around it, and else if there is no
line end at the start. -/
def coversBlock (name : String) (t rendered : Text) : Bool :=
  if name = "tr" || isStructuralBlock name then false
  else if isRowGroup name then (rowStart? rendered).isNone && opensBlock (firstLine rendered)
  else if name = "li" then opensBlock (firstLine (Text.strip t))
  else if (Text.strip rendered).contains '\n' then opensBlock (firstLine rendered)
  else opensBlock (firstLine (Text.stripStart rendered))

lemma opensBlock_of_blank {t : Text} (h : Text.strip t = []) :
    opensBlock (firstLine t) = false ∧ opensBlock (firstLine (Text.stripStart t)) = false := by
  have hstart := Text.stripStart_eq_nil h
  rw [hstart]
  refine ⟨opensBlock_firstLine_eq_false fun c hc => ?_, by decide⟩
  rw [Text.stripStart, Text.trimStart, List.dropWhile_eq_nil_iff] at hstart
  exact hstart c (List.mem_of_mem_head? hc)

/-- The mark of the place of an element covers the mark of a block in these cases only. -/
theorem marked_covers
    (h : structuralText .standard s (.element name attributes children) t = .ok w) :
    (marked name w).covers = coversBlock name t w := by
  have hstructure : elementMarkdown .standard s name attributes children t = .ok w := h
  rw [coversBlock]
  by_cases hblock : isStructuralBlock name = true
  · have hother : isRowGroup name = false ∧ name ≠ "li" := by
      simp only [isStructuralBlock, List.contains_iff_mem, List.mem_cons, List.not_mem_nil,
        or_false] at hblock
      rcases hblock with rfl | rfl | rfl | rfl | rfl | rfl | rfl <;> decide
    rw [if_pos (by simp [hblock]), marked, if_neg (by simp [hother.1]), if_neg hother.2,
      if_pos (by simp [hblock]), Marked.ahead_covers]
    exact opensBlock_firstLine_eq_false (structuralBlock_head hblock hstructure)
  by_cases hrow : isRowGroup name = true
  · rw [marked, if_pos hrow]
    cases hstart : rowStart? w with
    | some start =>
        dsimp only
        rw [covers_row hstart]
        split_ifs <;> rfl
    | none =>
        have hnot : name ≠ "tr" := by
          rintro rfl
          obtain ⟨start, hsome⟩ := rowStart?_of_head (rowText_head hstructure)
          rw [hstart] at hsome
          cases hsome
        rw [if_neg (by simp [hblock, hnot]), if_pos hrow]
        rfl
  have hnot : ¬(decide (name = "tr") || isStructuralBlock name) = true := by
    rw [Bool.or_eq_true, decide_eq_true_eq]
    rintro (rfl | hyes)
    · exact hrow (by decide)
    · exact hblock hyes
  rw [if_neg hnot, if_neg hrow]
  by_cases hitem : name = "li"
  · subst hitem
    rw [if_pos rfl, marked, if_neg hrow, if_pos rfl]
    rcases itemText_standard hstructure with ⟨hempty, rfl⟩ | ⟨start, hstart, hline⟩
    · rw [hempty]
      decide
    · rw [hstart]
      dsimp only
      rw [covers_item, hline]
  · rw [if_neg hitem, marked, if_neg hrow, if_neg hitem, eq_false_of_ne_true hblock, Bool.false_or]
    by_cases hlines : (Text.strip w).contains '\n' = true
    · rw [if_pos hlines, if_pos hlines, Marked.ahead_covers]
    · rw [if_neg hlines, if_neg hlines]
      by_cases hempty : (Text.strip w).isEmpty = true
      · obtain ⟨hfirst, hstripped⟩ := opensBlock_of_blank (List.isEmpty_iff.mp hempty)
        rw [if_pos hempty, Marked.ahead_covers, hfirst, hstripped]
      · rw [if_neg hempty]
        exact covers_core (eq_false_of_ne_true hempty) fun hmem => hlines (by simpa using hmem)

/-- The identifier of a heading stands behind its text. -/
lemma anchorHeading_split (value rendered : Text) :
    ∃ body tail, rendered = body ++ tail ∧
      (anchorHeading (attributeText value) rendered = rendered ∨
        anchorHeading (attributeText value) rendered
          = body ++ ' ' :: headingMark value ++ tail) := by
  refine ⟨Text.stripEnd rendered, Text.takeEnd isBlank rendered,
    (Text.trimEnd_append_takeEnd isBlank rendered).symm, ?_⟩
  rw [anchorHeading]
  split_ifs
  · exact Or.inl rfl
  · refine Or.inr ?_
    have hdrop : rendered.drop (Text.stripEnd rendered).length = Text.takeEnd isBlank rendered :=
      Text.drop_trimEnd_length isBlank rendered
    rw [hdrop, headingMark]
    simp

/-- An element with an identifier is its rendering with the mark of its place. -/
theorem Node.render_marked (hid : hasIdentifier (.element name attributes children) = true)
    (himage : name ≠ "img") (hframe : isFrame name = false) (hcell : isCell name = false)
    (hw : (Node.element name attributes children).render .standard s = .ok w) :
    ∃ t rendered, (Node.element name attributes children).content .standard s = .ok t ∧
      (Node.element name attributes children).structural .standard s = .ok rendered ∧
      (isNumberedHeading name = true → ∃ body tail, rendered = body ++ tail ∧
        (w = rendered ∨ w = body ++ ' ' :: headingMark (attributes.get "id") ++ tail)) ∧
      (isNumberedHeading name = false → s.verbatim = true → w = rendered) ∧
      (isNumberedHeading name = false → s.verbatim = false →
        w = (marked name rendered).text (attributeText (attributes.get "id")) ∧
        (marked name rendered).plain = rendered ∧ '\n' ∉ (marked name rendered).inner ∧
        (marked name rendered).covers = coversBlock name t rendered) := by
  obtain ⟨t, hcontent, hwrite⟩ := Node.render_element.mp hw
  have hnamed : (Node.element name attributes children).named "img" = false := by
    simpa [Node.named] using himage
  have hembedded : isEmbeddedFrame (.element name attributes children) = false := hframe
  rw [Renderer.write_standard, hnamed, hembedded, hid, if_neg Bool.false_ne_true,
    if_neg Bool.false_ne_true, if_pos rfl, anchoredText_eq, hcell, Bool.false_and,
    if_neg Bool.false_ne_true] at hwrite
  cases hrendered : structuralText .standard s (.element name attributes children) t with
  | error e =>
      rw [hrendered] at hwrite
      cases hwrite
  | ok rendered =>
      rw [hrendered] at hwrite
      have hinto : anchorInto s name (attributeText (attributes.get "id")) rendered = w :=
        Except.ok.inj hwrite
      refine ⟨t, rendered, hcontent, ?plain, ?heading, ?code, ?mark⟩
      case plain =>
        rw [Node.structural, hcontent]
        exact hrendered
      case heading =>
        intro hheading
        rw [anchorInto, if_pos hheading] at hinto
        obtain ⟨body, tail, hsplit, hways⟩ := anchorHeading_split (attributes.get "id") rendered
        rw [hinto] at hways
        exact ⟨body, tail, hsplit, hways⟩
      case code =>
        intro hheading hverbatim
        rw [anchorInto, hheading, hverbatim, if_neg Bool.false_ne_true, if_pos rfl] at hinto
        exact hinto.symm
      case mark =>
        intro hheading hverbatim
        rw [anchorInto_eq hheading hverbatim] at hinto
        exact ⟨hinto.symm, marked_plain name rendered, newline_notMem_inner name rendered,
          marked_covers hrendered⟩

end Structure

/-! ### Documents -/

/-- Every element of a document that is rendered is rendered itself. -/
lemma Document.renders_places {r : Renderer} {document : Forest} {place : Surroundings}
    {element : Node} {out : Text} (h : (place, element) ∈ Document.places document)
    (hrender : Document.render r document = .ok out) : ∃ w, element.render r place = .ok w := by
  have hon : HandedOn r place element fun _ => ∃ w, element.render r place = .ok w :=
    ⟨fun t ht => ⟨t, ht⟩, fun _ _ _ _ _ _ _ _ _ hrendered _ => hrendered⟩
  obtain ⟨_, _, _, _, hrendered⟩ := Document.render_outward hon h hrender
  exact hrendered

/-- **Marks of places and of blocks**: in a document each element with an identifier, but for
pictures, frames and cells, is the rendering of its structure with the identifier behind the text of
a heading, nowhere in code, and else as a mark within one line; and the mark covers the mark of a
block in the cases told by `coversBlock` and in no other. -/
theorem Document.marks_cover {document : Forest} {place : Surroundings} {name : String}
    {attributes : Attributes} {children : Forest} {out : Text}
    (hplace : (place, .element name attributes children) ∈ Document.places document)
    (hrender : Document.render .standard document = .ok out)
    (hid : hasIdentifier (.element name attributes children) = true)
    (himage : name ≠ "img") (hframe : isFrame name = false) (hcell : isCell name = false) :
    ∃ t rendered w, (Node.element name attributes children).content .standard place = .ok t ∧
      (Node.element name attributes children).structural .standard place = .ok rendered ∧
      (Node.element name attributes children).render .standard place = .ok w ∧
      (isNumberedHeading name = true → ∃ body tail, rendered = body ++ tail ∧
        (w = rendered ∨ w = body ++ ' ' :: headingMark (attributes.get "id") ++ tail)) ∧
      (isNumberedHeading name = false → place.verbatim = true → w = rendered) ∧
      (isNumberedHeading name = false → place.verbatim = false →
        w = (marked name rendered).text (attributeText (attributes.get "id")) ∧
        (marked name rendered).plain = rendered ∧ '\n' ∉ (marked name rendered).inner ∧
        ((marked name rendered).covers = true ↔ coversBlock name t rendered = true)) := by
  obtain ⟨w, hw⟩ := Document.renders_places hplace hrender
  obtain ⟨t, rendered, hcontent, hstructural, hheading, hcode, hmark⟩ :=
    Node.render_marked hid himage hframe hcell hw
  refine ⟨t, rendered, w, hcontent, hstructural, hw, hheading, hcode, fun hnot hverbatim => ?_⟩
  obtain ⟨htext, hplain, hinner, hcovers⟩ := hmark hnot hverbatim
  exact ⟨htext, hplain, hinner, by rw [hcovers]⟩

/-- A heading. -/
def loneHeading : Node := .element "h2" [] [.text .plain ['T']]

/-- A division that holds a heading and nothing else. -/
def headingDivision : Node := .element "div" [("id", ['x'])] [loneHeading]

/-- Where the division stands. -/
def divisionPlace : Surroundings := ⟨[⟨documentName, [], [headingDivision], []⟩], [], []⟩

/-- The division is one line, so the mark of its place covers that of the heading. -/
theorem Document.marks_cover_heading :
    Document.render .standard [headingDivision] = .ok "<span id=\"x\">## T</span>".toList ∧
      headingDivision.structural .standard divisionPlace = .ok "\n\n## T\n\n".toList ∧
      (marked "div" "\n\n## T\n\n".toList).covers = true := by
  have hrender : Document.render .standard [headingDivision]
      = .ok "<span id=\"x\">## T</span>".toList := by
    decide +kernel
  have hstructural : headingDivision.structural .standard divisionPlace
      = .ok "\n\n## T\n\n".toList := by
    decide +kernel
  have hcontent : headingDivision.content .standard divisionPlace
      = .ok "\n\n## T\n\n".toList := by
    decide +kernel
  have hplace : (divisionPlace, headingDivision) ∈ Document.places [headingDivision] := by
    simp [Document.places, forestPlaces, Node.places, headingDivision, divisionPlace,
      Surroundings.enter, Surroundings.top]
  obtain ⟨t, rendered, w, hinside, hplain, -, -, -, hmark⟩ :=
    Document.marks_cover hplace hrender (by decide +kernel) (by decide) (by decide) (by decide)
  have hrendered : rendered = "\n\n## T\n\n".toList :=
    Except.ok.inj (hplain.symm.trans hstructural)
  have ht : t = "\n\n## T\n\n".toList := Except.ok.inj (hinside.symm.trans hcontent)
  subst hrendered ht
  obtain ⟨-, -, -, hcovers⟩ := hmark (by decide) (by decide)
  exact ⟨hrender, hstructural, hcovers.mpr (by decide +kernel)⟩

end PageNotes
