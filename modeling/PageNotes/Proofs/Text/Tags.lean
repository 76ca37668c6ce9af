import PageNotes.Markdown.Footnote
import PageNotes.Proofs.Text.Trim

/-!
Texts with tags, as they are read. A tag starts at an angle bracket with a letter or a slash behind
it and goes on to the next closing bracket outside quotes; everything else is shown.

* `Text.piecesFrom`, `Text.shown`, `Text.tags`: a text taken apart;
* `Balanced`: what stands in a tag without ending it, as names and attributes do;
* `shown_wrapped`, `tags_wrapped`: elements around a text add tags and nothing that is shown;
* `shown_eq_self`, `count_shown_lt`: what is shown of a text by itself.
-/

namespace PageNotes

/-- A character that makes a bracket before it the start of a tag. -/
def isTagStart (c : Char) : Bool := isAsciiLetter c || c = '/'

/-- A character that neither ends a tag nor opens quotes in it. -/
def isBare (c : Char) : Bool := c ≠ '"' && c ≠ '>'

/-- A piece of a text: a character outside the tags, or a tag without its brackets. -/
inductive Piece where
  | char (c : Char)
  | tag (content : Text)

/-- The character that is shown for a piece. -/
def Piece.char? : Piece → Option Char
  | char c => some c
  | tag _ => none

/-- The tag that is a piece. -/
def Piece.tag? : Piece → Option Text
  | char _ => none
  | tag content => some content

namespace Text

/-- The pieces of a text that is read inside of a tag, of which some was read before, perhaps in
quotes, or outside. -/
def piecesFrom (inside : Option (Text × Bool)) : Text → List Piece
  | [] => inside.toList.map fun (content, _) => .tag content
  | c :: t =>
    match inside with
    | none =>
      if c = '<' && t.head?.any isTagStart then piecesFrom (some ([], false)) t
      else .char c :: piecesFrom none t
    | some (content, quoted) =>
      if c = '>' && !quoted then .tag content :: piecesFrom none t
      else piecesFrom (some (content ++ [c], quoted != (c = '"'))) t

/-- The text outside the tags. -/
def shown (t : Text) : Text := (piecesFrom none t).filterMap Piece.char?

/-- The tags of a text without their brackets. -/
def tags (t : Text) : List Text := (piecesFrom none t).filterMap Piece.tag?

/-! ### Tags -/

/-- A text that neither ends a tag nor leaves quotes open in it. -/
def Balanced (w : Text) : Prop :=
  ∀ content t, piecesFrom (some (content, false)) (w ++ t)
    = piecesFrom (some (content ++ w, false)) t

lemma piecesFrom_within {quoted : Bool} {w : Text}
    (h : ∀ c ∈ w, c ≠ '"' ∧ (c = '>' → quoted = true)) (content t : Text) :
    piecesFrom (some (content, quoted)) (w ++ t)
      = piecesFrom (some (content ++ w, quoted)) t := by
  induction w generalizing content with
  | nil => rw [List.nil_append, List.append_nil]
  | cons c w ih =>
      obtain ⟨hquote, hclosing⟩ := h c List.mem_cons_self
      have hstays : (c = '>' && !quoted) = false := by
        by_cases hc : c = '>'
        · simp [hclosing hc]
        · simp [hc]
      rw [List.cons_append, piecesFrom, hstays, if_neg Bool.false_ne_true, decide_eq_false hquote, Bool.bne_false,
        ih fun d hd => h d (List.mem_cons_of_mem _ hd), List.append_assoc, List.singleton_append]

lemma ne_of_isBare {w : Text} (h : w.all isBare = true) : ∀ c ∈ w, c ≠ '"' ∧ c ≠ '>' := by
  intro c hc
  have hbare := List.all_eq_true.mp h c hc
  rw [isBare, Bool.and_eq_true] at hbare
  exact ⟨of_decide_eq_true hbare.1, of_decide_eq_true hbare.2⟩

lemma Balanced.of_bare {w : Text} (h : w.all isBare = true) : Balanced w :=
  piecesFrom_within fun c hc =>
    ⟨(ne_of_isBare h c hc).1, fun hclosing => absurd hclosing (ne_of_isBare h c hc).2⟩

lemma Balanced.append {v w : Text} (hv : Balanced v) (hw : Balanced w) : Balanced (v ++ w) := by
  intro content t
  rw [List.append_assoc, hv, hw, List.append_assoc]

lemma quote_notMem_attributeText (value : Text) : '"' ∉ attributeText value := by
  rw [attributeText, replaceChar, List.mem_flatMap]
  rintro ⟨c, -, hc⟩
  split_ifs at hc with hquote
  · exact absurd hc (by decide)
  · exact hquote (List.mem_singleton.mp hc).symm

/-- A value in quotes stays in its tag. -/
lemma Balanced.quoted {w : Text} (h : '"' ∉ w) : Balanced ('"' :: (w ++ ['"'])) := by
  intro content t
  have hopen : piecesFrom (some (content, false)) ('"' :: (w ++ '"' :: t))
      = piecesFrom (some (content ++ ['"'], true)) (w ++ '"' :: t) := rfl
  have hclose : ∀ content, piecesFrom (some (content, true)) ('"' :: t)
      = piecesFrom (some (content ++ ['"'], false)) t := fun _ => rfl
  have hw : ∀ c ∈ w, c ≠ '"' ∧ (c = '>' → true = true) := by
    refine fun c hc => ⟨?_, fun _ => rfl⟩
    rintro rfl
    exact h hc
  rw [List.cons_append, List.append_assoc, List.singleton_append, hopen, piecesFrom_within hw,
    hclose]
  simp

/-- An attribute stays in its tag, whatever its value is. -/
lemma Balanced.attributePart {name : String} (h : name.toList.all isBare = true) (value : Text) :
    Balanced (attributePart name value) := by
  have hsplit : PageNotes.attributePart name value
      = (name.toList ++ ['=']) ++ '"' :: (attributeText value ++ ['"']) := by
    simp [PageNotes.attributePart]
  rw [hsplit]
  exact ((Balanced.of_bare h).append (.of_bare (by decide))).append
    (.quoted (quote_notMem_attributeText value))

lemma Balanced.join {parts : List Text} (h : ∀ part ∈ parts, Balanced part) :
    Balanced (join [' '] parts) := by
  induction parts with
  | nil => exact Balanced.of_bare rfl
  | cons part parts ih =>
      cases parts with
      | nil => exact h part List.mem_cons_self
      | cons next parts =>
          have hrest := ih fun other hother => h other (List.mem_cons_of_mem _ hother)
          exact ((h part List.mem_cons_self).append (.of_bare (by decide))).append hrest

/-- A tag is read as one piece. -/
lemma piecesFrom_tag {w : Text} (hw : Balanced w) (hstart : w.head?.any isTagStart = true)
    (t : Text) : piecesFrom none ('<' :: (w ++ '>' :: t)) = .tag w :: piecesFrom none t := by
  have hhead : (w ++ '>' :: t).head? = w.head? := by
    cases w with
    | nil => cases hstart
    | cons c w => rfl
  have hclose : piecesFrom (some (w, false)) ('>' :: t) = .tag w :: piecesFrom none t := rfl
  rw [piecesFrom, hhead, hstart, decide_eq_true rfl, Bool.and_true, if_pos rfl, hw, List.nil_append,
    hclose]

/-! ### Shown texts -/

/-- A text in which no tag starts. -/
def NoTag (t : Text) : Prop := ∀ c, isTagStart c = true → ¬['<', c] <:+: t

lemma isBlank_of_isTagStart {c : Char} (h : isTagStart c = true) : isBlank c = false := by
  refine eq_false_of_ne_true fun hblank => ?_
  have hno := of_isBlank (P := fun c => isTagStart c = false) (by decide +kernel) hblank
  rw [h] at hno
  cases hno

/-- No tag starts with a blank. -/
lemma noTag_strip_iff {t : Text} : NoTag (strip t) ↔ NoTag t := by
  refine forall₂_congr fun c hc => not_congr ⟨fun h => h.trans (trim_isInfix isBlank t), ?_⟩
  refine infix_trim (List.cons_ne_nil _ _) (fun d hd => ?_) (fun d hd => ?_)
  · obtain rfl : '<' = d := Option.some.inj hd
    decide +kernel
  · obtain rfl : c = d := Option.some.inj hd
    exact isBlank_of_isTagStart hc

/-- A text in which no tag starts is shown, up to a place where it ends or a bracket stands. -/
lemma piecesFrom_append {a b : Text} (ha : NoTag a) (hb : b.head?.any isTagStart = false) :
    piecesFrom none (a ++ b) = a.map .char ++ piecesFrom none b := by
  induction a with
  | nil => rfl
  | cons c a ih =>
      have hno : (c = '<' && (a ++ b).head?.any isTagStart) = false := by
        refine eq_false_of_ne_true fun hstarts => ?_
        obtain ⟨hc, hnext⟩ := Bool.and_eq_true_iff.mp hstarts
        obtain rfl : c = '<' := of_decide_eq_true hc
        cases a with
        | nil =>
            rw [List.nil_append, hb] at hnext
            cases hnext
        | cons d a => exact ha d hnext (List.prefix_append ['<', d] a).isInfix
      rw [List.cons_append, piecesFrom, hno, if_neg Bool.false_ne_true,
        ih fun d hd hpart => ha d hd (hpart.trans (List.suffix_cons c a).isInfix)]
      rfl

lemma shown_eq_self {t : Text} (h : NoTag t) : shown t = t := by
  have hpieces := piecesFrom_append (b := []) h rfl
  rw [List.append_nil] at hpieces
  rw [shown, hpieces]
  simp [piecesFrom, List.filterMap_map, Function.comp_def, Piece.char?]

/-- What is shown of a text is a part of it. -/
lemma shown_sublist (inside : Option (Text × Bool)) (t : Text) :
    ((piecesFrom inside t).filterMap Piece.char?).Sublist t := by
  induction t generalizing inside with
  | nil => cases inside <;> simp [piecesFrom, Piece.char?]
  | cons c t ih =>
      cases inside with
      | none =>
          rw [piecesFrom]
          split_ifs
          · exact (ih _).cons c
          · exact (ih none).cons_cons c
      | some opened =>
          rw [piecesFrom]
          split_ifs
          · exact (ih none).cons c
          · exact (ih _).cons c

/-- The bracket of a tag is not shown. -/
lemma count_shown_lt {t : Text} (h : ¬NoTag t) : (shown t).count '<' < t.count '<' := by
  induction t with
  | nil => exact absurd (fun c _ hpart => by simp at hpart) h
  | cons c t ih =>
      rw [shown, piecesFrom]
      split_ifs with hstarts
      · obtain ⟨hc, -⟩ := Bool.and_eq_true_iff.mp hstarts
        obtain rfl : c = '<' := of_decide_eq_true hc
        have hcount := (shown_sublist (some ([], false)) t).count_le '<'
        rw [List.count_cons_self]
        omega
      · have htag : ¬NoTag t := by
          intro hno
          refine h fun d hd hpart => ?_
          rcases List.infix_cons_iff.mp hpart with hprefix | hrest
          · obtain ⟨rest, hrest⟩ := hprefix
            obtain ⟨rfl, rfl⟩ := List.cons.inj hrest
            exact hstarts (by simp [hd])
          · exact hno d hd hrest
        have hrest := ih htag
        have hshown : ((Piece.char c :: piecesFrom none t).filterMap Piece.char?) = c :: shown t :=
          rfl
        rw [hshown, List.count_cons, List.count_cons]
        omega

/-- What is shown up to a place where no tag starts does not depend on what follows. -/
lemma shown_append {b : Text} (hb : b.head?.any isTagStart = false)
    (inside : Option (Text × Bool)) (a : Text) :
    ∃ inside', (piecesFrom inside (a ++ b)).filterMap Piece.char?
      = (piecesFrom inside a).filterMap Piece.char?
        ++ (piecesFrom inside' b).filterMap Piece.char? := by
  induction a generalizing inside with
  | nil => exact ⟨inside, by cases inside <;> simp [piecesFrom, Piece.char?]⟩
  | cons c a ih =>
      have hhead : (a ++ b).head?.any isTagStart = a.head?.any isTagStart := by
        cases a with
        | nil => exact hb
        | cons d a => rfl
      cases inside with
      | none =>
          rw [List.cons_append, piecesFrom, piecesFrom, hhead]
          split_ifs
          · exact ih _
          · obtain ⟨inside', heq⟩ := ih none
            exact ⟨inside', congrArg (c :: ·) heq⟩
      | some opened =>
          rw [List.cons_append, piecesFrom, piecesFrom]
          split_ifs
          · exact ih none
          · exact ih _

/-! ### Elements around a text -/

/-- The closing tags of some elements. -/
def closings (names : List String) : Text :=
  names.flatMap fun name => '<' :: '/' :: (name.toList ++ ['>'])

/-- A text in elements, from the outermost one inwards. -/
def wrapped (layers : List (String × List Text)) (t : Text) : Text :=
  layers.foldr (fun (name, parts) t => elementText name parts t) t

/-- The name of an element and its attributes as they stand in a tag. -/
structure IsLayer (layer : String × List Text) : Prop where
  bare : layer.1.toList.all isBare = true
  start : layer.1.toList.head?.any isTagStart = true
  parts : ∀ part ∈ layer.2, Balanced part

/-- The opening tag of an element without its brackets. -/
def openingTag (layer : String × List Text) : Text := join [' '] (layer.1.toList :: layer.2)

variable {layers : List (String × List Text)} {names : List String}

lemma closings_cons (name : String) (names : List String) :
    closings (name :: names) = '<' :: ('/' :: name.toList ++ '>' :: closings names) := by
  simp [closings]

lemma closings_head (names : List String) : (closings names).head?.any isTagStart = false := by
  cases names <;> rfl

/-- An opening tag starts with the name. -/
lemma name_prefix_openingTag (layer : String × List Text) :
    layer.1.toList <+: openingTag layer := by
  obtain ⟨name, parts⟩ := layer
  cases parts with
  | nil => exact List.prefix_refl _
  | cons part parts =>
      rw [openingTag, join, List.append_assoc]
      · exact List.prefix_append _ _
      · exact List.cons_ne_nil _ _

lemma IsLayer.openingTag {layer : String × List Text} (h : IsLayer layer) :
    Balanced (openingTag layer) ∧ (openingTag layer).head?.any isTagStart = true := by
  obtain ⟨name, parts⟩ := layer
  refine ⟨Balanced.join fun part hpart => ?_, ?_⟩
  · rcases List.mem_cons.mp hpart with rfl | hpart
    · exact .of_bare h.bare
    · exact h.parts part hpart
  · obtain ⟨rest, hrest⟩ := name_prefix_openingTag (name, parts)
    have hstart := h.start
    rw [← hrest]
    cases hname : name.toList with
    | nil =>
        rw [hname] at hstart
        cases hstart
    | cons c tail =>
        rw [hname] at hstart
        exact hstart

lemma IsLayer.closingTag {layer : String × List Text} (h : IsLayer layer) :
    Balanced ('/' :: layer.1.toList) := by
  refine .of_bare ?_
  rw [List.all_cons, h.bare]
  rfl

/-- An element without its attributes. -/
lemma IsLayer.name {layer : String × List Text} (h : IsLayer layer) : IsLayer (layer.1, []) :=
  ⟨h.bare, h.start, by simp⟩

/-- Elements around a text are read as their tags around it. -/
lemma piecesFrom_wrapped (h : ∀ layer ∈ layers, IsLayer layer) (t : Text) (names : List String) :
    piecesFrom none (wrapped layers t ++ closings names)
      = layers.map (fun layer => .tag (openingTag layer))
        ++ piecesFrom none (t ++ closings ((layers.map Prod.fst).reverse ++ names)) := by
  induction layers generalizing names with
  | nil => rfl
  | cons layer layers ih =>
      obtain ⟨hbalanced, hstart⟩ := (h layer List.mem_cons_self).openingTag
      have htext : wrapped (layer :: layers) t ++ closings names
          = '<' :: (openingTag layer ++ '>' :: (wrapped layers t
            ++ closings (layer.1 :: names))) := by
        simp [wrapped, elementText, openingTag, closings]
      rw [htext, piecesFrom_tag hbalanced hstart,
        ih (fun other hother => h other (List.mem_cons_of_mem _ hother))]
      simp

/-- The pieces of closing tags outside of other tags. -/
lemma piecesFrom_closings (h : ∀ name ∈ names, IsLayer (name, [])) :
    piecesFrom none (closings names) = names.map fun name => .tag ('/' :: name.toList) := by
  induction names with
  | nil => rfl
  | cons name names ih =>
      rw [closings_cons, piecesFrom_tag (h name List.mem_cons_self).closingTag rfl,
        ih fun other hother => h other (List.mem_cons_of_mem _ hother)]
      rfl

/-- Nothing is shown of closing tags, wherever they are read. -/
lemma shown_closings (h : ∀ name ∈ names, IsLayer (name, [])) (inside : Option (Text × Bool)) :
    (piecesFrom inside (closings names)).filterMap Piece.char? = [] := by
  induction names generalizing inside with
  | nil => cases inside <;> rfl
  | cons name names ih =>
      have hname := h name List.mem_cons_self
      have ih := ih fun other hother => h other (List.mem_cons_of_mem _ hother)
      rw [closings_cons]
      match inside with
      | none =>
          rw [piecesFrom_tag hname.closingTag rfl]
          exact ih none
      | some (content, false) =>
          have hclose : ∀ content, piecesFrom (some (content, false)) ('>' :: closings names)
              = .tag content :: piecesFrom none (closings names) := fun _ => rfl
          have hopen : piecesFrom (some (content, false))
              ('<' :: ('/' :: name.toList ++ '>' :: closings names))
              = piecesFrom (some (content ++ ['<'], false))
                ('/' :: name.toList ++ '>' :: closings names) := rfl
          rw [hopen, hname.closingTag, hclose]
          exact ih none
      | some (content, true) =>
          -- quotes that are still open take in the closing tags, which have none to close them
          have hwithin : ∀ c ∈ '<' :: ('/' :: name.toList ++ ['>']),
              c ≠ '"' ∧ (c = '>' → true = true) := by
            refine fun c hc => ⟨?_, fun _ => rfl⟩
            rintro rfl
            simp only [List.cons_append, List.mem_cons, List.mem_append, List.not_mem_nil, or_false,
              false_or, Char.reduceEq] at hc
            exact (ne_of_isBare hname.bare '"' hc).1 rfl
          have hsplit : '<' :: ('/' :: name.toList ++ '>' :: closings names)
              = '<' :: ('/' :: name.toList ++ ['>']) ++ closings names := by
            simp
          rw [hsplit, piecesFrom_within hwithin]
          exact ih _

lemma isLayer_reverse (h : ∀ layer ∈ layers, IsLayer layer) :
    ∀ name ∈ (layers.map Prod.fst).reverse, IsLayer (name, []) := by
  intro name hname
  obtain ⟨layer, hlayer, rfl⟩ := List.mem_map.mp (List.mem_reverse.mp hname)
  exact (h layer hlayer).name

lemma piecesFrom_wrapped_self (h : ∀ layer ∈ layers, IsLayer layer) (t : Text) :
    piecesFrom none (wrapped layers t) = layers.map (fun layer => .tag (openingTag layer))
      ++ piecesFrom none (t ++ closings (layers.map Prod.fst).reverse) := by
  have hpieces := piecesFrom_wrapped h t []
  rwa [closings, List.flatMap_nil, List.append_nil, List.append_nil] at hpieces

/-- Of elements around a text nothing is shown. -/
theorem shown_wrapped (h : ∀ layer ∈ layers, IsLayer layer) (t : Text) :
    shown (wrapped layers t) = shown t := by
  obtain ⟨inside, hshown⟩ := shown_append (closings_head (layers.map Prod.fst).reverse) none t
  rw [shown_closings (isLayer_reverse h), List.append_nil] at hshown
  rw [shown, piecesFrom_wrapped_self h, List.filterMap_append, hshown]
  simp [List.filterMap_map, Function.comp_def, Piece.char?, shown]

example : shown "<a href=\"#a>b\">1 < 2</a>".toList = "1 < 2".toList := by decide +kernel

/-- The tags of a text in elements in which no other tag starts. -/
theorem tags_wrapped (h : ∀ layer ∈ layers, IsLayer layer) {t : Text} (ht : NoTag t) :
    tags (wrapped layers t) = layers.map openingTag
      ++ (layers.map Prod.fst).reverse.map fun name => '/' :: name.toList := by
  rw [tags, piecesFrom_wrapped_self h, piecesFrom_append ht (closings_head _),
    piecesFrom_closings (isLayer_reverse h)]
  simp [List.filterMap_map, List.filterMap_append, Function.comp_def, Piece.tag?]

end Text

end PageNotes
