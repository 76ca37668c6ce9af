import PageNotes.Html.Token
import PageNotes.Proofs.Html.CharacterReferences
import PageNotes.Proofs.Text.Tags

/-!
Start tags that are written and read again. Every attribute comes back, with the value that a reader
of markup makes of the value written: its line ends and null characters are those of markup, and its
character references are replaced. So a value is read as it was written just when it is literal.

* `startTagText`: a start tag with its brackets;
* `readAttribute`: what is read of a value;
* `normalizeSource_startTagText`, `Lexer.foldl_fields`: a tag on its way through the reader;
* `Token.scan_startTagText`: what is read of a start tag;
* `IsLiteral`, `readAttribute_eq_self_iff`: the values that are read as they are written.
-/

namespace PageNotes

variable {c : Char} {t u v w : Text} {name : String} {fields : Attributes}

/-! ### Tags and values -/

/-- An attribute behind a space. -/
def fieldText (field : String × Text) : Text := ' ' :: attributePart field.1 field.2

/-- A start tag. -/
def startTagText (name : String) (fields : Attributes) : Text :=
  '<' :: (name.toList ++ (fields.flatMap fieldText ++ ['>']))

/-- What is read of a value in quotes. -/
def readAttribute (value : Text) : Text := decodeReferences true (normalizeSource value)

lemma startTagText_eq (name : String) (fields : Attributes) :
    startTagText name fields = '<' :: (Text.openingTag
      (name, fields.map fun field => attributePart field.1 field.2) ++ ['>']) := by
  have hjoin : ∀ (first : Text) (fields : Attributes),
      Text.join [' '] (first :: fields.map fun field => attributePart field.1 field.2)
        = first ++ fields.flatMap fieldText := by
    intro first fields
    induction fields generalizing first with
    | nil => exact (List.append_nil first).symm
    | cons field fields ih =>
        rw [List.map_cons, Text.join, ih, List.flatMap_cons, fieldText]
        · simp
        · exact List.cons_ne_nil _ _
  rw [startTagText, Text.openingTag, hjoin, List.append_assoc]

/-! ### Line ends and null characters -/

/-- A character that is read as it stands. -/
def isSteadyChar (c : Char) : Bool := c ≠ '\r' && c ≠ '\x00'

lemma ne_of_isSteadyChar (h : isSteadyChar c = true) : c ≠ '\r' ∧ c ≠ '\x00' := by
  simpa [isSteadyChar] using h

lemma normalizeSource_cons (hc : c ≠ '\r') (t : Text) :
    normalizeSource (c :: t) = (if c = '\x00' then '\uFFFD' else c) :: normalizeSource t := by
  rw [normalizeSource]
  exact hc

lemma normalizeSource_return (t : Text) :
    normalizeSource ('\r' :: t) =
      if t.head? = some '\n' then normalizeSource t else '\n' :: normalizeSource t := by
  rw [normalizeSource]

lemma normalizeSource_steady (hu : u.all isSteadyChar = true) (t : Text) :
    normalizeSource (u ++ t) = u ++ normalizeSource t := by
  induction u with
  | nil => rfl
  | cons c u ih =>
      rw [List.all_cons, Bool.and_eq_true] at hu
      obtain ⟨hreturn, hnull⟩ := ne_of_isSteadyChar hu.1
      rw [List.cons_append, normalizeSource_cons hreturn, if_neg hnull, ih hu.2, List.cons_append]

/-- A text is read in two parts, unless a line feed may belong to the line end before it. -/
lemma normalizeSource_append (ht : t.head? ≠ some '\n') (u : Text) :
    normalizeSource (u ++ t) = normalizeSource u ++ normalizeSource t := by
  induction u with
  | nil => rfl
  | cons c u ih =>
      rw [List.cons_append]
      by_cases hreturn : c = '\r'
      · subst hreturn
        have hhead : (u ++ t).head? = some '\n' ↔ u.head? = some '\n' := by
          cases u with
          | nil => simp [ht]
          | cons d u => rfl
        simp only [normalizeSource_return, hhead, ih]
        split_ifs <;> rfl
      · rw [normalizeSource_cons hreturn, normalizeSource_cons hreturn, ih, List.cons_append]

/-- Line ends and quotes do not get into each other's way. -/
lemma normalizeSource_attributeText (t : Text) :
    normalizeSource (attributeText t) = attributeText (normalizeSource t) := by
  induction t with
  | nil => rfl
  | cons c t ih =>
      by_cases hquote : c = '"'
      · subst hquote
        rw [normalizeSource_cons (by decide), if_neg (by decide), attributeText_quote,
          attributeText_quote, ← ih]
        exact normalizeSource_steady (u := ['&', 'q', 'u', 'o', 't', ';']) (by decide) _
      rw [attributeText_cons hquote]
      by_cases hreturn : c = '\r'
      · subst hreturn
        have hhead : (attributeText t).head? = some '\n' ↔ t.head? = some '\n' := by
          cases t with
          | nil => rfl
          | cons d t =>
              by_cases hd : d = '"'
              · subst hd
                rw [attributeText_quote]
                simp
              · rw [attributeText_cons hd]
                rfl
        simp only [normalizeSource_return, hhead, ih]
        split_ifs
        · rfl
        · rw [attributeText_cons (by decide)]
      · rw [normalizeSource_cons hreturn, normalizeSource_cons hreturn, ih, attributeText_cons]
        split_ifs
        · decide
        · exact hquote

/-- What is read has only characters that are read as they stand, and no more than were written. -/
lemma normalizeSource_isSteady (t : Text) :
    (normalizeSource t).all isSteadyChar = true ∧ (normalizeSource t).length ≤ t.length := by
  induction t with
  | nil => exact ⟨rfl, Nat.le_refl _⟩
  | cons c t ih =>
      obtain ⟨hsteady, hlength⟩ := ih
      by_cases hreturn : c = '\r'
      · subst hreturn
        rw [normalizeSource_return]
        split_ifs
        · exact ⟨hsteady, hlength.trans (Nat.le_succ _)⟩
        · exact ⟨hsteady, Nat.succ_le_succ hlength⟩
      · rw [normalizeSource_cons hreturn, List.all_cons, hsteady, Bool.and_true]
        refine ⟨?_, Nat.succ_le_succ hlength⟩
        split_ifs with hnull
        · decide
        · simp [isSteadyChar, hreturn, hnull]

lemma normalizeSource_eq_self_iff : normalizeSource t = t ↔ t.all isSteadyChar = true := by
  refine ⟨fun h => h ▸ (normalizeSource_isSteady t).1, fun h => ?_⟩
  have hread := normalizeSource_steady h []
  rwa [List.append_nil, normalizeSource, List.append_nil] at hread

/-! ### Names -/

/-- A letter that a reader of markup leaves as it is in a name. -/
def isNameLetter (c : Char) : Bool := isAsciiLetter c && c.toLower = c

/-- A name of tags and attributes that is read as it stands. -/
def isTagName (name : String) : Bool := !name.toList.isEmpty && name.toList.all isNameLetter

/-- A tag that can be read: it has a name, and its attributes have different names. -/
structure IsReadable (name : String) (fields : Attributes) : Prop where
  name : isTagName name = true
  keys : ∀ field ∈ fields, isTagName field.1 = true
  distinct : (fields.map Prod.fst).Nodup

/-- The values of a tag make no difference to whether it can be read. -/
lemma IsReadable.map (h : IsReadable name fields) (f : Text → Text) :
    IsReadable name (fields.map fun field => (field.1, f field.2)) where
  name := h.name
  keys := by
    intro field hfield
    obtain ⟨source, hsource, rfl⟩ := List.mem_map.mp hfield
    exact h.keys source hsource
  distinct := by
    rw [List.map_map]
    exact h.distinct

/-- A tag whose attributes are among some in a fixed order can be read. -/
lemma IsReadable.of_sublist {keys : List String}
    (h : (fields.map Prod.fst).Sublist keys) (hname : isTagName name = true)
    (hkeys : keys.all isTagName = true) (hdistinct : keys.Nodup) : IsReadable name fields where
  name := hname
  keys _ hfield := List.all_eq_true.mp hkeys _ (h.subset (List.mem_map_of_mem hfield))
  distinct := hdistinct.sublist h

lemma ne_of_isNameLetter {d : Char} (hc : isNameLetter c = true) (hd : isAsciiLetter d = false) :
    c ≠ d := by
  rintro rfl
  rw [isNameLetter, hd] at hc
  cases hc

lemma toLower_of_isNameLetter (hc : isNameLetter c = true) : c.toLower = c := by
  rw [isNameLetter, Bool.and_eq_true] at hc
  exact of_decide_eq_true hc.2

/-- A letter does not end a name. -/
lemma isHtmlSpace_of_isNameLetter (hc : isNameLetter c = true) : isHtmlSpace c = false := by
  simp (disch := decide) [isHtmlSpace, ne_of_isNameLetter hc]

lemma isTagName_letters (h : isTagName name = true) :
    ∃ c w, name.toList = c :: w ∧ isNameLetter c = true ∧ ∀ c ∈ w, isNameLetter c = true := by
  rw [isTagName, Bool.and_eq_true] at h
  cases hname : name.toList with
  | nil =>
      rw [hname] at h
      exact absurd h.1 (by decide)
  | cons c w =>
      rw [hname, List.all_cons, Bool.and_eq_true, List.all_eq_true] at h
      exact ⟨c, w, rfl, h.2⟩

lemma isTagName_steady (h : isTagName name = true) : name.toList.all isSteadyChar = true := by
  rw [isTagName, Bool.and_eq_true, List.all_eq_true] at h
  refine List.all_eq_true.mpr fun c hc => ?_
  simp (disch := decide) [isSteadyChar, ne_of_isNameLetter (h.2 c hc)]

/-- An attribute is read with the line ends and null characters of its value replaced. -/
lemma normalizeSource_fields (hkeys : ∀ field ∈ fields, isTagName field.1 = true) :
    normalizeSource (fields.flatMap fieldText ++ ['>'])
      = (fields.map fun field => (field.1, normalizeSource field.2)).flatMap fieldText
        ++ ['>'] := by
  induction fields with
  | nil => rfl
  | cons field fields ih =>
      have hrest := ih fun other hother => hkeys other (List.mem_cons_of_mem _ hother)
      have hstart : (' ' :: (field.1.toList ++ ['=', '"'])).all isSteadyChar = true := by
        rw [List.all_cons, List.all_append, isTagName_steady (hkeys field List.mem_cons_self)]
        decide
      have hend := normalizeSource_steady (u := ['"']) (by decide)
        (fields.flatMap fieldText ++ ['>'])
      have hsplit : ∀ value rest, fieldText (field.1, value) ++ rest
          = ' ' :: (field.1.toList ++ ['=', '"']) ++ (attributeText value ++ (['"'] ++ rest)) := by
        intro value rest
        simp [fieldText, attributePart]
      rw [List.flatMap_cons, List.append_assoc, hsplit, normalizeSource_steady hstart,
        normalizeSource_append (by simp), normalizeSource_attributeText, hend, hrest, ← hsplit,
        List.map_cons, List.flatMap_cons, List.append_assoc]

/-- A tag is read with the line ends and null characters of its values replaced. -/
lemma normalizeSource_startTagText (h : IsReadable name fields) :
    normalizeSource (startTagText name fields)
      = startTagText name (fields.map fun field => (field.1, normalizeSource field.2)) := by
  have hstart : ('<' :: name.toList).all isSteadyChar = true := by
    rw [List.all_cons, isTagName_steady h.name]
    decide
  rw [startTagText, ← List.cons_append, normalizeSource_steady hstart,
    normalizeSource_fields h.keys]
  rfl

/-! ### The lexer -/

namespace Lexer

/-- In a mode that collects some characters the lexer takes in all of them. -/
lemma foldl_collect {p : Char → Prop} {mode : Text → LexerMode}
    (hstep : ∀ (l : Lexer) seen c, p c →
      step { l with mode := mode seen } c = { l with mode := mode (c :: seen) })
    (h : ∀ c ∈ w, p c) (l : Lexer) (seen : Text) :
    w.foldl step { l with mode := mode seen } = { l with mode := mode (w.reverse ++ seen) } := by
  induction w generalizing seen with
  | nil => rfl
  | cons c w ih =>
      rw [List.foldl_cons, hstep l seen c (h c List.mem_cons_self),
        ih fun d hd => h d (List.mem_cons_of_mem _ hd)]
      simp

lemma step_tagName (l : Lexer) (seen : Text) (c : Char) (hc : isNameLetter c = true) :
    step { l with mode := .tagName false seen } c
      = { l with mode := .tagName false (c :: seen) } := by
  simp (disch := decide) [step, isHtmlSpace_of_isNameLetter hc, ne_of_isNameLetter hc,
    toLower_of_isNameLetter hc]

lemma step_attributeName (tag : OpenTag) (l : Lexer) (seen : Text) (c : Char)
    (hc : isNameLetter c = true) :
    step { l with mode := .attributeName tag seen } c
      = { l with mode := .attributeName tag (c :: seen) } := by
  simp (disch := decide) [step, isHtmlSpace_of_isNameLetter hc, ne_of_isNameLetter hc,
    toLower_of_isNameLetter hc]

lemma step_quotedValue (tag : OpenTag) (key : Text) (l : Lexer) (seen : Text) (c : Char)
    (hc : c ≠ '"') :
    step { l with mode := .quotedValue tag key '"' seen } c
      = { l with mode := .quotedValue tag key '"' (c :: seen) } := by
  simp [step, hc]

/-- The start of a name. -/
lemma step_inTag (l : Lexer) (tag : OpenTag) (hc : isNameLetter c = true) :
    step { l with mode := .inTag tag } c = { l with mode := .attributeName tag [c] } := by
  simp (disch := decide) [step, inTagStep, isHtmlSpace_of_isNameLetter hc, ne_of_isNameLetter hc,
    toLower_of_isNameLetter hc]

/-- An attribute with a name that the tag has not had yet. -/
lemma add_new {tag : OpenTag} {key : String} (hnew : ∀ old ∈ tag.attributes, old.1 ≠ key)
    (value : Text) :
    tag.add key.toList.reverse value.reverse
      = { tag with attributes := (key, decodeReferences true value) :: tag.attributes } := by
  have hnone : tag.attributes.any (·.1 = key) = false := by
    rw [List.any_eq_false]
    exact fun old hold => by simpa using hnew old hold
  rw [OpenTag.add, List.reverse_reverse, List.reverse_reverse, String.ofList_toList, hnone]
  rfl

/-- An attribute of which the name is read. -/
lemma foldl_fieldText {field : String × Text} (hkey : isTagName field.1 = true) {tag : OpenTag}
    (hnew : ∀ old ∈ tag.attributes, old.1 ≠ field.1) (l : Lexer) :
    (fieldText field).foldl step { l with mode := .inTag tag } = { l with mode := .inTag { tag with
      attributes := (field.1, decodeReferences true field.2) :: tag.attributes } } := by
  obtain ⟨c, w, hname, hc, hw⟩ := isTagName_letters hkey
  have hspace : step { l with mode := .inTag tag } ' ' = { l with mode := .inTag tag } := rfl
  have hvalue : ∀ seen, ['=', '"'].foldl step { l with mode := .attributeName tag seen }
      = { l with mode := .quotedValue tag seen '"' [] } := fun _ => rfl
  have hend : ∀ seen value, step { l with mode := .quotedValue tag seen '"' value } '"'
      = { l with mode := .inTag (tag.add seen value) } := fun _ _ => rfl
  have hquote : ∀ c ∈ attributeText field.2, c ≠ '"' := by
    rintro c hc rfl
    exact Text.quote_notMem_attributeText field.2 hc
  have hsplit : fieldText field
      = ' ' :: c :: (w ++ (['=', '"'] ++ (attributeText field.2 ++ ['"']))) := by
    simp [fieldText, attributePart, hname]
  have hreverse : w.reverse ++ [c] = field.1.toList.reverse := by
    rw [hname, List.reverse_cons]
  calc (fieldText field).foldl step { l with mode := .inTag tag }
      = (w ++ (['=', '"'] ++ (attributeText field.2 ++ ['"']))).foldl step
          { l with mode := .attributeName tag [c] } := by
        rw [hsplit, List.foldl_cons, hspace, List.foldl_cons, step_inTag l tag hc]
    _ = (attributeText field.2 ++ ['"']).foldl step
          { l with mode := .quotedValue tag field.1.toList.reverse '"' [] } := by
        rw [List.foldl_append, foldl_collect (step_attributeName tag) hw, List.foldl_append, hvalue,
          hreverse]
    _ = { l with
          mode := .inTag (tag.add field.1.toList.reverse (attributeText field.2).reverse) } := by
        rw [List.foldl_append, foldl_collect (step_quotedValue tag _) hquote, List.foldl_cons,
          List.foldl_nil, hend, List.append_nil]
    _ = _ := by rw [add_new hnew, decodeReferences_attributeText]

/-- All attributes of a tag. -/
lemma foldl_fields (hkeys : ∀ field ∈ fields, isTagName field.1 = true)
    (hdistinct : (fields.map Prod.fst).Nodup) {tag : OpenTag}
    (hnew : ∀ field ∈ fields, ∀ old ∈ tag.attributes, old.1 ≠ field.1) (l : Lexer) :
    (fields.flatMap fieldText).foldl step { l with mode := .inTag tag }
      = { l with mode := .inTag { tag with attributes :=
          (fields.map fun field => (field.1, decodeReferences true field.2)).reverse
            ++ tag.attributes } } := by
  induction fields generalizing tag with
  | nil => rfl
  | cons field fields ih =>
      rw [List.map_cons, List.nodup_cons] at hdistinct
      rw [List.flatMap_cons, List.foldl_append, foldl_fieldText (hkeys field List.mem_cons_self)
        (hnew field List.mem_cons_self), ih (fun other hother => hkeys other
          (List.mem_cons_of_mem _ hother)) hdistinct.2]
      · simp
      · intro other hother old hold
        rcases List.mem_cons.mp hold with rfl | hold
        · rintro heq
          exact hdistinct.1 (heq ▸ List.mem_map_of_mem hother)
        · exact hnew other (List.mem_cons_of_mem _ hother) old hold

/-- What follows the name of a tag is read as between the attributes. -/
lemma step_tagName_end (hc : c = ' ' ∨ c = '>') (seen : Text) :
    step { start with mode := .tagName false seen } c
      = step { start with mode := .inTag ⟨false, String.ofList seen.reverse, []⟩ } c := by
  rcases hc with rfl | rfl <;> rfl

/-- The name of a tag. -/
lemma foldl_tagName (h : isTagName name = true) (fields : Attributes) :
    (startTagText name fields).foldl step start
      = (fields.flatMap fieldText ++ ['>']).foldl step
          { start with mode := .inTag ⟨false, name, []⟩ } := by
  obtain ⟨c, w, hname, hc, hw⟩ := isTagName_letters h
  have hopen : step start '<' = { start with mode := .tagOpen } := rfl
  have hletter : isAsciiLetter c = true := (Bool.and_eq_true_iff.mp hc).1
  have hstart : step { start with mode := .tagOpen } c
      = { start with mode := .tagName false [c] } := by
    simp [step, hletter, toLower_of_isNameLetter hc]
  -- the name ends at the space before the first attribute, or at the bracket
  have hrest : ∃ d rest, fields.flatMap fieldText ++ ['>'] = d :: rest ∧ (d = ' ' ∨ d = '>') := by
    cases fields with
    | nil => exact ⟨'>', [], rfl, Or.inr rfl⟩
    | cons field fields => exact ⟨' ', _, rfl, Or.inl rfl⟩
  obtain ⟨d, rest, hsplit, hd⟩ := hrest
  have hreverse : String.ofList (w.reverse ++ [c]).reverse = name := by
    rw [List.reverse_append, List.reverse_reverse, List.reverse_singleton, List.singleton_append,
      ← hname, String.ofList_toList]
  rw [startTagText, hname, List.cons_append, List.foldl_cons, hopen, List.foldl_cons, hstart,
    List.foldl_append, foldl_collect step_tagName hw, hsplit, List.foldl_cons, List.foldl_cons,
    step_tagName_end hd, hreverse]

/-- A tag that is complete is the only token. -/
lemma finish_end (tag : OpenTag) (hopen : tag.closing = false) :
    (step { start with mode := .inTag tag } '>').finish
      = [.startTag tag.name tag.attributes.reverse] := by
  have hend : step { start with mode := .inTag tag } '>'
      = emitTag { start with mode := .inTag tag } tag := rfl
  rw [hend, emitTag, hopen, if_neg Bool.false_ne_true]
  cases ContentKind.of tag.name <;> rfl

end Lexer

/-- **What is read of a start tag**: the tag with its attributes in order, each with what is read of
its value. -/
theorem Token.scan_startTagText (h : IsReadable name fields) :
    Token.scan (startTagText name fields)
      = [.startTag name (fields.map fun field => (field.1, readAttribute field.2))] := by
  have hread := h.map normalizeSource
  have hstart : dropByteOrderMark (startTagText name fields) = startTagText name fields := rfl
  calc scan (startTagText name fields)
      = ((startTagText name (fields.map fun field => (field.1, normalizeSource field.2))).foldl
          Lexer.step Lexer.start).finish := by
        rw [scan, hstart, normalizeSource_startTagText h]
    _ = (Lexer.step { Lexer.start with mode := .inTag ⟨false, name,
          (fields.map fun field => (field.1, readAttribute field.2)).reverse⟩ } '>').finish := by
        rw [Lexer.foldl_tagName h.name, List.foldl_append,
          Lexer.foldl_fields hread.keys hread.distinct (by simp), List.map_map, List.append_nil]
        rfl
    _ = [.startTag name (fields.map fun field => (field.1, readAttribute field.2))] := by
        rw [Lexer.finish_end _ rfl, List.reverse_reverse]

/-! ### Literal values -/

/-- A value that is read as it was written: no character of it is read as another one, and no
reference is in it. -/
structure IsLiteral (value : Text) : Prop where
  steady : value.all isSteadyChar = true
  free : IsReferenceFree true value

/-- What is read of a text in its full length has no references. -/
lemma eq_of_readAttribute (h : readAttribute w = v) (hlength : w.length = v.length) :
    normalizeSource w = v ∧ IsLiteral v := by
  have hread := decodeReferences_length true (normalizeSource w)
  have hlines := (normalizeSource_isSteady w).2
  -- a reference would make what is read shorter than what was written
  have hfree : IsReferenceFree true (normalizeSource w) := by
    by_contra hreference
    have hlt := hread.2 hreference
    rw [← readAttribute, h] at hlt
    omega
  rw [readAttribute, decodeReferences_of_isReferenceFree hfree] at h
  subst h
  exact ⟨rfl, (normalizeSource_isSteady w).1, hfree⟩

lemma IsLiteral.readAttribute (h : IsLiteral v) : readAttribute v = v := by
  rw [PageNotes.readAttribute, normalizeSource_eq_self_iff.mpr h.steady,
    decodeReferences_of_isReferenceFree h.free]

/-- A value is read as it was written just when it is literal. -/
theorem readAttribute_eq_self_iff : readAttribute v = v ↔ IsLiteral v :=
  ⟨fun h => (eq_of_readAttribute h rfl).2, IsLiteral.readAttribute⟩

instance (v : Text) : Decidable (IsLiteral v) := decidable_of_iff _ readAttribute_eq_self_iff

end PageNotes
