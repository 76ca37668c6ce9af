import PageNotes.Proofs.Markdown.Places
import PageNotes.Proofs.Text.Trim

/-!
Ways back from footnotes. A footnote with a number gets a link back to the reference with this
number at its end, unless its text names a reference, that is a place in the page with `ref` in its
name. A link back does, but so may the identifier of a heading, a link to another page and plain
text, and for these no link back is written.

* `NamesReference`, `hasBackReference_iff`: the texts that name a reference;
* `identifierNumber_append`: the number of a footnote;
* `footnoteBlock`, `GivesWayBack`: the form of a footnote, and one link back at the end of its text;
* `Renderer.write_footnote_iff`: which footnotes get this link.
-/

namespace PageNotes

/-! ### Naming a reference -/

/-- A text that names a reference: behind a number sign stands a name with `ref` in it, in whatever
case. -/
def NamesReference (t : Text) : Prop :=
  ∃ before name after, t = before ++ '#' :: (name ++ after) ∧
    (∀ c ∈ name, isFragmentChar c = true) ∧ ['r', 'e', 'f'] <:+: Text.asciiLower name

lemma NamesReference.mono {k t : Text} (h : NamesReference k) (hk : k <:+: t) :
    NamesReference t := by
  obtain ⟨before, name, after, rfl, hname, href⟩ := h
  obtain ⟨left, right, rfl⟩ := hk
  exact ⟨left ++ before, name, after ++ right, by simp, hname, href⟩

/-- The search for a link back finds the texts that name a reference. -/
lemma hasBackReference_iff {t : Text} : hasBackReference t = true ↔ NamesReference t := by
  induction t with
  | nil => simp [hasBackReference, NamesReference]
  | cons c t ih =>
      rw [hasBackReference, Bool.or_eq_true, ih, Bool.and_eq_true, decide_eq_true_eq,
        Text.hasPart_iff]
      constructor
      · rintro (⟨rfl, href⟩ | hrest)
        · refine ⟨[], t.takeWhile isFragmentChar, t.dropWhile isFragmentChar, ?_, ?_, href⟩
          · rw [List.takeWhile_append_dropWhile]
            rfl
          · exact fun d hd => List.mem_takeWhile_imp hd
        · exact hrest.mono (List.suffix_cons c t).isInfix
      · rintro ⟨before, name, after, heq, hname, href⟩
        cases before with
        | nil =>
            obtain ⟨rfl, rfl⟩ := List.cons.inj heq
            refine Or.inl ⟨rfl, ?_⟩
            rw [List.takeWhile_append_of_pos hname, Text.asciiLower, List.map_append]
            exact List.infix_append_of_infix_left href
        | cons d before =>
            obtain ⟨-, rfl⟩ := List.cons.inj heq
            exact Or.inr ⟨before, name, after, rfl, hname, href⟩

instance : DecidablePred NamesReference := fun _ => decidable_of_iff _ hasBackReference_iff

/-! ### Links back -/

/-- The digits behind something else at the end of an identifier are its number. -/
lemma identifierNumber_append {start number : Text} (hne : number ≠ [])
    (hdigits : ∀ c ∈ number, isDigit c = true) (hstart : ∀ c ∈ start.getLast?, isDigit c = false) :
    identifierNumber (start ++ number) = number := by
  have hlast : (start ++ number).getLast? ≠ some '\n' := by
    rw [List.getLast?_append_of_ne_nil _ hne]
    intro hnewline
    have hdigit := hdigits '\n' (List.mem_of_getLast? hnewline)
    exact absurd hdigit (by decide +kernel)
  have hnone : Text.takeEnd isDigit start = [] := by
    have hsplit := Text.trimEnd_append_takeEnd isDigit start
    rwa [Text.trimEnd_eq_self hstart, List.append_right_eq_self] at hsplit
  rw [identifierNumber, if_neg hlast, Text.takeEnd_append start hdigits, hnone, List.nil_append]

/-- A link back without its closing bracket. -/
def backReferenceStart (number : Text) : Text :=
  ['[', '↩', ']', '(', '#', 'f', 'n', 'r', 'e', 'f'] ++ number

lemma backReference_eq (number : Text) :
    backReference number = backReferenceStart number ++ [')'] := rfl

variable {number content : Text}

/-- A link back names a reference. -/
lemma namesReference_backReference (number : Text) : NamesReference (backReference number) := by
  refine ⟨['[', '↩', ']', '('], ['f', 'n', 'r', 'e', 'f'], number ++ [')'], ?_, ?_, ?_⟩
  · rw [backReference_eq, backReferenceStart, List.append_assoc]
    rfl
  · exact List.all_eq_true.mp (by decide +kernel)
  · exact ⟨['f', 'n'], [], by decide⟩

lemma notMem_backReferenceStart {c : Char} (hdigits : ∀ d ∈ number, isDigit d = true)
    (hdigit : isDigit c = false) (hstart : c ∉ ['[', '↩', ']', '(', '#', 'f', 'n', 'r', 'e', 'f']) :
    c ∉ backReferenceStart number := by
  rw [backReferenceStart, List.mem_append, not_or]
  refine ⟨hstart, fun hmem => ?_⟩
  rw [hdigits c hmem] at hdigit
  cases hdigit

/-- A character that only ends a mark ends it only where the mark does, so a mark that is put behind
a text without it stands there once. -/
lemma eq_nil_of_append_mark {c : Char} {opening t before after : Text} (hc : c ∉ opening)
    (ht : ¬opening ++ [c] <:+: t)
    (h : t ++ (opening ++ [c]) = before ++ ((opening ++ [c]) ++ after)) : after = [] := by
  rcases List.eq_nil_or_concat after with hnil | ⟨after, d, rfl⟩
  · exact hnil
  · -- with something behind it, the mark would end before the character that ends the whole text
    have hshort : t ++ opening = before ++ ((opening ++ [c]) ++ after) := by
      rw [List.concat_eq_append, ← List.append_assoc, ← List.append_assoc, ← List.append_assoc] at h
      rw [← List.append_assoc]
      exact (List.append_inj' h rfl).1
    have hpart : opening ++ [c] <:+: t ++ opening := ⟨before, after, by rw [hshort]; simp⟩
    rcases List.infix_append_iff.mp hpart with hleft | hright | ⟨k₁, k₂, hk, hleft, hright⟩
    · exact absurd hleft ht
    · exact absurd (hright.subset (by simp)) hc
    · rcases List.eq_nil_or_concat k₂ with rfl | ⟨k₂, e, rfl⟩
      · rw [List.append_nil] at hk
        exact absurd (hk ▸ hleft.isInfix) ht
      · rw [List.concat_eq_append, ← List.append_assoc] at hk
        obtain rfl : c = e := by simpa using (List.append_inj' hk rfl).2
        exact absurd (hright.subset (by simp)) hc

/-- What is put behind the content of a footnote: a link back, with a blank before it if there is
some content. -/
def wayBack (number content : Text) : Text :=
  (if content.isEmpty then [] else [' ']) ++ backReference number

/-- A text with one link back, which is put behind a content. -/
structure GivesWayBack (number content body : Text) : Prop where
  ending : body = content ++ wayBack number content
  once : ∀ before after, body = before ++ (backReference number ++ after) → after = []

lemma wayBack_ne_nil (number content : Text) : wayBack number content ≠ [] := by
  simp [wayBack, backReference_eq]

/-- Behind a content that names no reference a link back is the only one. -/
lemma givesWayBack_append (hdigits : ∀ c ∈ number, isDigit c = true)
    (h : ¬NamesReference content) :
    GivesWayBack number content (content ++ wayBack number content) := by
  refine ⟨rfl, fun before after heq => ?_⟩
  have hno : ¬backReference number <:+: content := fun hpart =>
    h ((namesReference_backReference number).mono hpart)
  rw [wayBack, ← List.append_assoc, backReference_eq] at heq
  have hclosing : ')' ∉ backReferenceStart number :=
    notMem_backReferenceStart hdigits (by decide +kernel) (by decide)
  refine eq_nil_of_append_mark hclosing (fun hpart => ?_) heq
  rw [← backReference_eq] at hpart
  split_ifs at hpart
  · rw [List.append_nil] at hpart
    exact hno hpart
  · have hblank : ' ' ∉ backReference number := by
      rw [backReference_eq, List.mem_append, not_or]
      exact ⟨notMem_backReferenceStart hdigits (by decide +kernel) (by decide), by decide⟩
    have hne : backReference number ≠ [] := by simp [backReference_eq]
    rcases infix_of_append_cons hne hblank hpart with hleft | hright
    · exact hno hleft
    · exact hne (List.infix_nil.mp hright)

/-! ### Footnotes -/

/-- A footnote around its text. -/
def footnoteBlock (attributes : Attributes) (body : Text) : Text :=
  '\n' :: '\n' :: ('<' :: (Text.join [' '] ("div".toList :: identifierParts attributes) ++ ['>'])
    ++ '\n' :: '\n' :: (body ++ "\n\n</div>\n\n".toList))

/-- A numbered footnote has its content, and a link back behind it unless this names a reference. -/
lemma footnoteBodyText_eq {attributes : Attributes} (t : Text)
    (h : identifierNumber (attributes.get "id") = number) (hne : number ≠ []) :
    footnoteBodyText attributes t = footnoteBlock attributes
      (if NamesReference (Text.strip t) then Text.strip t
      else Text.strip t ++ wayBack number (Text.strip t)) := by
  have hnumber : number.isEmpty = false := List.isEmpty_eq_false_iff.mpr hne
  rw [footnoteBodyText, h, hnumber, Bool.or_false]
  simp only [hasBackReference_iff, wayBack]
  by_cases hnames : NamesReference (Text.strip t)
  · rw [if_pos hnames, if_pos hnames]
    rfl
  · rw [if_neg hnames, if_neg hnames]
    cases hcontent : Text.strip t with
    | nil => rfl
    | cons c rest => rfl

section Footnote

variable {name : String} {attributes : Attributes} {children : Forest} {start : Text}

lemma Renderer.write_footnoteBody (s : Surroundings) (t : Text)
    (h : isFootnoteBody (.element name attributes children) = true) (himage : name ≠ "img")
    (hframe : isFrame name = false) :
    Renderer.standard.write s (.element name attributes children) t
      = .ok (footnoteBodyText attributes t) := by
  have hnamed : (Node.element name attributes children).named "img" = false := by
    simpa [Node.named] using himage
  have hembedded : isEmbeddedFrame (.element name attributes children) = false := hframe
  have hidentifier : hasIdentifier (.element name attributes children) = false := by
    rw [hasIdentifier, h, Bool.or_true, Bool.not_true, Bool.and_false]
  have hreference : isFootnoteReference (.element name attributes children) = false := by
    rw [isFootnoteBody, Bool.and_eq_true, Bool.and_eq_true, Bool.not_eq_true'] at h
    rw [isFootnoteReference, h.1.2, Bool.false_and]
  rw [Renderer.write_standard, hnamed, hembedded, hidentifier, hreference, h,
    if_neg Bool.false_ne_true, if_neg Bool.false_ne_true, if_neg Bool.false_ne_true,
    if_neg Bool.false_ne_true, if_pos rfl]
  rfl

/-- **Ways back.** A footnote whose identifier ends in a number is written around its content,
whatever links are in it, and gets one link back to the reference with its number at the end just
when the content names no reference. Else the content stands alone. -/
theorem Renderer.write_footnote_iff (h : isFootnoteBody (.element name attributes children) = true)
    (himage : name ≠ "img") (hframe : isFrame name = false)
    (hid : attributes.get "id" = start ++ number) (hne : number ≠ [])
    (hdigits : ∀ c ∈ number, isDigit c = true) (hstart : ∀ c ∈ start.getLast?, isDigit c = false)
    (s : Surroundings) (t : Text) :
    ∃ body, Renderer.standard.write s (.element name attributes children) t
        = .ok (footnoteBlock attributes body) ∧
      (GivesWayBack number (Text.strip t) body ↔ ¬NamesReference (Text.strip t)) ∧
      (NamesReference (Text.strip t) → body = Text.strip t) := by
  have hnumber : identifierNumber (attributes.get "id") = number := by
    rw [hid, identifierNumber_append hne hdigits hstart]
  refine ⟨if NamesReference (Text.strip t) then Text.strip t
    else Text.strip t ++ wayBack number (Text.strip t), ?_, ?_, fun hnames => if_pos hnames⟩
  · rw [Renderer.write_footnoteBody s t h himage hframe, footnoteBodyText_eq t hnumber hne]
  · constructor
    · intro hback hnames
      have hending := hback.ending
      rw [if_pos hnames, List.self_eq_append_right] at hending
      exact wayBack_ne_nil _ _ hending
    · intro hnames
      rw [if_neg hnames]
      exact givesWayBack_append hdigits hnames

end Footnote

/-- The attributes of the first footnote. -/
def firstNote : Attributes := [("class", "footnote".toList), ("id", "fn1".toList)]

/-- A footnote that speaks of preferences gets no link back, though no link is in it. -/
theorem Renderer.write_footnote_iff_preferences :
    isFootnoteBody (.element "div" firstNote [.text .plain "See #preferences".toList]) = true ∧
      ∃ body, Renderer.standard.write .top
          (.element "div" firstNote [.text .plain "See #preferences".toList])
          "See #preferences".toList = .ok (footnoteBlock firstNote body) ∧
        body = "See #preferences".toList ∧
        ¬GivesWayBack ['1'] "See #preferences".toList body := by
  have h : isFootnoteBody (.element "div" firstNote [.text .plain "See #preferences".toList])
      = true := by decide +kernel
  have hnames : NamesReference (Text.strip "See #preferences".toList) := by decide +kernel
  have hstrip : Text.strip "See #preferences".toList = "See #preferences".toList := by
    decide +kernel
  have hid : firstNote.get "id" = ['f', 'n'] ++ ['1'] := by decide +kernel
  have hstart : ∀ c ∈ ['f', 'n'].getLast?, isDigit c = false := by
    intro c hc
    obtain rfl : 'n' = c := Option.some.inj hc
    decide +kernel
  obtain ⟨body, hwrite, hback, halone⟩ := Renderer.write_footnote_iff h (by decide) (by decide) hid
    (by decide) (List.all_eq_true.mp (by decide +kernel)) hstart .top "See #preferences".toList
  rw [hstrip] at hback halone hnames
  exact ⟨h, body, hwrite, halone hnames, fun hgives => hback.mp hgives hnames⟩

end PageNotes
