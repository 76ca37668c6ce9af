import PageNotes.Proofs.Markdown.Sturdy

/-!
What the forms of elements carry along. Whatever form an element has, sturdy parts of the text that
its children give are in its Markdown, unless its form is made of its attributes alone.

* `dropsContent`: the elements whose form does not hold the text of their children;
* `Sturdy.elementMarkdown`, `Sturdy.structuralText`: the Markdown of an element by its structure.
-/

namespace PageNotes

/-- Whether the form of an element does not hold the text of its children: it is a picture, a rule
or a script, or has one of the names that are reserved for parts of the conversion. -/
def dropsContent (name : String) : Bool :=
  ["img", "hr", "script", "style", "image_rule", "frame_rule", "footnote_reference_rule"].contains
    (String.ofList (conversionName name))

/-- A conversion whose name has no underscore is that of one element only. -/
lemma conversionName_eq {name known : String} (h : String.ofList (conversionName name) = known)
    (hknown : '_' ∉ known.toList) : name = known := by
  subst h
  rw [String.toList_ofList] at hknown
  have hsame : conversionName name = name.toList := by
    rw [conversionName] at hknown ⊢
    generalize name.toList = chars at hknown ⊢
    induction chars with
    | nil => rfl
    | cons c chars ih =>
        rw [List.map_cons, List.mem_cons, not_or] at hknown
        rw [List.map_cons, ih hknown.2]
        split_ifs with hc
        · rw [if_pos hc] at hknown
          exact absurd rfl hknown.1
        · rfl
  rw [hsame, String.ofList_toList]

namespace Sturdy

variable {k t : Text} {s : Surroundings}

/-! ### Within a line -/

lemma cons (c : Char) (h : k <:+: t) : k <:+: c :: t := List.infix_cons h

lemma left (after : Text) (h : k <:+: t) : k <:+: t ++ after := List.infix_append_of_infix_left h

lemma right (before : Text) (h : k <:+: t) : k <:+: before ++ t :=
  List.infix_append_of_infix_right h

lemma markText (hk : Sturdy k) (mark : Text) (h : k <:+: t) :
    k <:+: PageNotes.markText s mark t := by
  rw [PageNotes.markText]
  by_cases hverbatim : s.verbatim = true
  · rw [if_pos hverbatim]
    exact h
  · rw [if_neg hverbatim]
    exact hk.markedWith _ _ h

lemma linkText (hk : Sturdy k) (o : MarkdownOptions) (attributes : Attributes) (h : k <:+: t) :
    k <:+: PageNotes.linkText o s attributes t := by
  have hcore : k <:+: (chomp t).core := hk.strip h
  rw [PageNotes.linkText]
  by_cases hverbatim : s.verbatim = true
  · rw [if_pos hverbatim]
    exact h
  rw [if_neg hverbatim]
  dsimp only
  rw [hk.isEmpty_of_infix hcore, if_neg Bool.false_ne_true]
  by_cases hshort : (o.autolinks
      && some (PageNotes.unescapeUnderscores (chomp t).core) = attributes.get? "href"
      && (attributes.get "title").isEmpty && !o.defaultTitle) = true
  · rw [if_pos hshort]
    -- the text is the target but for the underscores, so the target holds the part as well
    have htarget :
        some (PageNotes.unescapeUnderscores (chomp t).core) = attributes.get? "href" := by
      simp only [Bool.and_eq_true, decide_eq_true_eq] at hshort
      exact hshort.1.1.2
    rw [← htarget]
    exact cons _ (left _ (hk.unescapeUnderscores hcore))
  · rw [if_neg hshort]
    split
    · exact hcore
    · exact hcore
    · exact right _ (cons _ (left _ hcore))

lemma filmText (attributes : Attributes) (children : Forest) (h : k <:+: t) :
    k <:+: PageNotes.filmText s attributes children t := by
  rw [PageNotes.filmText]
  split_ifs
  · exact h
  · dsimp only
    split
    · exact cons _ (left _ (cons _ (cons _ (left _ h))))
    · exact cons _ (left _ h)
    · exact cons _ (cons _ (left _ h))
    · exact h

lemma breakText (o : MarkdownOptions) (h : k <:+: t) : k <:+: PageNotes.breakText o s t := by
  rw [PageNotes.breakText]
  split_ifs with hinline hempty
  · rw [List.isEmpty_iff.mp hempty] at h
    exact h.trans List.nil_infix
  · exact left _ h
  · exact right _ h
  · exact right _ h

/-! ### Blocks -/

lemma spacedText (h : k <:+: t) : k <:+: PageNotes.spacedText t := cons _ (left _ h)

lemma blockText (hk : Sturdy k) (h : k <:+: t) : k <:+: PageNotes.blockText t := by
  rw [PageNotes.blockText, hk.isEmpty_of_infix h, if_neg Bool.false_ne_true]
  exact cons _ (cons _ (left _ h))

lemma divisionText (hk : Sturdy k) (h : k <:+: t) : k <:+: PageNotes.divisionText s t := by
  rw [PageNotes.divisionText]
  split_ifs
  · exact spacedText (hk.strip h)
  · exact hk.blockText (hk.strip h)

lemma paragraphText (hk : Sturdy k) {o : MarkdownOptions} (ho : o.wrap = false) {w : Text}
    (h : k <:+: t) (hw : PageNotes.paragraphText o s t = .ok w) : k <:+: w := by
  rw [PageNotes.paragraphText, ho] at hw
  dsimp only at hw
  split_ifs at hw
  · cases hw
    exact spacedText (hk.trimSpace h)
  · cases hw
    exact hk.blockText (hk.trimSpace h)

lemma blockquoteText (hk : Sturdy k) (h : k <:+: t) : k <:+: PageNotes.blockquoteText s t := by
  have htrimmed := hk.trimSpace h
  rw [PageNotes.blockquoteText]
  rw [hk.isEmpty_of_infix htrimmed, if_neg Bool.false_ne_true]
  split_ifs
  · exact spacedText htrimmed
  · refine cons _ (left _ (hk.mapLines (fun l hl => ?_) htrimmed))
    rw [hk.isEmpty_of_infix hl, if_neg Bool.false_ne_true]
    exact cons _ (cons _ hl)

lemma headingText (hk : Sturdy k) (o : MarkdownOptions) (level : Nat) (h : k <:+: t) :
    k <:+: PageNotes.headingText o s level t := by
  have hstripped := hk.strip h
  rw [PageNotes.headingText]
  by_cases hinline : s.inline = true
  · rw [if_pos hinline]
    exact h
  rw [if_neg hinline]
  dsimp only
  rw [hk.isEmpty_of_infix hstripped, if_neg Bool.false_ne_true]
  by_cases hunderlined :
      (o.headingStyle = .underlined && decide (max 1 (min 6 level) ≤ 2)) = true
  · rw [if_pos hunderlined]
    exact cons _ (cons _ (left _ hstripped))
  · rw [if_neg hunderlined]
    exact cons _ (cons _ (right _ (cons _ (left _ (left _ (hk.spaceRuns hstripped))))))

lemma listText (hk : Sturdy k) (h : k <:+: t) : k <:+: PageNotes.listText s t := by
  rw [PageNotes.listText]
  split_ifs
  · exact cons _ (hk.stripEnd h)
  · exact cons _ (cons _ (left _ h))

lemma itemText (hk : Sturdy k) {o : MarkdownOptions} {w : Text} (h : k <:+: t)
    (hw : PageNotes.itemText o s t = .ok w) : k <:+: w := by
  have hstripped := hk.strip h
  rw [PageNotes.itemText] at hw
  rw [hk.isEmpty_of_infix hstripped, if_neg Bool.false_ne_true] at hw
  cases hmark : itemMark o s with
  | error e =>
      rw [hmark] at hw
      cases hw
  | ok mark =>
      rw [hmark] at hw
      cases hw
      exact left _ (right _ (hk.drop_indentLines le_rfl (hk.ne_nil_of_infix hstripped)
        (Text.strip_head_ne t) hstripped))

lemma termText (hk : Sturdy k) (h : k <:+: t) : k <:+: PageNotes.termText s t := by
  have hsettled := hk.spaceRuns (hk.strip h)
  rw [PageNotes.termText]
  rw [hk.isEmpty_of_infix hsettled, if_neg Bool.false_ne_true]
  split_ifs
  · exact spacedText hsettled
  · exact cons _ (cons _ (left _ hsettled))

lemma definitionText (hk : Sturdy k) (h : k <:+: t) : k <:+: PageNotes.definitionText s t := by
  have hstripped := hk.strip h
  rw [PageNotes.definitionText]
  rw [hk.isEmpty_of_infix hstripped, if_neg Bool.false_ne_true]
  split_ifs
  · exact spacedText hstripped
  · exact cons _ (left _ (hk.drop_indentLines (by decide) (hk.ne_nil_of_infix hstripped)
      (Text.strip_head_ne t) hstripped))

lemma footnoteBodyText (hk : Sturdy k) (attributes : Attributes) (h : k <:+: t) :
    k <:+: PageNotes.footnoteBodyText attributes t := by
  have hstripped := hk.strip h
  rw [PageNotes.footnoteBodyText]
  rw [hk.isEmpty_of_infix hstripped, if_neg Bool.false_ne_true]
  refine cons _ (cons _ (right _ (cons _ (cons _ (left _ ?_)))))
  split_ifs
  · exact hstripped
  · exact left _ hstripped

/-! ### Tables -/

lemma tableText (hk : Sturdy k) (h : k <:+: t) : k <:+: PageNotes.tableText t :=
  cons _ (cons _ (left _ (hk.strip h)))

lemma captionText (hk : Sturdy k) (h : k <:+: t) : k <:+: PageNotes.captionText t :=
  left _ (hk.strip h)

lemma cellText (hk : Sturdy k) {attributes : Attributes} {w : Text} (h : k <:+: t)
    (hw : PageNotes.cellText attributes t = .ok w) : k <:+: w := by
  rw [PageNotes.cellText] at hw
  cases hspan : columnSpan attributes with
  | error e =>
      rw [hspan] at hw
      cases hw
  | ok span =>
      rw [hspan] at hw
      cases hw
      exact cons _ (left _ (hk.oneLine (hk.strip h)))

lemma rowText {o : MarkdownOptions} {children : Forest} {w : Text} (h : k <:+: t)
    (hw : PageNotes.rowText o s children t = .ok w) : k <:+: w := by
  have hrow : k <:+: '|' :: (t ++ ['\n']) := cons _ (left _ h)
  rw [PageNotes.rowText] at hw
  generalize totalSpan _ = span at hw
  cases span with
  | error e => cases hw
  | ok span =>
      simp only [bind, Except.bind] at hw
      split_ifs at hw
      all_goals
        cases hw
        first
        | exact left _ hrow
        | exact right _ hrow
        | exact hrow

/-! ### Elements by name -/

/-- The Markdown of an element by its name holds the sturdy parts of what its children give. -/
lemma elementMarkdown (hk : Sturdy k) {o : MarkdownOptions} (ho : o.wrap = false) {name : String}
    (hcode : isCode name = false) (hdrops : dropsContent name = false) {attributes : Attributes}
    {children : Forest} {w : Text} (h : k <:+: t)
    (hw : PageNotes.elementMarkdown o s name attributes children t = .ok w) : k <:+: w := by
  rw [PageNotes.elementMarkdown] at hw
  split at hw
  case h_1 => exact Except.ok.inj hw ▸ hk.linkText o attributes h
  case h_2 | h_3 | h_4 | h_5 | h_6 | h_7 | h_8 | h_9 => exact Except.ok.inj hw ▸ hk.markText _ h
  case h_10 hname | h_11 hname | h_12 hname | h_30 hname =>
    rw [conversionName_eq hname (by decide)] at hcode
    exact absurd hcode (by decide)
  case h_13 => exact Except.ok.inj hw ▸ cons _ (left _ h)
  case h_14 => exact Except.ok.inj hw ▸ breakText o h
  case h_15 hname | h_23 hname | h_37 hname | h_38 hname | h_39 hname | h_40 hname | h_41 hname =>
    simp [dropsContent, hname] at hdrops
  case h_16 => exact Except.ok.inj hw ▸ filmText attributes children h
  case h_17 => exact hk.paragraphText ho h hw
  case h_18 | h_19 | h_20 | h_21 => exact Except.ok.inj hw ▸ hk.divisionText h
  case h_22 => exact Except.ok.inj hw ▸ hk.blockquoteText h
  case h_24 | h_25 | h_26 => exact Except.ok.inj hw ▸ hk.listText h
  case h_27 => exact hk.itemText h hw
  case h_28 => exact Except.ok.inj hw ▸ hk.termText h
  case h_29 => exact Except.ok.inj hw ▸ hk.definitionText h
  case h_31 | h_33 => exact Except.ok.inj hw ▸ hk.tableText h
  case h_32 => exact Except.ok.inj hw ▸ hk.captionText h
  case h_34 | h_35 => exact hk.cellText h hw
  case h_36 => exact rowText h hw
  case h_42 => exact Except.ok.inj hw ▸ hk.footnoteBodyText attributes h
  case h_43 | h_44 | h_45 | h_46 => cases hw
  case h_47 =>
    split at hw
    · exact Except.ok.inj hw ▸ hk.headingText o _ h
    · exact Except.ok.inj hw ▸ h

lemma structuralText (hk : Sturdy k) {o : MarkdownOptions} (ho : o.wrap = false) {name : String}
    (hcode : isCode name = false) (hdrops : dropsContent name = false) {attributes : Attributes}
    {children : Forest} {w : Text} (h : k <:+: t)
    (hw : PageNotes.structuralText o s (.element name attributes children) t = .ok w) :
    k <:+: w := by
  rw [PageNotes.structuralText] at hw
  split_ifs at hw
  · exact hk.elementMarkdown ho hcode hdrops h hw
  · exact Except.ok.inj hw ▸ h

end Sturdy

end PageNotes
