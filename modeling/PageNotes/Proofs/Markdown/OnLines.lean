import PageNotes.Proofs.Markdown.Anchored
import PageNotes.Proofs.Path.Names

/-!
Texts on lines of their own. A block between fences that has lines of its own in what the children
of an element give has them in the Markdown of the element, if its form trims that text only to put
it between line ends again, or puts something before and behind it.

* `onLines`, `Fenced`: a text between line ends, and the texts that this is about;
* `Fenced.append_left`, `Fenced.append_right`: what stands around the lines may change;
* `Fenced.trim`, `Fenced.joinParts`: trimmed texts and the parts of an element;
* `breaksLines`, `Fenced.elementMarkdown`: the forms of elements;
* `Fenced.anchorInto`: elements with identifiers.
-/

namespace PageNotes

/-- A text between line ends. -/
def onLines (k : Text) : Text := '\n' :: (k ++ ['\n'])

/-- The lines of a text that has lines of its own are lines of the text that it stands in. -/
lemma linesOf_infix {k t : Text} (h : onLines k <:+: onLines t) : linesOf k <:+: linesOf t := by
  obtain ⟨a, b, hab⟩ := h
  have hlines : linesOf a ++ (linesOf k ++ linesOf b) = [] :: (linesOf t ++ [[]]) := by
    calc linesOf a ++ (linesOf k ++ linesOf b)
        = linesOf (a ++ '\n' :: (k ++ '\n' :: b)) := by
          rw [linesOf, linesOf, linesOf, linesOf, Text.split_append_cons, Text.split_append_cons]
      _ = linesOf ('\n' :: (t ++ '\n' :: [])) := congrArg linesOf (by simpa [onLines] using hab)
      _ = [] :: (linesOf t ++ [[]]) := by
          rw [linesOf, linesOf, Text.split, if_pos rfl, Text.split_append_cons]
          rfl
  obtain ⟨first, before, hbefore⟩ := List.exists_cons_of_ne_nil (Text.split_ne_nil '\n' a)
  obtain ⟨after, last, hafter⟩ :=
    (List.eq_nil_or_concat' (linesOf b)).resolve_left (Text.split_ne_nil '\n' b)
  rw [linesOf, hbefore, hafter, List.cons_append, ← List.append_assoc,
    ← List.append_assoc] at hlines
  exact ⟨before, after, List.append_inj_left' (List.cons.inj hlines).2 rfl⟩

/-- A text that starts and ends with the mark of a fence. -/
structure Fenced (k : Text) : Prop where
  head : k.head? = some '`'
  last : k.getLast? = some '`'

/-! ### Line ends -/

lemma newlines_head {n : Nat} (h : 0 < n) : (newlines n).head? = some '\n' := by
  rw [newlines, List.head?_replicate, if_neg h.ne']

lemma newlines_getLast {n : Nat} (h : 0 < n) : (newlines n).getLast? = some '\n' := by
  rw [newlines, List.getLast?_replicate, if_neg h.ne']

lemma meetingLines_pos {trailing leading : Nat} (h : 0 < trailing ∨ 0 < leading) :
    0 < meetingLines trailing leading := by
  rw [meetingLines]
  split_ifs <;> omega

/-- The line ends that a part ends with are not lost. -/
lemma joinPartsAfter_head {trailing : Nat} (h : 0 < trailing) (parts : List Text) :
    (joinPartsAfter trailing parts).head? = some '\n' := by
  cases parts with
  | nil => exact newlines_head h
  | cons part parts =>
      have hbetween : ∀ leading, (newlines (meetingLines trailing leading)).head? = some '\n' :=
        fun leading => newlines_head (meetingLines_pos (Or.inl h))
      rw [joinPartsAfter]
      dsimp only
      split_ifs
      · rw [List.head?_append, hbetween, Option.some_or]
      · rw [List.head?_append, List.head?_append, hbetween, Option.some_or, Option.some_or]

/-! ### Elements that break lines -/

/-- Whether the form of an element may put a line end out of its place: what its children give is
set into a line, marked or indented line by line, or not used at all. -/
def breaksLines (name : String) : Bool :=
  (headingLevel? name).isSome || isFrame name ||
    ["a", "b", "strong", "em", "i", "del", "s", "sub", "sup", "code", "kbd", "samp", "img",
      "blockquote", "hr", "li", "dt", "dd", "pre", "caption", "td", "th", "script", "style",
      "image_rule", "frame_rule", "footnote_reference_rule", "footnote_body_rule"].contains
      (String.ofList (conversionName name))

/-- Elements that do not break lines are no code, cells, items, headings, pictures, frames or
references to footnotes. -/
lemma kind_of_breaksLines {name : String} (h : breaksLines name = false) :
    (isCode name = false ∧ isCell name = false ∧ isNumberedHeading name = false) ∧
      (name ≠ "li" ∧ name ≠ "pre" ∧ name ≠ "img" ∧ name ≠ "a" ∧ name ≠ "sup") ∧
      headingLevel? name = none ∧ isFrame name = false := by
  have hne : ∀ other : String, breaksLines other = true → name ≠ other := by
    rintro other hother rfl
    rw [h] at hother
    cases hother
  refine ⟨⟨?code, ?cell, ?heading⟩, ⟨hne _ (by decide), hne _ (by decide), hne _ (by decide),
    hne _ (by decide), hne _ (by decide)⟩, ?level, ?frame⟩
  case code =>
    simp [isCode, hne "pre" (by decide), hne "code" (by decide), hne "kbd" (by decide),
      hne "samp" (by decide)]
  case cell => simp [isCell, hne "td" (by decide), hne "th" (by decide)]
  case heading =>
    simp [isNumberedHeading, hne "h1" (by decide), hne "h2" (by decide), hne "h3" (by decide),
      hne "h4" (by decide), hne "h5" (by decide), hne "h6" (by decide)]
  case level =>
    rw [breaksLines, Bool.or_eq_false_iff, Bool.or_eq_false_iff] at h
    exact Option.isNone_iff_eq_none.mp (Option.isSome_eq_false_iff.mp h.1.1)
  case frame =>
    rw [breaksLines, Bool.or_eq_false_iff, Bool.or_eq_false_iff] at h
    exact h.1.2

namespace Fenced

variable {k s t : Text}

lemma mem (hk : Fenced k) : '`' ∈ k := List.mem_of_mem_head? hk.head

lemma mem_of_infix (hk : Fenced k) (h : onLines k <:+: t) : '`' ∈ t := by
  refine h.subset ?_
  rw [onLines, List.mem_cons, List.mem_append]
  exact Or.inr (Or.inl hk.mem)

lemma reverse (hk : Fenced k) : Fenced k.reverse :=
  ⟨by rw [List.head?_reverse, hk.last], by rw [List.getLast?_reverse, hk.head]⟩

lemma mark_notMem {p : Char → Bool} (hp : p '`' = false) (hs : ∀ c ∈ s, p c = true) : '`' ∉ s := by
  intro hmem
  rw [hs '`' hmem] at hp
  cases hp

/-! ### What stands around the lines -/

/-- A text that stands before the lines, without a mark of a fence, may give way to another one that
ends with a line end if it does. -/
lemma append_left (hk : Fenced k) {s' : Text} (hs : '`' ∉ s)
    (hend : s.getLast? = some '\n' → s'.getLast? = some '\n') (h : onLines k <:+: s ++ t) :
    onLines k <:+: s' ++ t := by
  rcases List.infix_append_iff.mp h with hleft | hright | ⟨k₁, k₂, heq, hk₁, hk₂⟩
  case inl => exact absurd (hk.mem_of_infix hleft) hs
  case inr.inl => exact List.infix_append_of_infix_right hright
  case inr.inr =>
    cases k₁ with
    | nil =>
        rw [heq, List.nil_append]
        exact List.infix_append_of_infix_right hk₂.isInfix
    | cons c k₁ =>
        obtain ⟨rfl, hrest⟩ := List.cons.inj heq
        cases k₁ with
        | nil =>
            -- the line end before the lines is the last character of the text
            obtain ⟨u, rfl⟩ := hk₁
            obtain ⟨u', rfl⟩ := List.getLast?_eq_some_iff.mp (hend (by simp))
            obtain ⟨v, rfl⟩ := hk₂
            refine ⟨u', v, ?_⟩
            rw [onLines, hrest]
            simp
        | cons d k₁ =>
            -- the first character of the lines would stand in the text
            have hd : d = '`' := by
              have hfirst := congrArg List.head? hrest
              rw [List.head?_append, hk.head] at hfirst
              exact (Option.some.inj hfirst).symm
            exact absurd (hd ▸ hk₁.subset (List.mem_cons_of_mem _ List.mem_cons_self)) hs

lemma append_right (hk : Fenced k) {t' : Text} (ht : '`' ∉ t)
    (hstart : t.head? = some '\n' → t'.head? = some '\n') (h : onLines k <:+: s ++ t) :
    onLines k <:+: s ++ t' := by
  have hreverse : (onLines k).reverse = onLines k.reverse := by simp [onLines]
  rw [← List.reverse_infix, hreverse, List.reverse_append] at h ⊢
  refine hk.reverse.append_left (by simpa using ht) ?_ h
  rwa [List.getLast?_reverse, List.getLast?_reverse]

/-- What is trimmed away from a text may have held the line ends around the lines. -/
lemma trim (hk : Fenced k) {p : Char → Bool} (hp : p '`' = false) (h : onLines k <:+: t) :
    onLines k <:+: onLines (Text.trim p t) := by
  have hstart : onLines k <:+: ['\n'] ++ Text.trimStart p t := by
    rw [← List.takeWhile_append_dropWhile (p := p) (l := t)] at h
    exact hk.append_left (mark_notMem hp fun c => List.mem_takeWhile_imp) (fun _ => rfl) h
  rw [← Text.trimEnd_append_takeEnd p (Text.trimStart p t), ← List.append_assoc] at hstart
  exact hk.append_right (mark_notMem hp fun c => Text.of_mem_takeEnd) (fun _ => rfl) hstart

lemma ne_nil_of_onLines (hk : Fenced k) (h : onLines k <:+: onLines t) : t ≠ [] := by
  rintro rfl
  exact absurd (hk.mem_of_infix h) (by decide)

/-! ### Parts of an element -/

lemma joinPartsAfter (hk : Fenced k) {part : Text} {parts : List Text} (hmem : part ∈ parts)
    (h : onLines k <:+: part) (trailing : Nat) :
    onLines k <:+: PageNotes.joinPartsAfter trailing parts := by
  have hmark : (fun c : Char => decide (c = '\n')) '`' = false := by decide
  induction parts generalizing trailing with
  | nil => cases hmem
  | cons first parts ih =>
      rw [PageNotes.joinPartsAfter]
      rcases List.mem_cons.mp hmem with rfl | hmem
      · simp only [Text.drop_takeWhile_length, Text.take_sub_takeEnd]
        rw [← List.takeWhile_append_dropWhile (p := (· = '\n')) (l := part)] at h
        have hbody : onLines k <:+: newlines (meetingLines trailing
            (part.takeWhile (· = '\n')).length) ++ part.dropWhile (· = '\n') := by
          refine hk.append_left (mark_notMem hmark fun c => List.mem_takeWhile_imp)
            (fun hlast => ?_) h
          refine newlines_getLast (meetingLines_pos (Or.inr ?_))
          exact List.length_pos_of_mem (List.mem_of_getLast? hlast)
        have hne : part.dropWhile (· = '\n') ≠ [] := by
          intro hnil
          have hmem := hk.mem_of_infix hbody
          rw [hnil, List.append_nil, newlines, List.mem_replicate] at hmem
          exact absurd hmem.2 (by decide)
        generalize newlines _ = between at hbody ⊢
        generalize part.dropWhile (· = '\n') = body at hne hbody ⊢
        rw [if_neg (by simpa using hne)]
        rw [← Text.trimEnd_append_takeEnd (· = '\n') body, ← List.append_assoc] at hbody
        refine hk.append_right (mark_notMem hmark fun c => Text.of_mem_takeEnd)
          (fun hhead => ?_) hbody
        exact joinPartsAfter_head (List.length_pos_of_mem (List.mem_of_mem_head? hhead)) parts
      · dsimp only
        split_ifs
        · exact List.infix_append_of_infix_right (ih hmem _)
        · exact List.infix_append_of_infix_right (ih hmem _)

/-- The parts of an element put together. -/
lemma joinParts (hk : Fenced k) {part : Text} {parts : List Text} (hmem : part ∈ parts)
    (h : onLines k <:+: part) : onLines k <:+: PageNotes.joinParts parts := by
  refine hk.joinPartsAfter (List.mem_filter.mpr ⟨hmem, ?_⟩) h 0
  have hne := List.ne_nil_of_mem (hk.mem_of_infix h)
  simpa using hne

/-! ### Forms of elements -/

/-- Lines between line ends may get more of them. -/
lemma spaced (before after : Text) (h : onLines k <:+: onLines t) :
    onLines k <:+: before ++ '\n' :: (t ++ '\n' :: after) := by
  refine h.trans ⟨before, after, ?_⟩
  rw [onLines]
  simp

lemma blockText (hk : Fenced k) (h : onLines k <:+: onLines t) :
    onLines k <:+: PageNotes.blockText t := by
  rw [PageNotes.blockText, if_neg (by simpa using hk.ne_nil_of_onLines h)]
  exact spaced ['\n'] ['\n'] h

lemma strip (hk : Fenced k) (h : onLines k <:+: t) : onLines k <:+: onLines (Text.strip t) :=
  hk.trim (by decide) h

lemma tableText (hk : Fenced k) (h : onLines k <:+: t) : onLines k <:+: PageNotes.tableText t :=
  spaced ['\n'] ['\n'] (hk.strip h)

variable {s : Surroundings}

lemma divisionText (hk : Fenced k) (hinline : s.inline = false) (h : onLines k <:+: t) :
    onLines k <:+: PageNotes.divisionText s t := by
  rw [PageNotes.divisionText, hinline, if_neg Bool.false_ne_true]
  exact hk.blockText (hk.strip h)

lemma paragraphText (hk : Fenced k) (hinline : s.inline = false) {o : MarkdownOptions}
    (ho : o.wrap = false) {w : Text} (h : onLines k <:+: t)
    (hw : PageNotes.paragraphText o s t = .ok w) : onLines k <:+: w := by
  rw [PageNotes.paragraphText, hinline, ho] at hw
  dsimp only at hw
  rw [if_neg Bool.false_ne_true] at hw
  exact Except.ok.inj hw ▸ hk.blockText (hk.trim (by decide) h)

lemma listText (hli : s.inside "li" = false) (h : onLines k <:+: t) :
    onLines k <:+: PageNotes.listText s t := by
  rw [PageNotes.listText, hli, if_neg Bool.false_ne_true]
  exact Sturdy.cons _ (Sturdy.cons _ (Sturdy.left _ h))

/-- A footnote without a number gets no link behind its text. -/
lemma footnoteBodyText (hk : Fenced k) {attributes : Attributes}
    (hnumber : identifierNumber (attributes.get "id") = []) (h : onLines k <:+: t) :
    onLines k <:+: PageNotes.footnoteBodyText attributes t := by
  have hbody := hk.strip h
  have hclosing : "\n\n</div>\n\n".toList = '\n' :: ("\n</div>\n\n".toList) := by decide +kernel
  rw [PageNotes.footnoteBodyText, hnumber, List.isEmpty_nil, Bool.or_true, if_pos rfl, hclosing]
  exact Sturdy.cons _ (Sturdy.cons _ (Sturdy.right _ (spaced ['\n'] _ hbody)))

/-- The Markdown of an element by its name holds the lines that what its children give holds. -/
lemma elementMarkdown (hk : Fenced k) {o : MarkdownOptions} (ho : o.wrap = false)
    (hinline : s.inline = false) (hli : s.inside "li" = false) {name : String}
    (hbreaks : breaksLines name = false) {attributes : Attributes} {children : Forest} {w : Text}
    (h : onLines k <:+: t)
    (hw : PageNotes.elementMarkdown o s name attributes children t = .ok w) :
    onLines k <:+: w := by
  rw [breaksLines, Bool.or_eq_false_iff, Bool.or_eq_false_iff] at hbreaks
  obtain ⟨⟨hheading, -⟩, hname⟩ := hbreaks
  rw [PageNotes.elementMarkdown] at hw
  split at hw
  case h_13 => exact Except.ok.inj hw ▸ Sturdy.cons _ (Sturdy.left _ h)
  case h_14 => exact Except.ok.inj hw ▸ Sturdy.breakText o h
  case h_16 => exact Except.ok.inj hw ▸ Sturdy.filmText attributes children h
  case h_17 => exact hk.paragraphText hinline ho h hw
  case h_18 | h_19 | h_20 | h_21 => exact Except.ok.inj hw ▸ hk.divisionText hinline h
  case h_24 | h_25 | h_26 => exact Except.ok.inj hw ▸ listText hli h
  case h_31 | h_33 => exact Except.ok.inj hw ▸ hk.tableText h
  case h_36 => exact Sturdy.rowText h hw
  case h_43 | h_44 | h_45 | h_46 => cases hw
  case h_47 =>
    rw [Option.isSome_eq_false_iff, Option.isNone_iff_eq_none] at hheading
    rw [hheading] at hw
    exact Except.ok.inj hw ▸ h
  all_goals
    rename_i hthis
    rw [hthis] at hname
    exact absurd hname (by decide)

lemma structuralText (hk : Fenced k) {o : MarkdownOptions} (ho : o.wrap = false)
    (hinline : s.inline = false) (hli : s.inside "li" = false) {name : String}
    (hbreaks : breaksLines name = false) {attributes : Attributes} {children : Forest} {w : Text}
    (h : onLines k <:+: t)
    (hw : PageNotes.structuralText o s (.element name attributes children) t = .ok w) :
    onLines k <:+: w := by
  rw [PageNotes.structuralText] at hw
  split_ifs at hw
  · exact hk.elementMarkdown ho hinline hli hbreaks h hw
  · exact Except.ok.inj hw ▸ h

/-! ### Identifiers -/

/-- In a row the mark of the place stands behind a bar. -/
lemma anchorRows (hk : Fenced k) (identifier : Text) (h : onLines k <:+: t) :
    onLines k <:+: PageNotes.anchorRows identifier t := by
  rw [PageNotes.anchorRows]
  cases hstart : rowStart? t with
  | none => exact Sturdy.right _ h
  | some start =>
      obtain ⟨space, hspace, htake⟩ := rowStart?_eq_some hstart
      rw [← List.take_append_drop start t] at h
      refine hk.append_left ?_ (fun hlast => ?_) h
      · exact fun hmem => absurd (rowStart?_lead hstart '`' hmem) (by decide)
      · rw [htake] at hlast
        rcases hspace with rfl | rfl <;> simp at hlast

/-- The mark of the place of a text of several lines stands before it. -/
lemma anchorOther (hk : Fenced k) (hlines : '\n' ∈ k) (name : String) (identifier : Text)
    (h : onLines k <:+: t) : onLines k <:+: PageNotes.anchorOther name identifier t := by
  have hwhole : k <:+: t := (List.infix_append ['\n'] k ['\n']).trans h
  have hcore : k <:+: Text.strip t := by
    refine Text.infix_trim (List.ne_nil_of_mem hk.mem) (fun c hc => ?_) (fun c hc => ?_) hwhole
    · rw [hk.head] at hc
      exact Option.some.inj hc ▸ by decide
    · rw [hk.last] at hc
      exact Option.some.inj hc ▸ by decide
  replace hcore := hcore.subset hlines
  rw [PageNotes.anchorOther, List.contains_iff_mem.mpr hcore, Bool.or_true, if_pos rfl]
  split_ifs
  · exact Sturdy.cons _ (Sturdy.cons _ (Sturdy.right _ h))
  · exact Sturdy.right _ h

lemma anchorInto (hk : Fenced k) (hlines : '\n' ∈ k) {name : String}
    (hheading : isNumberedHeading name = false) (hitem : name ≠ "li") (identifier : Text)
    (h : onLines k <:+: t) : onLines k <:+: PageNotes.anchorInto s name identifier t := by
  rw [PageNotes.anchorInto, hheading, if_neg Bool.false_ne_true]
  split_ifs
  · exact h
  · exact hk.anchorRows identifier h
  · exact hk.anchorOther hlines name identifier h

end Fenced

end PageNotes
