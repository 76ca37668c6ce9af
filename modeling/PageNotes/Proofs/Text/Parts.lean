import Mathlib.Data.List.Basic
import Mathlib.Data.List.Induction
import Mathlib.Data.List.TakeWhile
import Mathlib.Tactic.Common
import PageNotes.Text.Blank

/-!
Parts of texts: where a part of a text is found when the text is trimmed, when runs of characters
are replaced in it, and when it is put together from pieces.

* `infix_dropWhile`, `infix_of_append_cons`: parts that do not reach into what is taken away;
* `Text.trimEnd_append_takeEnd`, `Text.strip_head`, `Text.stripStart_eq`: the ends of trimmed texts;
* `Text.replaceRuns_append`: runs on the two sides of a place;
* `Text.infix_join`, `Text.exists_infix_of_join`: parts and pieces.
-/

namespace PageNotes

/-! ### Parts of texts -/

section Parts

variable {α : Type} {p : α → Bool} {k s t : List α}

/-- A part does not start in a stretch without its first character. -/
lemma infix_of_append_right (hne : k ≠ []) (hhead : ∀ c ∈ k.head?, p c = false)
    (hs : ∀ c ∈ s, p c = true) (h : k <:+: s ++ t) : k <:+: t := by
  induction s with
  | nil => exact h
  | cons c s ih =>
      rcases List.infix_cons_iff.mp h with hprefix | hrest
      · obtain ⟨rest, heq⟩ := hprefix
        cases k with
        | nil => exact absurd rfl hne
        | cons d k =>
            injection heq with hd
            have hno := hhead d rfl
            rw [hd, hs c List.mem_cons_self] at hno
            cases hno
      · exact ih (fun d hd => hs d (List.mem_cons_of_mem _ hd)) hrest

lemma infix_dropWhile (hne : k ≠ []) (hhead : ∀ c ∈ k.head?, p c = false) (h : k <:+: t) :
    k <:+: t.dropWhile p := by
  rw [← List.takeWhile_append_dropWhile (p := p) (l := t)] at h
  exact infix_of_append_right hne hhead (fun c hc => List.mem_takeWhile_imp hc) h

/-- A part without a separator lies on one of its sides. -/
lemma infix_of_append_cons {c : α} (hne : k ≠ []) (hc : c ∉ k) (h : k <:+: s ++ c :: t) :
    k <:+: s ∨ k <:+: t := by
  rcases List.infix_append_iff.mp h with hs | ht | ⟨k₁, k₂, rfl, hs, ht⟩
  · exact Or.inl hs
  · rcases List.infix_cons_iff.mp ht with hprefix | ht
    · obtain rfl | ⟨rest, rfl, -⟩ := List.prefix_cons_iff.mp hprefix
      · exact absurd rfl hne
      · exact absurd List.mem_cons_self hc
    · exact Or.inr ht
  · obtain rfl | ⟨rest, rfl, -⟩ := List.prefix_cons_iff.mp ht
    · rw [List.append_nil]
      exact Or.inl hs.isInfix
    · exact absurd (List.mem_append_right _ List.mem_cons_self) hc

/-- A last one that was there before is a repetition. -/
lemma eraseDups_concat [BEq α] [LawfulBEq α] (l : List α) (a : α) [Decidable (a ∈ l)] :
    (l ++ [a]).eraseDups = if a ∈ l then l.eraseDups else l.eraseDups ++ [a] := by
  rw [List.eraseDups_append]
  split_ifs with h
  · have hnone : [a].removeAll l = [] := by simpa [List.removeAll] using h
    rw [hnone, List.eraseDups_nil, List.append_nil]
  · have hone : [a].removeAll l = [a] := by simpa [List.removeAll] using h
    rw [hone]
    rfl

lemma nodup_eraseDups [BEq α] [LawfulBEq α] (l : List α) : l.eraseDups.Nodup := by
  classical
  induction l using List.reverseRecOn with
  | nil => exact List.nodup_nil
  | append_singleton l a ih =>
      rw [eraseDups_concat]
      split_ifs with h
      · exact ih
      · rw [List.nodup_append]
        refine ⟨ih, by simp, fun b hb c hc => ?_⟩
        rintro rfl
        rw [List.mem_eraseDups] at hb
        exact h (List.mem_singleton.mp hc ▸ hb)

end Parts

namespace Text

variable {p : Char → Bool} {k t : Text}

lemma hasPart_iff : hasPart k t = true ↔ k <:+: t := by
  induction t with
  | nil => rw [hasPart, List.isEmpty_iff, List.infix_nil]
  | cons c t ih =>
      rw [hasPart, Bool.or_eq_true, List.isPrefixOf_iff_prefix, ih, List.infix_cons_iff]

/-! ### Ends -/

/-- A part that does not end with a character of a class is not trimmed. -/
lemma infix_trimEnd (hne : k ≠ []) (hlast : ∀ c ∈ k.getLast?, p c = false) (h : k <:+: t) :
    k <:+: trimEnd p t := by
  rw [trimEnd, ← List.reverse_infix, List.reverse_reverse]
  refine infix_dropWhile (by simpa using hne) (fun c hc => ?_) (List.reverse_infix.mpr h)
  rw [List.head?_reverse] at hc
  exact hlast c hc

lemma infix_trim (hne : k ≠ []) (hhead : ∀ c ∈ k.head?, p c = false)
    (hlast : ∀ c ∈ k.getLast?, p c = false) (h : k <:+: t) : k <:+: trim p t :=
  infix_trimEnd hne hlast (infix_dropWhile hne hhead h)

/-- A text is made of what trimming its end leaves and of what this takes away. -/
lemma trimEnd_append_takeEnd (p : Char → Bool) (t : Text) : trimEnd p t ++ takeEnd p t = t := by
  calc trimEnd p t ++ takeEnd p t
      = (t.reverse.takeWhile p ++ t.reverse.dropWhile p).reverse := by
        rw [trimEnd, takeEnd, List.reverse_append]
    _ = t := by rw [List.takeWhile_append_dropWhile, List.reverse_reverse]

/-- A trimmed text does not start with a character of the class. -/
lemma trim_head (p : Char → Bool) (t : Text) : ∀ c ∈ (trim p t).head?, p c = false := by
  intro c hc
  refine trimStart_head p t c ?_
  rw [← trimEnd_append_takeEnd p (trimStart p t), List.head?_append, ← trim,
    Option.mem_def.mp hc]
  rfl

lemma take_sub_takeEnd (p : Char → Bool) (t : Text) :
    t.take (t.length - (takeEnd p t).length) = trimEnd p t := by
  have hsum := congrArg List.length (trimEnd_append_takeEnd p t)
  rw [List.length_append] at hsum
  have hlength : t.length - (takeEnd p t).length = (trimEnd p t).length := by omega
  calc t.take (t.length - (takeEnd p t).length)
      = (trimEnd p t ++ takeEnd p t).take (trimEnd p t).length := by
        rw [hlength, trimEnd_append_takeEnd]
    _ = trimEnd p t := List.take_left

lemma drop_trimEnd_length (p : Char → Bool) (t : Text) :
    t.drop (trimEnd p t).length = takeEnd p t := by
  calc t.drop (trimEnd p t).length
      = (trimEnd p t ++ takeEnd p t).drop (trimEnd p t).length := by rw [trimEnd_append_takeEnd]
    _ = takeEnd p t := List.drop_left

lemma of_mem_takeEnd {c : Char} (h : c ∈ takeEnd p t) : p c = true := by
  rw [takeEnd, List.mem_reverse] at h
  exact List.mem_takeWhile_imp h

lemma takeEnd_eq_self (h : ∀ d ∈ t, p d = true) : takeEnd p t = t := by
  rw [takeEnd, List.takeWhile_eq_self_iff.mpr (by simpa using h), List.reverse_reverse]

/-- Characters of the class at the end count with those before them. -/
lemma takeEnd_append (a : Text) (h : ∀ d ∈ t, p d = true) :
    takeEnd p (a ++ t) = takeEnd p a ++ t := by
  rw [takeEnd, takeEnd, List.reverse_append, List.takeWhile_append_of_pos (by simpa using h),
    List.reverse_append, List.reverse_reverse]

/-- What stands before a character outside the class does not count at the end. -/
lemma takeEnd_append_cons {c : Char} (hc : p c = false) (a b : Text) :
    takeEnd p (a ++ c :: b) = takeEnd p b := by
  have hstop : (c :: a.reverse).takeWhile p = [] := by
    rw [List.takeWhile_cons, hc, if_neg Bool.false_ne_true]
  rw [takeEnd, takeEnd, List.reverse_append, List.reverse_cons, List.append_assoc,
    List.singleton_append, List.takeWhile_append, hstop, List.append_nil]
  split_ifs with hall
  · rw [(List.takeWhile_prefix p).eq_of_length hall]
  · rfl

lemma take_takeWhile_length (p : Char → Bool) (t : Text) :
    t.take (t.takeWhile p).length = t.takeWhile p :=
  (List.prefix_iff_eq_take.mp (List.takeWhile_prefix p)).symm

lemma drop_takeWhile_length (p : Char → Bool) (t : Text) :
    t.drop (t.takeWhile p).length = t.dropWhile p := by
  calc t.drop (t.takeWhile p).length
      = (t.takeWhile p ++ t.dropWhile p).drop (t.takeWhile p).length := by
        rw [List.takeWhile_append_dropWhile]
    _ = t.dropWhile p := List.drop_left

/-- Where a text up to a separator ends, the separator stands. -/
lemma eq_of_dropWhile_ne {sep c : Char} {t rest : Text}
    (h : t.dropWhile (· ≠ sep) = c :: rest) : c = sep := by
  have hfirst := List.head?_dropWhile_not (· ≠ sep) t
  rw [h] at hfirst
  simpa using hfirst

lemma stripEnd_isEmpty (t : Text) : (stripEnd t).isEmpty = t.allBlank := by
  rw [stripEnd, trimEnd, allBlank, Bool.eq_iff_iff, List.isEmpty_iff, List.reverse_eq_nil_iff,
    List.dropWhile_eq_nil_iff, List.all_eq_true]
  simp

lemma strip_prefix_stripStart (t : Text) : strip t <+: stripStart t :=
  ⟨takeEnd isBlank (stripStart t), trimEnd_append_takeEnd isBlank (stripStart t)⟩

/-- Only blank texts are stripped to nothing. -/
lemma stripStart_eq_nil {t : Text} (h : strip t = []) : stripStart t = [] := by
  rw [strip, trim, trimEnd, List.reverse_eq_nil_iff, List.dropWhile_eq_nil_iff] at h
  cases hstart : stripStart t with
  | nil => rfl
  | cons c rest =>
      have hblank : isBlank c = true := h c (by
        rw [List.mem_reverse, ← stripStart, hstart]
        exact List.mem_cons_self)
      have hno : isBlank c = false := trimStart_head isBlank t c (by
        rw [← stripStart, hstart]
        rfl)
      rw [hblank] at hno
      cases hno

/-- A stripped text does not start with a blank. -/
lemma strip_head (t : Text) : ∀ c ∈ (strip t).head?, isBlank c = false := trim_head isBlank t

/-- A stripped text does not end with a blank. -/
lemma strip_last (t : Text) : ∀ c ∈ (strip t).getLast?, isBlank c = false := by
  intro c hc
  rw [strip, trim, trimEnd, List.getLast?_reverse] at hc
  exact trimStart_head isBlank _ c hc

lemma strip_head_ne (t : Text) : (strip t).head? ≠ some '\n' := fun hhead =>
  absurd (strip_head t '\n' hhead) (by decide)

/-- Behind the blanks at its start a text is made of its core and what follows. -/
lemma stripStart_eq (t : Text) :
    stripStart t = strip t ++ t.drop ((t.takeWhile isBlank).length + (strip t).length) := by
  obtain ⟨rest, hrest⟩ := strip_prefix_stripStart t
  rw [stripStart, trimStart] at hrest ⊢
  rw [← List.drop_drop, drop_takeWhile_length, ← hrest, List.drop_left]

/-! ### What is found -/

/-- Where finding does not depend on the start of the text, replacing does not either. -/
lemma replaceFound_const {find : Text → Option (Nat × Text)} (atStart : Bool) (skip : Nat)
    (t : Text) :
    replaceFound (fun _ => find) atStart skip t = replaceFound (fun _ => find) true skip t := by
  cases t with
  | nil => rfl
  | cons c t => cases skip <;> rfl

/-! ### Runs -/

lemma replaceRuns_within {new : Text} {c : Char} (hc : p c = true) (ht : t.head?.any p = true) :
    replaceRuns p new (c :: t) = replaceRuns p new t := by
  rw [replaceRuns, if_pos hc, if_pos ht]

lemma replaceRuns_end {new : Text} {c : Char} (hc : p c = true) (ht : t.head?.any p = false) :
    replaceRuns p new (c :: t) = new ++ replaceRuns p new t := by
  rw [replaceRuns, if_pos hc, if_neg (Bool.not_eq_true _ ▸ ht)]

lemma replaceRuns_other {new : Text} {c : Char} (hc : p c = false) (t : Text) :
    replaceRuns p new (c :: t) = c :: replaceRuns p new t := by
  rw [replaceRuns, hc, if_neg Bool.false_ne_true]

/-- Without a character of the class there is no run to replace. -/
lemma replaceRuns_eq_self {new : Text} (h : ∀ c ∈ t, p c = false) : replaceRuns p new t = t := by
  induction t with
  | nil => rfl
  | cons c t ih =>
      rw [replaceRuns_other (h c List.mem_cons_self),
        ih fun d hd => h d (List.mem_cons_of_mem _ hd)]

/-- Runs are replaced apart on both sides of a place that none lies across. -/
lemma replaceRuns_append {new : Text} (a b : Text)
    (h : (∀ c ∈ a.getLast?, p c = false) ∨ ∀ c ∈ b.head?, p c = false) :
    replaceRuns p new (a ++ b) = replaceRuns p new a ++ replaceRuns p new b := by
  induction a with
  | nil => rfl
  | cons c a ih =>
      have hrest := ih (h.imp_left fun hlast d hd => hlast d (List.mem_getLast?_cons hd))
      rw [List.cons_append]
      by_cases hc : p c = true
      · have hnext : (a ++ b).head?.any p = a.head?.any p := by
          cases a with
          | cons d a => rfl
          | nil =>
              rcases h with hlast | hhead
              · rw [hlast c rfl] at hc
                cases hc
              · cases b with
                | nil => rfl
                | cons d b => simpa using hhead d rfl
        cases hrun : a.head?.any p with
        | true =>
            rw [replaceRuns_within hc (hnext.trans hrun), replaceRuns_within hc hrun, hrest]
        | false =>
            rw [replaceRuns_end hc (hnext.trans hrun), replaceRuns_end hc hrun, hrest,
              List.append_assoc]
      · have hc := eq_false_of_ne_true hc
        rw [replaceRuns_other hc, replaceRuns_other hc, hrest, List.cons_append]

/-- Where runs are replaced, a character is one of the replacement or stood there before. -/
lemma mem_replaceRuns {new : Text} {c : Char} (h : c ∈ replaceRuns p new t) : c ∈ new ∨ c ∈ t := by
  induction t with
  | nil => simp [replaceRuns] at h
  | cons d t ih =>
      rw [replaceRuns] at h
      split_ifs at h
      · exact (ih h).imp_right (List.mem_cons_of_mem d)
      · rcases List.mem_append.mp h with h | h
        · exact Or.inl h
        · exact (ih h).imp_right (List.mem_cons_of_mem d)
      · rcases List.mem_cons.mp h with rfl | h
        · exact Or.inr List.mem_cons_self
        · exact (ih h).imp_right (List.mem_cons_of_mem d)

/-- Of a class whose runs are replaced no character is left but those of the replacement. -/
lemma notMem_replaceRuns {new : Text} {c : Char} (hc : p c = true) (hnew : c ∉ new) (t : Text) :
    c ∉ replaceRuns p new t := by
  induction t with
  | nil => exact List.not_mem_nil
  | cons d t ih =>
      rw [replaceRuns]
      split_ifs with hd hnext
      · exact ih
      · rw [List.mem_append, not_or]
        exact ⟨hnew, ih⟩
      · rw [List.mem_cons, not_or]
        refine ⟨?_, ih⟩
        rintro rfl
        exact hd hc

/-! ### Pieces -/

lemma infix_join {sep l : Text} {lines : List Text} (h : l ∈ lines) : l <:+: join sep lines := by
  induction lines with
  | nil => cases h
  | cons first lines ih =>
      cases lines with
      | nil =>
          rw [List.mem_singleton.mp h]
          exact List.infix_refl _
      | cons second lines =>
          rw [join, List.append_assoc]
          · rcases List.mem_cons.mp h with rfl | h
            · exact List.infix_append_of_infix_left (List.infix_refl _)
            · exact List.infix_append_of_infix_right
                (List.infix_append_of_infix_right (ih h))
          · exact List.cons_ne_nil _ _

/-- A character that the separator does not have stands in one of the pieces. -/
lemma mem_join_iff {sep : Text} {c : Char} (hc : c ∉ sep) {pieces : List Text} :
    c ∈ join sep pieces ↔ ∃ piece ∈ pieces, c ∈ piece := by
  induction pieces with
  | nil => simp [join]
  | cons piece pieces ih =>
      cases pieces with
      | nil => simp [join]
      | cons next pieces =>
          rw [join, List.mem_append, List.mem_append, ih]
          · simp [hc]
          · exact List.cons_ne_nil _ _

/-- A part without the separator lies in one of the pieces. -/
lemma exists_infix_of_join {sep : Char} {pieces : List Text} (hne : k ≠ []) (hsep : sep ∉ k)
    (h : k <:+: join [sep] pieces) : ∃ l ∈ pieces, k <:+: l := by
  induction pieces with
  | nil => exact absurd (List.infix_nil.mp h) hne
  | cons first pieces ih =>
      cases pieces with
      | nil => exact ⟨first, List.mem_cons_self, h⟩
      | cons second pieces =>
          rw [join, List.append_assoc, List.singleton_append] at h
          · rcases infix_of_append_cons hne hsep h with h | h
            · exact ⟨first, List.mem_cons_self, h⟩
            · obtain ⟨l, hl, hk⟩ := ih h
              exact ⟨l, List.mem_cons_of_mem _ hl, hk⟩
          · exact List.cons_ne_nil _ _

end Text

end PageNotes
