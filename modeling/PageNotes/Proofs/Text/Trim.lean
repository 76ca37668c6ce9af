import Mathlib.Data.List.TakeWhile
import PageNotes.Proofs.Text.Parts

/-!
Trimmed texts. Trimming takes away characters of the class alone, and only those that have nothing
else on one of their sides.

* `of_isBlank`: what holds of all blanks;
* `Text.trim_eq_self`: texts that are left as they are;
* `Text.filter_trim`: the characters outside the class stay;
* `Text.trim_surrounded_iff`: what may stand around a text without a trace.
-/

namespace PageNotes

/-! ### Blanks -/

lemma CodeRanges.exists_of_contains {ranges : CodeRanges} {n : Nat} (h : ranges.contains n = true) :
    ∃ range ∈ ranges, range.1 ≤ n ∧ n ≤ range.2 := by
  induction ranges with
  | nil => cases h
  | cons range ranges ih =>
      rw [CodeRanges.contains] at h
      split_ifs at h with hbefore hlast
      · exact ⟨range, List.mem_cons_self, Nat.le_of_not_lt hbefore, hlast⟩
      · obtain ⟨other, hmem, hrange⟩ := ih h
        exact ⟨other, List.mem_cons_of_mem _ hmem, hrange⟩

/-- What holds of the characters in all ranges of blanks holds of every blank. -/
lemma of_isBlank {P : Char → Prop}
    (hall : ∀ range ∈ blankRanges, ∀ k < range.2 - range.1 + 1, P (Char.ofNat (range.1 + k)))
    {c : Char} (h : isBlank c = true) : P c := by
  obtain ⟨range, hrange, hfirst, hlast⟩ := CodeRanges.exists_of_contains h
  have hc := hall range hrange (c.toNat - range.1) (by omega)
  rwa [Nat.add_sub_cancel' hfirst, Char.ofNat_toNat] at hc

/-! ### Trimming -/

namespace Text

variable {p : Char → Bool} {a b t : Text}

lemma trimStart_eq_self (h : ∀ c ∈ t.head?, p c = false) : trimStart p t = t := by
  cases t with
  | nil => rfl
  | cons c t => rw [trimStart, List.dropWhile_cons_of_neg (by simp [h c rfl])]

lemma trimEnd_eq_self (h : ∀ c ∈ t.getLast?, p c = false) : trimEnd p t = t := by
  have hreverse : trimStart p t.reverse = t.reverse :=
    trimStart_eq_self fun c hc => h c (by rwa [List.head?_reverse] at hc)
  rw [trimEnd, ← trimStart, hreverse, List.reverse_reverse]

lemma trim_eq_self (hhead : ∀ c ∈ t.head?, p c = false) (hlast : ∀ c ∈ t.getLast?, p c = false) :
    trim p t = t := by
  rw [trim, trimStart_eq_self hhead, trimEnd_eq_self hlast]

/-- A trimmed text is a part of the whole one. -/
lemma trim_isInfix (p : Char → Bool) (t : Text) : trim p t <:+: t := by
  have hend : trimEnd p (trimStart p t) <+: trimStart p t :=
    ⟨_, trimEnd_append_takeEnd p (trimStart p t)⟩
  exact hend.isInfix.trans (List.dropWhile_suffix p).isInfix

/-- A text that is trimmed at the end does not end with a character of the class. -/
lemma trimEnd_getLast (p : Char → Bool) (t : Text) : ∀ c ∈ (trimEnd p t).getLast?, p c = false := by
  intro c hc
  rw [trimEnd, List.getLast?_reverse] at hc
  exact trimStart_head p _ c hc

/-- Characters of the class at the start are taken away. -/
lemma trimStart_append_left (ha : ∀ c ∈ a, p c = true) (t : Text) :
    trimStart p (a ++ t) = trimStart p t :=
  List.dropWhile_append_of_pos ha

/-- Characters of the class at the end are taken away. -/
lemma trimEnd_append_right (t : Text) (hb : ∀ c ∈ b, p c = true) :
    trimEnd p (t ++ b) = trimEnd p t := by
  rw [trimEnd, trimEnd, List.reverse_append, List.dropWhile_append_of_pos (by simpa using hb)]

/-- Behind characters of the class at the end, trimming the start takes away nothing but them. -/
lemma trim_append_right (t : Text) (hb : ∀ c ∈ b, p c = true) : trim p (t ++ b) = trim p t := by
  rw [trim, trim, trimStart, trimStart, List.dropWhile_append]
  split_ifs with hempty
  · have hnil : b.dropWhile p = [] := List.dropWhile_eq_nil_iff.mpr hb
    rw [hnil, List.isEmpty_iff.mp hempty]
  · exact trimEnd_append_right _ hb

lemma filter_trimStart (p : Char → Bool) (t : Text) :
    (trimStart p t).filter (!p ·) = t.filter (!p ·) := by
  rw [trimStart]
  induction t with
  | nil => rfl
  | cons c t ih =>
      rw [List.dropWhile_cons]
      split_ifs with hc
      · rw [ih, List.filter_cons, hc, Bool.not_true, if_neg Bool.false_ne_true]
      · rfl

/-- Trimming leaves the characters outside the class. -/
lemma filter_trim (p : Char → Bool) (t : Text) :
    (trim p t).filter (!p ·) = t.filter (!p ·) := by
  rw [trim, trimEnd, List.filter_reverse, ← trimStart, filter_trimStart, ← List.filter_reverse,
    List.reverse_reverse, filter_trimStart]

lemma mem_trimStart_iff {c : Char} (hc : p c = false) : c ∈ trimStart p t ↔ c ∈ t := by
  have hmem := congrArg (c ∈ ·) (filter_trimStart p t)
  simpa [hc] using hmem

lemma mem_trim_iff {c : Char} (hc : p c = false) : c ∈ trim p t ↔ c ∈ t := by
  have hmem := congrArg (c ∈ ·) (filter_trim p t)
  simpa [hc] using hmem

/-- Trimming leaves the first character if it is outside the class. -/
lemma head?_trim (h : ∀ c ∈ t.head?, p c = false) : (trim p t).head? = t.head? := by
  cases t with
  | nil => rfl
  | cons c t =>
      have hc := h c rfl
      have hstart := trimEnd_append_takeEnd p (c :: t)
      rw [trim, trimStart_eq_self h]
      cases hend : trimEnd p (c :: t) with
      | nil =>
          rw [hend, List.nil_append] at hstart
          have hmem : c ∈ takeEnd p (c :: t) := by
            rw [hstart]
            exact List.mem_cons_self
          rw [of_mem_takeEnd hmem] at hc
          cases hc
      | cons d rest =>
          rw [hend, List.cons_append, List.cons.injEq] at hstart
          rw [hstart.1]
          rfl

/-- A text between two others has the characters of all three outside the class just when the
others are of the class. -/
lemma filter_surrounded_iff :
    (a ++ (t ++ b)).filter (!p ·) = t.filter (!p ·) ↔ ∀ c ∈ a ++ b, p c = true := by
  constructor
  · intro h
    have hlength := congrArg List.length h
    simp only [List.filter_append, List.length_append] at hlength
    have hnone : ((a ++ b).filter (!p ·)).length = 0 := by
      rw [List.filter_append, List.length_append]
      omega
    intro c hc
    have hkept := List.filter_eq_nil_iff.mp (List.length_eq_zero_iff.mp hnone) c hc
    simpa using hkept
  · intro h
    have hnil : ∀ {w : Text}, (∀ c ∈ w, p c = true) → w.filter (!p ·) = [] := fun hw =>
      List.filter_eq_nil_iff.mpr fun c hc => by simp [hw c hc]
    rw [List.filter_append, List.filter_append, hnil fun c hc => h c (List.mem_append_left _ hc),
      hnil fun c hc => h c (List.mem_append_right _ hc), List.nil_append, List.append_nil]

/-- A text between two others is trimmed as all three together just when the others are of the
class. -/
theorem trim_surrounded_iff :
    trim p (a ++ (t ++ b)) = trim p t ↔ ∀ c ∈ a ++ b, p c = true := by
  constructor
  · intro h
    have hfilter := congrArg (fun t : Text => t.filter (!p ·)) h
    rw [filter_trim, filter_trim] at hfilter
    exact filter_surrounded_iff.mp hfilter
  · intro h
    rw [trim, trimStart_append_left fun c hc => h c (List.mem_append_left _ hc), ← trim,
      trim_append_right _ fun c hc => h c (List.mem_append_right _ hc)]

end Text

end PageNotes
