import Mathlib.Data.List.Chain
import PageNotes.Text.Slug
import PageNotes.Proofs.Text.Endings
import PageNotes.Proofs.Text.Trim

/-!
Slugs are normal forms. What is in lower case stays so when characters are dropped or replaced by
hyphens, even where the rule for the final sigma would look at other characters then, so each step
on the way to a slug keeps what the steps before it have reached.

* `CodeRun.lookup_leadOff`: where the runs of lower-case forms lead, no run starts again;
* `lowerForm_of_mem`, `Text.lower_eq_self_of_forms`: lower-case forms are their own;
* `noDoubleHyphen_singleHyphens`, `NoDoubleHyphen.of_isInfix`: hyphens are single, and stay so when
  the ends are trimmed;
* `isSlug_slugify`, `slugify_of_isSlug`: the slug of a text is one, and slugs stay as they are;
* `slugify_normalizes`: both.
-/

namespace PageNotes

/-! ### Lower case -/

namespace CodeRun

/-- Whether the images of a run lie on none of some runs in ascending order: they lie before or
behind each, or between its places. -/
def leadsOff (run : CodeRun) : List CodeRun → Bool
  | [] => true
  | other :: runs =>
    (run.image + (run.last - run.first)).blt other.first ||
      (other.last.blt run.image ||
        other.step = 2 && (run.step = 2 || run.first = run.last) &&
          (run.image + other.first) % 2 = 1) && run.leadsOff runs

/-- Whether the last ones of some runs are in ascending order from a bound on, and their images lie
on none of all the runs. Where a run leads upwards, the runs before it need not be looked at. -/
def leadOff (all : List CodeRun) (bound : ℕ) : List CodeRun → Bool
  | [] => true
  | run :: runs =>
    bound.ble run.first && run.first.ble run.last &&
      run.leadsOff (if run.first ≤ run.image then run :: runs else all) &&
      leadOff all (run.last + 1) runs

variable {run : CodeRun} {before runs : List CodeRun} {bound k n : ℕ}

lemma lookup_image (h : run.leadsOff runs = true) (hk : k ≤ run.last - run.first)
    (hstep : k % run.step = 0) : lookup runs (run.image + k) = none := by
  induction runs with
  | nil => rfl
  | cons other runs ih =>
      rw [leadsOff] at h
      rw [lookup]
      split_ifs with hbefore
      · rfl
      simp only [Bool.or_eq_true, Bool.and_eq_true, Nat.blt_eq, decide_eq_true_eq] at h
      obtain hfirst | ⟨hoff, hrest⟩ := h
      · omega
      have hnone : other.image? (run.image + k) = none := by
        rw [image?, if_neg]
        rintro ⟨hfirst, hlast, hon⟩
        obtain hlast' | ⟨⟨hother, hrun⟩, hodd⟩ := hoff
        · omega
        · rw [hother] at hon
          obtain hrun | hrun := hrun
          · rw [hrun] at hstep
            omega
          · omega
      rw [hnone, ih hrest]
      rfl

lemma lookup_append (hbefore : ∀ other ∈ before, other.last < n) (h : lookup runs n = none) :
    lookup (before ++ runs) n = none := by
  induction before with
  | nil => exact h
  | cons other before ih =>
      obtain ⟨hlast, hrest⟩ := List.forall_mem_cons.mp hbefore
      have hnone : other.image? n = none := by
        rw [image?, if_neg fun hwithin => absurd hlast (Nat.not_lt.mpr hwithin.2.1)]
      rw [List.cons_append, lookup, hnone, ih hrest]
      split_ifs <;> rfl

/-- Where runs lead that lead off all, none of them starts. -/
lemma lookup_leadOff (hbefore : ∀ other ∈ before, other.last < bound)
    (h : leadOff (before ++ runs) bound runs = true) (hrun : run ∈ runs)
    (hk : k ≤ run.last - run.first) (hstep : k % run.step = 0) :
    lookup (before ++ runs) (run.image + k) = none := by
  induction runs generalizing before bound with
  | nil => cases hrun
  | cons first runs ih =>
      rw [leadOff] at h
      simp only [Bool.and_eq_true, Nat.ble_eq] at h
      obtain ⟨⟨⟨hfirst, hlast⟩, hoff⟩, hrest⟩ := h
      rcases List.mem_cons.mp hrun with rfl | hrun
      · split_ifs at hoff with hup
        · exact lookup_append (fun other hother => by have := hbefore other hother; omega)
            (lookup_image hoff hk hstep)
        · exact lookup_image hoff hk hstep
      · rw [List.append_cons] at hrest ⊢
        refine ih (fun other hother => ?_) hrest hrun
        rcases List.mem_append.mp hother with hother | hother
        · have := hbefore other hother
          omega
        · rw [List.mem_singleton.mp hother]
          exact Nat.lt_succ_self _

end CodeRun

/-- The characters of the lower-case forms that no run gives are their own. -/
lemma lowerForm_settled : ∀ c ∈ ['i', Char.ofNat 0x307, 'σ', 'ς'], lowerForm c = [c] := by
  simp only [List.forall_mem_cons]
  refine ⟨?_, ?_, ?_, ?_, nofun⟩ <;> decide

/-- A character that is in its own lower-case form is all of it. -/
lemma lowerForm_of_mem_self {c : Char} (h : c ∈ lowerForm c) : lowerForm c = [c] := by
  have hdotted : c ≠ 'İ' := by
    rintro rfl
    exact absurd h (by decide)
  rw [lowerForm, if_neg hdotted] at h ⊢
  cases hlookup : CodeRun.lookup lowerRuns c.toNat with
  | none => rfl
  | some n =>
      rw [hlookup] at h
      exact congrArg (fun d => [d]) (List.mem_singleton.mp h).symm

/-- No run of lower-case forms leads to the dotted capital I. -/
lemma lowerRuns_dotted : (lowerRuns.all fun run => 'İ'.toNat.blt run.image ||
    (run.image + (run.last - run.first)).blt 'İ'.toNat) = true := by
  decide +kernel

/-- No run of lower-case forms leads to a character of one. -/
lemma lowerRuns_leadOff : CodeRun.leadOff ([] ++ lowerRuns) 0 lowerRuns = true := by
  decide +kernel

/-- The characters of a lower-case form are their own lower-case forms. -/
lemma lowerForm_of_mem {c d : Char} (h : d ∈ lowerForm c) : lowerForm d = [d] := by
  rcases mem_lowerForm h with rfl | ⟨-, hd⟩ | ⟨run, hrun, hfirst, hlast, hstep, himage⟩
  · exact lowerForm_of_mem_self h
  · exact lowerForm_settled d (List.mem_append_left ['σ', 'ς'] hd)
  · have hbefore : ∀ other ∈ ([] : List CodeRun), other.last < 0 := nofun
    have hnone := CodeRun.lookup_leadOff hbefore lowerRuns_leadOff hrun (by omega) hstep
    have hapart := List.all_eq_true.mp lowerRuns_dotted run hrun
    rw [Bool.or_eq_true, Nat.blt_eq, Nat.blt_eq] at hapart
    have hdotted : d ≠ 'İ' := by
      rintro rfl
      omega
    rw [lowerForm, if_neg hdotted, himage, ← List.nil_append lowerRuns, hnone]

namespace Text

lemma lowerForm_of_mem_lowerAfter {inWord : Bool} {t : Text} {d : Char}
    (h : d ∈ lowerAfter inWord t) : lowerForm d = [d] := by
  induction t generalizing inWord with
  | nil => cases h
  | cons c t ih =>
      rw [lowerAfter] at h
      rcases List.mem_append.mp h with hform | hrest
      · split_ifs at hform
        · rw [List.mem_singleton.mp hform]
          exact lowerForm_settled 'ς' (by simp)
        · rw [List.mem_singleton.mp hform]
          exact lowerForm_settled 'σ' (by simp)
        · exact lowerForm_of_mem hform
      · exact ih hrest

/-- A text of characters that are their own lower-case forms is in lower case. -/
lemma lower_eq_self_of_forms {t : Text} (h : ∀ c ∈ t, lowerForm c = [c]) : t.lower = t := by
  have hall (inWord : Bool) : lowerAfter inWord t = t := by
    induction t generalizing inWord with
    | nil => rfl
    | cons c t ih =>
        have hc := h c List.mem_cons_self
        have hsigma : c ≠ 'Σ' := by
          rintro rfl
          exact absurd hc (by decide)
        rw [lowerAfter, if_neg hsigma, hc, ih fun d hd => h d (List.mem_cons_of_mem _ hd)]
        rfl
  exact hall false

end Text

/-! ### Hyphens -/

lemma noDoubleHyphen_iff {t : Text} :
    NoDoubleHyphen t ↔ t.IsChain fun c d => ¬(c = '-' ∧ d = '-') := by
  induction t with
  | nil => simp [NoDoubleHyphen]
  | cons c t ih =>
      cases t with
      | nil => simp [NoDoubleHyphen]
      | cons d t => rw [NoDoubleHyphen, List.isChain_cons_cons, ih]

lemma NoDoubleHyphen.of_isInfix {s t : Text} (h : NoDoubleHyphen t) (hs : s <:+: t) :
    NoDoubleHyphen s :=
  noDoubleHyphen_iff.mpr <| List.IsChain.infix (noDoubleHyphen_iff.mp h) hs

/-- Of the hyphens of a run the last one is left. -/
lemma singleHyphens_cons (c : Char) (t : Text) : Text.singleHyphens (c :: t)
    = if c = '-' ∧ t.head? = some '-' then t.singleHyphens else c :: t.singleHyphens := by
  have hnext : t.head?.any (· = '-') = true ↔ t.head? = some '-' := by
    cases t with
    | nil => simp
    | cons d t => simp
  rw [Text.singleHyphens, Text.replaceRuns]
  simp only [hnext, decide_eq_true_eq]
  by_cases hc : c = '-'
  · subst hc
    by_cases hrun : t.head? = some '-'
    · simp [hrun]
    · simp [hrun]
  · simp [hc]

/-- Where runs of hyphens become single ones, a text starts as it did. -/
lemma head?_singleHyphens (t : Text) : t.singleHyphens.head? = t.head? := by
  induction t with
  | nil => rfl
  | cons c t ih =>
      rw [singleHyphens_cons]
      split_ifs with hrun
      · rw [ih, hrun.2, hrun.1, List.head?_cons]
      · rw [List.head?_cons, List.head?_cons]

lemma noDoubleHyphen_singleHyphens (t : Text) : NoDoubleHyphen t.singleHyphens := by
  rw [noDoubleHyphen_iff]
  induction t with
  | nil => exact List.isChain_nil
  | cons c t ih =>
      rw [singleHyphens_cons]
      split_ifs with hrun
      · exact ih
      · refine ih.cons fun d hd => ?_
        rw [head?_singleHyphens] at hd
        rintro ⟨hc, rfl⟩
        exact hrun ⟨hc, hd⟩

/-- Single hyphens stay. -/
lemma singleHyphens_eq_self {t : Text} (h : NoDoubleHyphen t) : t.singleHyphens = t := by
  rw [noDoubleHyphen_iff] at h
  induction t with
  | nil => rfl
  | cons c t ih =>
      rw [singleHyphens_cons, ih h.tail, if_neg]
      rintro ⟨hc, hnext⟩
      exact List.isChain_cons.mp h |>.1 '-' hnext ⟨hc, rfl⟩

/-! ### Slugs -/

/-- A slug has nothing but the characters of slugs. -/
lemma isSlugChar_of_mem {t : Text} {c : Char} (h : c ∈ slugify t) : isSlugChar c = true := by
  rw [slugify] at h
  rcases Text.mem_replaceRuns ((Text.trim_isInfix _ _).subset h) with h | h
  · rw [List.mem_singleton.mp h]
    decide
  · exact (List.mem_filter.mp h).2

/-- The characters of slugs come from the text in lower case, but for hyphens. -/
lemma lowerForm_of_mem_slugify {t : Text} {c : Char} (h : c ∈ slugify t) : lowerForm c = [c] := by
  have hhyphen : lowerForm '-' = ['-'] := by decide
  rw [slugify] at h
  rcases Text.mem_replaceRuns ((Text.trim_isInfix _ _).subset h) with h | h
  · rwa [List.mem_singleton.mp h]
  · rcases Text.mem_replaceRuns (List.mem_filter.mp h).1 with h | h
    · rwa [List.mem_singleton.mp h]
    · exact Text.lowerForm_of_mem_lowerAfter h

/-- The slug of a text is a slug. -/
lemma isSlug_slugify (t : Text) : IsSlug (slugify t) where
  lower := Text.lower_eq_self_of_forms fun _ => lowerForm_of_mem_slugify
  chars _ := isSlugChar_of_mem
  single := (noDoubleHyphen_singleHyphens _).of_isInfix (Text.trim_isInfix _ _)
  head h := by simpa using Text.trim_head (· = '-') _ '-' h
  last h := by simpa using Text.trimEnd_getLast (· = '-') _ '-' h

/-- No character of slugs is blank. -/
lemma not_isBlank_of_isSlugChar {c : Char} (h : isSlugChar c = true) : isBlank c = false := by
  refine eq_false_of_ne_true fun hblank => ?_
  have hno := of_isBlank (P := fun c => isSlugChar c = false) (by decide +kernel) hblank
  rw [h] at hno
  cases hno

/-- A slug is its own slug. -/
lemma slugify_of_isSlug {t : Text} (h : IsSlug t) : slugify t = t := by
  have hblanks : Text.replaceRuns isBlank ['-'] t.lower = t := by
    rw [h.lower, Text.replaceRuns_eq_self fun c hc => not_isBlank_of_isSlugChar (h.chars c hc)]
  have hkept : t.filter isSlugChar = t := List.filter_eq_self.mpr h.chars
  have hends : t.trim (· = '-') = t := by
    refine Text.trim_eq_self (fun c hc => ?_) fun c hc => ?_
    · rw [decide_eq_false_iff_not]
      rintro rfl
      exact h.head hc
    · rw [decide_eq_false_iff_not]
      rintro rfl
      exact h.last hc
  rw [slugify, hblanks, hkept, singleHyphens_eq_self h.single, hends]

/-- **Slugs are the normal forms of texts**: the slug of any text is a slug, the texts that are
their own slugs are the slugs and no others, and so the slug of a slug is itself. -/
theorem slugify_normalizes (t : Text) :
    IsSlug (slugify t) ∧ (slugify t = t ↔ IsSlug t) ∧ slugify (slugify t) = slugify t := by
  refine ⟨isSlug_slugify t, ⟨fun h => ?_, slugify_of_isSlug⟩, slugify_of_isSlug (isSlug_slugify t)⟩
  rw [← h]
  exact isSlug_slugify t

set_option maxRecDepth 4000 in
/-- The final sigma stays where only the hyphen stands behind it, and the dotted capital I leaves
its dot behind. -/
example : slugify ['Ο', 'Σ', ' ', 'İ'] = ['ο', 'ς', '-', 'i'] := by decide

end PageNotes
