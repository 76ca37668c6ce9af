import Mathlib.Tactic.Common
import PageNotes.Report.Basic

/-!
The order of reports. The texts of paths are ordered by code points, totally, so a sorted report
depends on nothing but which outcomes it has, as long as outcomes about one path are equal.

* `Text.le_trans`, `Text.le_total`, `Text.le_antisymm`;
* `Report.sorted_pairwise`: a sorted report is in order;
* `Report.sorted_eq_of_perm`: two reports with the same outcomes are sorted alike;
* `Report.succeeded_perm`, `Report.failed_perm`, `Report.warningCount_perm`: the counts of a report
  do not depend on its order either.
-/

namespace PageNotes

namespace Text

lemma le_trans {s t u : Text} (h : Text.le s t = true) (h' : Text.le t u = true) :
    Text.le s u = true := by
  induction s generalizing t u with
  | nil => rfl
  | cons a s ih =>
      cases t with
      | nil => simp [Text.le] at h
      | cons b t =>
          cases u with
          | nil => simp [Text.le] at h'
          | cons c u =>
              simp only [Text.le] at h h' ⊢
              split_ifs at h h' with hab hbc hbc
              · rw [if_pos (hab.trans hbc)]
                exact ih h h'
              · rw [if_neg (fun hac => hbc (hab.symm.trans hac)), hab]
                exact h'
              · rw [if_neg (fun hac => hab (hac.trans hbc.symm)), ← hbc]
                exact h
              · simp only [decide_eq_true_eq] at h h'
                have hac : a ≠ c := fun hac => by rw [hac] at h; omega
                rw [if_neg hac, decide_eq_true_eq]
                omega

lemma le_total (s t : Text) : (Text.le s t || Text.le t s) = true := by
  induction s generalizing t with
  | nil => rfl
  | cons a s ih =>
      cases t with
      | nil => rfl
      | cons b t =>
          simp only [Text.le]
          by_cases hab : a = b
          · rw [if_pos hab, if_pos hab.symm]
            exact ih t
          · rw [if_neg hab, if_neg (Ne.symm hab), Bool.or_eq_true, decide_eq_true_eq,
              decide_eq_true_eq]
            have hne : a.toNat ≠ b.toNat := fun h => hab (Char.toNat_inj.mp h)
            omega

lemma le_antisymm {s t : Text} (h : Text.le s t = true) (h' : Text.le t s = true) : s = t := by
  induction s generalizing t with
  | nil =>
      cases t with
      | nil => rfl
      | cons b t => simp [Text.le] at h'
  | cons a s ih =>
      cases t with
      | nil => simp [Text.le] at h
      | cons b t =>
          simp only [Text.le] at h h'
          by_cases hab : a = b
          · rw [if_pos hab] at h
            rw [if_pos hab.symm] at h'
            rw [hab, ih h h']
          · rw [if_neg hab, decide_eq_true_eq] at h
            rw [if_neg (Ne.symm hab), decide_eq_true_eq] at h'
            omega

end Text

namespace Report

/-- A sorted report is in the order of the texts of its pages. -/
lemma sorted_pairwise (r : Report) :
    r.sorted.outcomes.Pairwise fun a b => Text.le a.source.toText b.source.toText = true :=
  @List.pairwise_mergeSort _ outcomeLe (fun _ _ _ => Text.le_trans)
    (fun a b => Text.le_total a.source.toText b.source.toText) r.outcomes

/-- A sorted report has the same outcomes. -/
lemma sorted_perm (r : Report) : r.sorted.outcomes.Perm r.outcomes :=
  List.mergeSort_perm r.outcomes outcomeLe

/-- Reports with the same outcomes, those about paths of one text being equal, are sorted alike. -/
theorem sorted_eq_of_perm {r r' : Report} (h : r.outcomes.Perm r'.outcomes)
    (hsame : ∀ a ∈ r.outcomes, ∀ b ∈ r.outcomes, a.source.toText = b.source.toText → a = b) :
    r.sorted = r'.sorted := by
  have hperm : r.sorted.outcomes.Perm r'.sorted.outcomes :=
    (r.sorted_perm.trans h).trans r'.sorted_perm.symm
  have heq := @List.Perm.eq_of_pairwise _
    (fun a b => Text.le a.source.toText b.source.toText = true) _ _
    (fun a b ha hb hab hba => hsame a (r.sorted_perm.subset ha) b
      ((hperm.symm.trans r.sorted_perm).subset hb) (Text.le_antisymm hab hba))
    r.sorted_pairwise r'.sorted_pairwise hperm
  exact congrArg Report.mk heq

/-! ### Counts -/

lemma total_add (r : Report) (o : Outcome) : (r.add o).total = r.total + 1 := by
  simp [total, add]

lemma succeeded_add (r : Report) (o : Outcome) :
    (r.add o).succeeded = r.succeeded + if o.succeeded then 1 else 0 := by
  rw [succeeded, add, List.filter_append, List.length_append, ← succeeded]
  split_ifs with h <;> simp [h]

lemma failed_add (r : Report) (o : Outcome) :
    (r.add o).failed = r.failed + if o.succeeded then 0 else 1 := by
  have hle : r.succeeded ≤ r.total := List.length_filter_le _ _
  rw [failed, failed, total_add, succeeded_add]
  split_ifs <;> omega

lemma warningCount_add (r : Report) (o : Outcome) :
    (r.add o).warningCount = r.warningCount + o.warnings.length := by
  simp [warningCount, add]

variable {r r' : Report}

lemma total_perm (h : r.outcomes.Perm r'.outcomes) : r.total = r'.total := h.length_eq

lemma succeeded_perm (h : r.outcomes.Perm r'.outcomes) : r.succeeded = r'.succeeded :=
  (h.filter _).length_eq

lemma failed_perm (h : r.outcomes.Perm r'.outcomes) : r.failed = r'.failed := by
  rw [failed, failed, total_perm h, succeeded_perm h]

lemma warningCount_perm (h : r.outcomes.Perm r'.outcomes) : r.warningCount = r'.warningCount :=
  (h.flatMap_right _).length_eq

end Report

end PageNotes
