import Mathlib.Data.List.Induction
import Mathlib.Data.Nat.Digits.Defs
import Mathlib.Tactic.Common
import Mathlib.Tactic.Ring
import PageNotes.Text.Digit
import PageNotes.Time.Moment

/-!
Decimal digits. A number is read back from its digits, and texts of digits that are equally long
are ordered as the numbers that they denote.

* `Text.number`: the number that digits denote;
* `Text.number_ofNat`, `Text.number_padded`: digits are read back;
* `Text.le_padded_append`: the order of texts that begin with numbers of one width.
-/

namespace PageNotes

namespace Text

/-- The number that digits denote. -/
def number (t : Text) : ℕ := t.foldl (fun n d => n * 10 + (d.toNat - 0x30)) 0

variable {s t u v : Text} {n k width : ℕ}

lemma number_concat (t : Text) (c : Char) :
    number (t ++ [c]) = number t * 10 + (c.toNat - 0x30) := by
  rw [number, number, List.foldl_append, List.foldl_cons, List.foldl_nil]

lemma number_zeros_append (k : ℕ) (t : Text) : number (List.replicate k '0' ++ t) = number t := by
  have hzeros : (List.replicate k '0').foldl (fun n d => n * 10 + (d.toNat - 0x30)) 0 = 0 := by
    induction k with
    | zero => rfl
    | succ k ih => rw [List.replicate_succ, List.foldl_cons]; exact ih
  rw [number, number, List.foldl_append, hzeros]

/-! ### The digits of a number -/

lemma ofNat_eq_toDigits (n : ℕ) : Text.ofNat n = Nat.toDigits 10 n := Nat.toList_repr

lemma ofNat_of_lt (h : n < 10) : Text.ofNat n = [n.digitChar] := by
  rw [ofNat_eq_toDigits, Nat.toDigits_of_lt_base h]

/-- The last digit comes behind those of the rest. -/
lemma ofNat_of_le (h : 10 ≤ n) : Text.ofNat n = Text.ofNat (n / 10) ++ [(n % 10).digitChar] := by
  rw [ofNat_eq_toDigits, ofNat_eq_toDigits, Nat.toDigits_eq_if (by omega), if_neg (by omega)]

lemma ofNat_ne_nil (n : ℕ) : Text.ofNat n ≠ [] := by
  rw [ofNat_eq_toDigits]
  exact Nat.toDigits_ne_nil

lemma toNat_digitChar (h : n < 10) : n.digitChar.toNat = 0x30 + n :=
  Nat.toNat_digitChar_of_lt_ten h

lemma isAsciiDigit_iff {c : Char} : isAsciiDigit c = true ↔ 0x30 ≤ c.toNat ∧ c.toNat ≤ 0x39 := by
  rw [isAsciiDigit, Bool.and_eq_true, decide_eq_true_eq, decide_eq_true_eq]
  exact Iff.rfl

lemma isAsciiDigit_of_mem_ofNat {c : Char} (h : c ∈ Text.ofNat n) : isAsciiDigit c = true := by
  induction n using Nat.strong_induction_on with
  | _ n ih =>
      by_cases hn : n < 10
      · rw [ofNat_of_lt hn, List.mem_singleton] at h
        rw [isAsciiDigit_iff, h, toNat_digitChar hn]
        omega
      · rw [ofNat_of_le (by omega), List.mem_append, List.mem_singleton] at h
        rcases h with hrest | rfl
        · exact ih (n / 10) (by omega) hrest
        · rw [isAsciiDigit_iff, toNat_digitChar (by omega)]
          omega

lemma notMem_ofNat {c : Char} (hc : isAsciiDigit c = false) : c ∉ Text.ofNat n := fun h => by
  rw [isAsciiDigit_of_mem_ofNat h] at hc
  cases hc

/-- The text of a number begins with a digit. -/
lemma ofNat_eq_cons (n : ℕ) :
    ∃ c digits, Text.ofNat n = c :: digits ∧ isAsciiDigit c = true := by
  obtain ⟨c, digits, hcons⟩ := List.exists_cons_of_ne_nil (ofNat_ne_nil n)
  have hmem : c ∈ Text.ofNat n := hcons ▸ List.mem_cons_self
  exact ⟨c, digits, hcons, isAsciiDigit_of_mem_ofNat hmem⟩

/-- A number is read back from its digits. -/
theorem number_ofNat (n : ℕ) : number (Text.ofNat n) = n := by
  induction n using Nat.strong_induction_on with
  | _ n ih =>
      by_cases hn : n < 10
      · rw [ofNat_of_lt hn, ← List.nil_append [_], number_concat, toNat_digitChar hn]
        exact (by simp [number] : number [] * 10 + (0x30 + n - 0x30) = n)
      · rw [ofNat_of_le (by omega), number_concat, ih (n / 10) (by omega),
          toNat_digitChar (by omega)]
        omega

lemma number_cons (c : Char) (t : Text) :
    number (c :: t) = (c.toNat - 0x30) * 10 ^ t.length + number t := by
  induction t using List.reverseRecOn with
  | nil => simp [number]
  | append_singleton t d ih =>
      rw [← List.cons_append, number_concat, ih, number_concat, List.length_append,
        List.length_singleton, pow_succ]
      ring

lemma number_lt (h : ∀ c ∈ t, isAsciiDigit c = true) : number t < 10 ^ t.length := by
  induction t with
  | nil => simp [number]
  | cons c t ih =>
      have hrest := ih fun d hd => h d (List.mem_cons_of_mem _ hd)
      have hc := isAsciiDigit_iff.mp (h c List.mem_cons_self)
      rw [number_cons, List.length_cons, pow_succ]
      have hle : (c.toNat - 0x30) * 10 ^ t.length ≤ 9 * 10 ^ t.length :=
        Nat.mul_le_mul_right _ (by omega)
      omega

lemma length_ofNat_le_iff (hwidth : 0 < width) :
    (Text.ofNat n).length ≤ width ↔ n < 10 ^ width := by
  constructor
  · intro h
    calc n = number (Text.ofNat n) := (number_ofNat n).symm
      _ < 10 ^ (Text.ofNat n).length := number_lt fun _ => isAsciiDigit_of_mem_ofNat
      _ ≤ 10 ^ width := Nat.pow_le_pow_right (by omega) h
  · intro h
    rw [ofNat_eq_toDigits]
    exact Nat.toDigits_length 10 n width hwidth h

/-! ### Numbers of one width -/

lemma length_padded (hwidth : 0 < width) (h : n < 10 ^ width) :
    (Text.padded width n).length = width := by
  have hle := (length_ofNat_le_iff hwidth).mpr h
  rw [padded, List.length_append, List.length_replicate]
  omega

lemma isAsciiDigit_of_mem_padded {c : Char} (h : c ∈ Text.padded width n) :
    isAsciiDigit c = true := by
  rw [padded, List.mem_append] at h
  rcases h with hzero | hdigit
  · rw [(List.mem_replicate.mp hzero).2]
    rfl
  · exact isAsciiDigit_of_mem_ofNat hdigit

/-- A number is read back from its digits with zeros before them. -/
theorem number_padded (width n : ℕ) : number (Text.padded width n) = n := by
  rw [padded, number_zeros_append, number_ofNat]

/-! ### Order -/

lemma le_self (t : Text) : Text.le t t = true := by
  induction t with
  | nil => rfl
  | cons c t ih => rw [Text.le, if_pos rfl, ih]

lemma le_cons (c : Char) (s t : Text) : Text.le (c :: s) (c :: t) = Text.le s t := by
  rw [Text.le, if_pos rfl]

lemma le_cons_of_lt {a b : Char} (h : a.toNat < b.toNat) : Text.le (a :: s) (b :: t) = true := by
  have hne : a ≠ b := fun heq => by rw [heq] at h; omega
  rw [Text.le, if_neg hne, decide_eq_true h]

lemma le_cons_of_gt {a b : Char} (h : b.toNat < a.toNat) : Text.le (a :: s) (b :: t) = false := by
  have hne : a ≠ b := fun heq => by rw [heq] at h; omega
  rw [Text.le, if_neg hne, decide_eq_false (by omega)]

/-- The first of two parts that are equally long decides, where they differ. -/
lemma le_append_append (hlength : s.length = t.length) (u v : Text) :
    Text.le (s ++ u) (t ++ v) = if s = t then Text.le u v else Text.le s t := by
  induction s generalizing t with
  | nil => rw [List.length_eq_zero_iff.mp hlength.symm, if_pos rfl]; rfl
  | cons a s ih =>
      cases t with
      | nil => simp at hlength
      | cons b t =>
          by_cases hab : a = b
          · subst hab
            rw [List.cons_append, List.cons_append, le_cons, le_cons, ih (by simpa using hlength)]
            simp
          · simp [Text.le, hab]

/-- Different digits decide before any character that comes before the digits. -/
lemma le_digits_append (hs : ∀ c ∈ s, isAsciiDigit c = true) (ht : ∀ c ∈ t, isAsciiDigit c = true)
    (hne : s ≠ t) {c : Char} (hc : c.toNat < 0x30) (u v : Text) :
    Text.le (s ++ c :: u) (t ++ c :: v) = Text.le s t := by
  induction s generalizing t with
  | nil =>
      cases t with
      | nil => exact absurd rfl hne
      | cons b t =>
          have hb := isAsciiDigit_iff.mp (ht b List.mem_cons_self)
          exact le_cons_of_lt (by omega)
  | cons a s ih =>
      cases t with
      | nil =>
          have ha := isAsciiDigit_iff.mp (hs a List.mem_cons_self)
          exact le_cons_of_gt (by omega)
      | cons b t =>
          by_cases hab : a = b
          · subst hab
            rw [List.cons_append, List.cons_append, le_cons, le_cons]
            exact ih (fun d hd => hs d (List.mem_cons_of_mem _ hd))
              (fun d hd => ht d (List.mem_cons_of_mem _ hd)) fun h => hne (by rw [h])
          · simp [Text.le, hab]

/-- Digits that are equally many are ordered as the numbers that they denote. -/
theorem le_iff_number_le (hs : ∀ c ∈ s, isAsciiDigit c = true)
    (ht : ∀ c ∈ t, isAsciiDigit c = true) (hlength : s.length = t.length) :
    Text.le s t = true ↔ number s ≤ number t := by
  induction s generalizing t with
  | nil => simp [Text.le, number]
  | cons a s ih =>
      cases t with
      | nil => simp at hlength
      | cons b t =>
          obtain ⟨ha, hrestDigits⟩ := List.forall_mem_cons.mp hs
          obtain ⟨hb, hrestDigits'⟩ := List.forall_mem_cons.mp ht
          rw [List.length_cons, List.length_cons, Nat.add_left_inj] at hlength
          have hrest := number_lt hrestDigits
          have hrest' := number_lt hrestDigits'
          rw [isAsciiDigit_iff] at ha hb
          rw [hlength] at hrest
          rw [number_cons, number_cons, hlength]
          rcases Nat.lt_trichotomy a.toNat b.toNat with hlt | heq | hgt
          · have hstep := Nat.mul_le_mul_right (10 ^ t.length)
              (show a.toNat - 0x30 + 1 ≤ b.toNat - 0x30 by omega)
            rw [le_cons_of_lt hlt, eq_self, true_iff]
            rw [Nat.add_mul, Nat.one_mul] at hstep
            omega
          · obtain rfl := Char.toNat_inj.mp heq
            rw [le_cons, ih hrestDigits hrestDigits' hlength]
            omega
          · have hstep := Nat.mul_le_mul_right (10 ^ t.length)
              (show b.toNat - 0x30 + 1 ≤ a.toNat - 0x30 by omega)
            rw [le_cons_of_gt hgt, Bool.false_eq_true, false_iff]
            rw [Nat.add_mul, Nat.one_mul] at hstep
            omega

/-- Texts that begin with numbers of one width are ordered by these numbers first. -/
theorem le_padded_append {m : ℕ} (hwidth : 0 < width) (hn : n < 10 ^ width) (hm : m < 10 ^ width)
    (u v : Text) : Text.le (Text.padded width n ++ u) (Text.padded width m ++ v) = true ↔
      n < m ∨ n = m ∧ Text.le u v = true := by
  have hlength : (Text.padded width n).length = (Text.padded width m).length := by
    rw [length_padded hwidth hn, length_padded hwidth hm]
  have hle := le_iff_number_le (fun _ => isAsciiDigit_of_mem_padded)
    (fun _ => isAsciiDigit_of_mem_padded) hlength
  rw [number_padded, number_padded] at hle
  rw [le_append_append hlength]
  split_ifs with heq
  · have hnm : n = m := by rw [← number_padded width n, heq, number_padded]
    simp [hnm]
  · have hnm : n ≠ m := fun h => heq (by rw [h])
    rw [hle]
    simp only [hnm, false_and, or_false]
    omega

end Text

end PageNotes
