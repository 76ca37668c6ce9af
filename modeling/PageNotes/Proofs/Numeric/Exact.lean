import Mathlib.Algebra.Order.Field.Power
import Mathlib.Data.Rat.Floor
import Mathlib.Tactic.FieldSimp
import Mathlib.Tactic.Linarith
import Mathlib.Tactic.NormNum
import Mathlib.Tactic.Positivity
import Mathlib.Tactic.Ring
import PageNotes.Numeric.Binary64

/-!
Floating-point numbers as rational numbers. What is computed with the significand and the exponent
is compared with the exact value of the number.

* `Binary64.value?`: the exact value of a finite number;
* `abs_roundHalfEven_sub_le`, `le_roundHalfEven_iff`: rounding to the nearest integer;
* `Binary64.ltNat_iff`, `Binary64.truncate?_eq_floor`: comparing and truncating exactly;
* `Binary64.ofInt?_exact`: integers of up to 53 bits are taken over exactly.
-/

namespace PageNotes

/-! ### Rounding -/

section Rounding

variable (num : ℕ) {den k : ℕ}

lemma roundHalfEven_zero (hden : 0 < den) : roundHalfEven 0 den = 0 := by
  rw [roundHalfEven, Nat.zero_div, Nat.zero_mod, if_pos hden]

/-- The rounded number is at most half a unit away. -/
lemma roundHalfEven_near (hden : 0 < den) :
    2 * num ≤ 2 * (roundHalfEven num den * den) + den ∧
      2 * (roundHalfEven num den * den) ≤ 2 * num + den := by
  have hdiv := Nat.div_add_mod' num den
  have hlt := Nat.mod_lt num hden
  have hsucc : (num / den + 1) * den = num / den * den + den := Nat.succ_mul _ _
  rw [roundHalfEven]
  split_ifs <;> constructor <;> omega

/-- What is rounded down by half a unit is rounded to an even number. -/
lemma roundHalfEven_tie (hden : 0 < den) (h : 2 * num = 2 * (roundHalfEven num den * den) + den) :
    roundHalfEven num den % 2 = 0 := by
  have hdiv := Nat.div_add_mod' num den
  have hlt := Nat.mod_lt num hden
  have hsucc : (num / den + 1) * den = num / den * den + den := Nat.succ_mul _ _
  rw [roundHalfEven] at h ⊢
  split_ifs at h ⊢ with hdown hup heven
  · omega
  · omega
  · exact heven
  · omega

/-- The rounded number is at most half a unit away from the quotient. -/
theorem abs_roundHalfEven_sub_le (hden : 0 < den) :
    |(roundHalfEven num den : ℚ) - num / den| ≤ 1 / 2 := by
  obtain ⟨hlow, hhigh⟩ := roundHalfEven_near num hden
  have hpos : (0 : ℚ) < den := by exact_mod_cast hden
  have hlow' : 2 * (num : ℚ) ≤ 2 * (roundHalfEven num den * den) + den := by exact_mod_cast hlow
  have hhigh' : 2 * (roundHalfEven num den * den : ℚ) ≤ 2 * num + den := by exact_mod_cast hhigh
  have hquotient : (num : ℚ) / den * den = num := div_mul_cancel₀ _ hpos.ne'
  rw [abs_le]
  constructor
  · refine le_of_mul_le_mul_right ?_ hpos
    linarith
  · refine le_of_mul_le_mul_right ?_ hpos
    linarith

lemma le_roundHalfEven_iff_nat (hden : 0 < den) (heven : k % 2 = 0) :
    k ≤ roundHalfEven num den ↔ 2 * (k * den) ≤ 2 * num + den := by
  obtain ⟨hlow, hhigh⟩ := roundHalfEven_near num hden
  constructor
  · intro h
    have hmul := Nat.mul_le_mul_right den h
    omega
  · intro h
    by_contra hlt
    have hmul : (roundHalfEven num den + 1) * den ≤ k * den :=
      Nat.mul_le_mul_right den (not_le.mp hlt)
    rw [Nat.succ_mul] at hmul
    have htie : roundHalfEven num den % 2 = 0 := roundHalfEven_tie num hden (by omega)
    have hmul' : (roundHalfEven num den + 2) * den ≤ k * den :=
      Nat.mul_le_mul_right den (by omega)
    rw [Nat.add_mul] at hmul'
    omega

/-- An even number is reached from half a unit below it. -/
theorem le_roundHalfEven_iff (hden : 0 < den) (heven : k % 2 = 0) :
    k ≤ roundHalfEven num den ↔ (k : ℚ) - 1 / 2 ≤ num / den := by
  have hpos : (0 : ℚ) < den := by exact_mod_cast hden
  have hcast : 2 * (k * den) ≤ 2 * num + den ↔ 2 * ((k : ℚ) * den) ≤ 2 * num + den := by
    exact_mod_cast Iff.rfl
  rw [le_roundHalfEven_iff_nat num hden heven, hcast, le_div_iff₀ hpos]
  constructor
  · intro h
    linarith
  · intro h
    linarith

end Rounding

namespace Binary64

/-! ### Exact values -/

/-- The exact value of a finite number. -/
def value? : Binary64 → Option ℚ
  | .finite negative m e => some ((if negative then -1 else 1) * (m * 2 ^ e))
  | _ => none

variable {x : Binary64} {v : ℚ} {m n : ℕ} {e : ℤ} {negative : Bool}

lemma ratio_zero (e : ℤ) : (ratio 0 e).1 = 0 := by
  cases e with
  | ofNat k => exact Nat.zero_mul _
  | negSucc k => rfl

lemma ratio_pos (m : ℕ) (e : ℤ) : 0 < (ratio m e).2 := by
  cases e with
  | ofNat k => exact Nat.one_pos
  | negSucc k => exact Nat.two_pow_pos _

/-- The size of a finite number as a ratio. -/
lemma ratio_value (m : ℕ) (e : ℤ) : ((ratio m e).1 : ℚ) / (ratio m e).2 = m * 2 ^ e := by
  cases e with
  | ofNat k => simp [ratio]
  | negSucc k =>
      rw [ratio, zpow_negSucc, div_eq_mul_inv]
      simp

lemma ltNat_finite (hm : negative = true → m = 0) :
    (Binary64.finite negative m e).ltNat n = true ↔ (ratio m e).1 < n * (ratio m e).2 := by
  have hsign : (negative && decide (0 < m)) = false := by
    cases negative with
    | false => rfl
    | true => simp [hm rfl]
  cases e with
  | ofNat k => simp [ltNat, ratio, hsign]
  | negSucc k => simp [ltNat, ratio, hsign]

lemma truncate?_finite (hm : negative = true → m = 0) :
    (Binary64.finite negative m e).truncate? = some ((ratio m e).1 / (ratio m e).2 : ℕ) := by
  cases negative with
  | false => cases e <;> simp [truncate?, ratio]
  | true =>
      obtain rfl := hm rfl
      cases e <;> simp [truncate?, ratio]

/-- A number that is not negative has no sign, or is zero. -/
lemma exists_of_nonneg (hx : x.value? = some v) (hv : 0 ≤ v) :
    ∃ negative m e, x = .finite negative m e ∧ (negative = true → m = 0) ∧
      v = (ratio m e).1 / (ratio m e).2 := by
  cases x with
  | infinite => cases hx
  | nan => cases hx
  | finite negative m e =>
      have hvalue : (if negative then -1 else 1) * (m * 2 ^ e) = v := Option.some.inj hx
      have hzero : negative = true → m = 0 := by
        rintro rfl
        by_contra hm
        have hpos : (0 : ℚ) < m * 2 ^ e := by positivity
        rw [if_pos rfl] at hvalue
        linarith
      refine ⟨negative, m, e, rfl, hzero, ?_⟩
      rw [ratio_value, ← hvalue]
      cases negative with
      | false => simp
      | true => simp [hzero rfl]

/-- Comparing with a natural number compares the exact value. -/
theorem ltNat_iff (hx : x.value? = some v) (hv : 0 ≤ v) : x.ltNat n = true ↔ v < n := by
  obtain ⟨negative, m, e, rfl, hzero, rfl⟩ := exists_of_nonneg hx hv
  have hden : (0 : ℚ) < (ratio m e).2 := by exact_mod_cast ratio_pos m e
  rw [ltNat_finite hzero, div_lt_iff₀ hden]
  exact_mod_cast Iff.rfl

/-- The integer part is that of the exact value. -/
theorem truncate?_eq_floor (hx : x.value? = some v) (hv : 0 ≤ v) : x.truncate? = some ⌊v⌋ := by
  obtain ⟨negative, m, e, rfl, hzero, rfl⟩ := exists_of_nonneg hx hv
  rw [truncate?_finite hzero]
  exact congrArg some (Rat.floor_natCast_div_natCast _ _).symm

/-! ### Integers -/

lemma roundHalfEven_one (num : ℕ) : roundHalfEven num 1 = num := by
  rw [roundHalfEven, Nat.div_one, Nat.mod_one, if_pos (by decide)]

lemma scaleDown_neg (num j : ℕ) : scaleDown num 1 (-j : ℤ) = (num * 2 ^ j, 1) := by
  cases j with
  | zero => simp [scaleDown]
  | succ j => rfl

/-- An integer of up to 53 bits is scaled up to a significand of 53 bits. -/
lemma exponentFor_one {num j : ℕ} (hj : num.log2 + j = 52) (hnum : num ≠ 0) :
    exponentFor num 1 = -j := by
  have hguess : Int.ofNat num.log2 - Int.ofNat (Nat.log2 1) - 52 = -j := by
    rw [show Nat.log2 1 = 0 by decide]
    simp only [Int.ofNat_eq_natCast]
    omega
  have hpow : 2 ^ 52 ≤ num * 2 ^ j :=
    calc 2 ^ 52 = 2 ^ num.log2 * 2 ^ j := by rw [← pow_add, hj]
      _ ≤ num * 2 ^ j := Nat.mul_le_mul_right _ (Nat.log2_self_le hnum)
  rw [exponentFor, hguess, scaleDown_neg]
  dsimp only
  rw [Nat.div_one, if_neg (show ¬num * 2 ^ j < Nat.pow 2 52 from not_lt.mpr hpow)]
  omega

lemma ofRatio_one {num j : ℕ} (hj : num.log2 + j = 52) (hnum : num ≠ 0) (negative : Bool) :
    ofRatio negative num 1 = .finite negative (num * 2 ^ j) (-j) := by
  have hpow : num * 2 ^ j < 2 ^ 53 :=
    calc num * 2 ^ j < 2 ^ (num.log2 + 1) * 2 ^ j :=
          Nat.mul_lt_mul_of_pos_right Nat.lt_log2_self (Nat.two_pow_pos j)
      _ = 2 ^ 53 := by rw [← pow_add]; congr 1; omega
  rw [ofRatio, if_neg hnum, exponentFor_one hj hnum]
  dsimp only
  rw [scaleDown_neg]
  dsimp only
  rw [roundHalfEven_one, if_neg (show num * 2 ^ j ≠ Nat.pow 2 53 from hpow.ne)]
  dsimp only
  rw [if_neg (by omega)]

/-- Integers of up to 53 bits are taken over exactly. -/
theorem ofInt?_exact {n : ℤ} (h : n.natAbs < 2 ^ 53) :
    ∃ x, ofInt? n = some x ∧ x.value? = some (n : ℚ) := by
  by_cases hzero : n = 0
  · subst hzero
    exact ⟨.finite false 0 (-1074), rfl, by simp [value?]⟩
  · have hnum : n.natAbs ≠ 0 := Int.natAbs_ne_zero.mpr hzero
    have hlog : n.natAbs.log2 < 53 := (Nat.log2_lt hnum).mpr h
    have hratio : ofRatio (n < 0) n.natAbs 1 = .finite (n < 0)
        (n.natAbs * 2 ^ (52 - n.natAbs.log2)) (-(52 - n.natAbs.log2 : ℕ)) :=
      ofRatio_one (by omega) hnum _
    refine ⟨_, by rw [ofInt?, hratio], ?_⟩
    have hscale : ((n.natAbs * 2 ^ (52 - n.natAbs.log2) : ℕ) : ℚ)
        * 2 ^ (-(52 - n.natAbs.log2 : ℕ) : ℤ) = n.natAbs := by
      rw [zpow_neg, zpow_natCast]
      push_cast
      field_simp
    rw [value?, hscale]
    by_cases hneg : n < 0
    · have habs : (n.natAbs : ℤ) = -n := by omega
      rw [if_pos (decide_eq_true hneg), ← Int.cast_natCast, habs]
      push_cast
      ring_nf
    · have habs : (n.natAbs : ℤ) = n := by omega
      rw [if_neg (by simpa using hneg), ← Int.cast_natCast, habs, one_mul]

end Binary64

end PageNotes
