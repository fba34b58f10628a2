import DepositYield.Proofs.Decimal.Number
import Mathlib.Order.Compare

/-!
# The order of decimals

Finite decimals are compared like the numbers that they denote, so every comparison
of them has an answer.
-/

namespace DepositYield.Decimal

/-- Coefficients with their first digits at one place are aligned at the lower
exponent. -/
theorem compare_aligned (left : Nat) (leftExponent : Int) (right : Nat) (rightExponent : Int) :
    compare (left * 10 ^ (leftExponent - rightExponent).toNat)
        (right * 10 ^ (rightExponent - leftExponent).toNat) =
      compare ((left : ℚ) * 10 ^ leftExponent) (right * 10 ^ rightExponent) := by
  have aligned : ∀ (coefficient : Nat) {exponent lower : Int}, lower ≤ exponent →
      (coefficient : ℚ) * 10 ^ exponent =
        (coefficient * 10 ^ (exponent - lower).toNat : ℕ) * 10 ^ lower := by
    intro coefficient exponent lower le
    push_cast
    rw [mul_assoc, pow_toNat_mul_zpow le]
  have monotone : ∀ lower : Int, StrictMono fun value : ℕ => (value : ℚ) * 10 ^ lower := by
    intro lower left right less
    have cast : (left : ℚ) < right := by exact_mod_cast less
    exact mul_lt_mul_of_pos_right cast (by positivity)
  rcases le_total rightExponent leftExponent with le | le
  · have gap : (rightExponent - leftExponent).toNat = 0 := by omega
    rw [aligned left le, gap, pow_zero, mul_one]
    rw [← cmp_eq_compare, ← cmp_eq_compare]
    exact ((monotone rightExponent).cmp_map_eq _ _).symm
  · have gap : (leftExponent - rightExponent).toNat = 0 := by omega
    rw [aligned right le, gap, pow_zero, mul_one]
    rw [← cmp_eq_compare, ← cmp_eq_compare]
    exact ((monotone leftExponent).cmp_map_eq _ _).symm

theorem compareMagnitude_eq_compare (left : Nat) (leftExponent : Int) (right : Nat)
    (rightExponent : Int) :
    compareMagnitude left leftExponent right rightExponent =
      compare ((left : ℚ) * 10 ^ leftExponent) (right * 10 ^ rightExponent) := by
  have apart : ∀ {left : Nat} {leftExponent : Int} {right : Nat} {rightExponent : Int},
      right ≠ 0 → leftExponent + digitCount left < rightExponent + digitCount right →
        (left : ℚ) * 10 ^ leftExponent < right * 10 ^ rightExponent := by
    intro left leftExponent right rightExponent nonzero less
    calc
      (left : ℚ) * 10 ^ leftExponent < 10 ^ (leftExponent + digitCount left) := mul_pow_lt _ _
      _ ≤ 10 ^ (rightExponent + digitCount right - 1) :=
        zpow_le_zpow_right₀ (by norm_num) (by omega)
      _ ≤ right * 10 ^ rightExponent := pow_le_mul_pow nonzero _
  unfold compareMagnitude
  split
  · next leftZero =>
      subst leftZero
      split
      · next rightZero => simp [rightZero]
      · next rightPresent =>
          symm
          rw [compare_lt_iff_lt, Nat.cast_zero, zero_mul]
          positivity
  next leftPresent =>
  split
  · next rightZero =>
      symm
      rw [compare_gt_iff_gt, rightZero, Nat.cast_zero, zero_mul]
      positivity
  next rightPresent =>
  dsimp only
  split
  · next less => exact (compare_lt_iff_lt.mpr (apart rightPresent less)).symm
  split
  · next less => exact (compare_gt_iff_gt.mpr (apart leftPresent less)).symm
  · exact compare_aligned left leftExponent right rightExponent

/-- Of magnitudes with opposite signs, not both of them zero, the negative one is less. -/
theorem compare_opposite_signs {left right : ℚ} (positive : 0 < left + right) (negative : Bool) :
    compare (sign negative * left) (sign (!negative) * right) =
      if negative then .lt else .gt := by
  cases negative with
  | false =>
      rw [if_neg Bool.false_ne_true, compare_gt_iff_gt]
      simp only [sign, Bool.not_false, if_true, Bool.false_eq_true, if_false]
      linarith
  | true =>
      rw [if_pos rfl, compare_lt_iff_lt]
      simp only [sign, Bool.not_true, if_true, Bool.false_eq_true, if_false]
      linarith

/-- Finite decimals are compared like the numbers that they denote. -/
theorem compare?_eq_compare {left right : Decimal} (leftFinite : left.isFinite)
    (rightFinite : right.isFinite) :
    compare? left right = some (compare left.toRat right.toRat) := by
  obtain ⟨leftNegative, left, leftExponent, rfl⟩ := exists_finite_of_isFinite leftFinite
  obtain ⟨rightNegative, right, rightExponent, rfl⟩ := exists_finite_of_isFinite rightFinite
  have magnitudes := compareMagnitude_eq_compare left leftExponent right rightExponent
  have leftNonneg : (0 : ℚ) ≤ left * 10 ^ leftExponent := by positivity
  have rightNonneg : (0 : ℚ) ≤ right * 10 ^ rightExponent := by positivity
  unfold compare?
  dsimp only
  rw [toRat_finite, toRat_finite]
  split
  · next zeros => simp [zeros.1, zeros.2]
  next present =>
  split
  · next same =>
      subst same
      rw [magnitudes]
      cases leftNegative with
      | false => simp [sign]
      | true =>
          rw [sign, if_pos rfl, ← cmp_eq_compare, ← cmp_eq_compare, cmp_swap,
            cmp_mul_neg_left (by norm_num)]
  next different =>
  have positive : (0 : ℚ) < left * 10 ^ leftExponent + right * 10 ^ rightExponent := by
    rcases not_and_or.mp present with leftPresent | rightPresent
    · exact add_pos_of_pos_of_nonneg (by positivity) rightNonneg
    · exact add_pos_of_nonneg_of_pos leftNonneg (by positivity)
  obtain rfl : rightNegative = !leftNegative := Bool.eq_not_of_ne (Ne.symm different)
  rw [compare_opposite_signs positive]
  cases leftNegative <;> split <;> rfl

theorem lt?_eq {left right : Decimal} (leftFinite : left.isFinite)
    (rightFinite : right.isFinite) : lt? left right = .ok (decide (left.toRat < right.toRat)) := by
  unfold lt?
  rw [compare?_eq_compare leftFinite rightFinite]
  rcases lt_trichotomy left.toRat right.toRat with less | equal | greater
  · simp [compare_lt_iff_lt.mpr less, less]
  · simp [equal]
  · simp [compare_gt_iff_gt.mpr greater, greater.le]

theorem le?_eq {left right : Decimal} (leftFinite : left.isFinite)
    (rightFinite : right.isFinite) : le? left right = .ok (decide (left.toRat ≤ right.toRat)) := by
  unfold le?
  rw [compare?_eq_compare leftFinite rightFinite]
  rcases lt_trichotomy left.toRat right.toRat with less | equal | greater
  · simp [compare_lt_iff_lt.mpr less, less.le]
  · simp [equal]
  · simp [compare_gt_iff_gt.mpr greater, greater]

theorem isZero?_eq {decimal : Decimal} (finite : decimal.isFinite) :
    isZero? decimal = .ok (decide (decimal.toRat = 0)) := by
  obtain ⟨negative, coefficient, exponent, rfl⟩ := exists_finite_of_isFinite finite
  simp only [isZero?, toRat_eq_zero_iff]

end DepositYield.Decimal
