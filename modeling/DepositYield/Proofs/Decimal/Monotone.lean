import DepositYield.Proofs.Decimal.Nearest

/-!
# Rounding keeps the order

Rounding is monotone, also where the last place changes from one number to the other.
A rounded number has no more digits than the precision, so rounding it again does not
change it.
-/

namespace DepositYield.Decimal

theorem nearestWhole_mono {left right : ℚ} (le : left ≤ right) :
    nearestWhole left ≤ nearestWhole right := by
  obtain less | same := (Int.floor_le_floor le).lt_or_eq
  · -- a whole number separates the two
    have above : nearestWhole left ≤ ⌊left⌋ + 1 :=
      nearestWhole_le (by exact_mod_cast (Int.lt_floor_add_one left).le)
    have below : ⌊right⌋ ≤ nearestWhole right := le_nearestWhole (Int.floor_le right)
    omega
  · unfold nearestWhole
    rw [same]
    split
    · next raised =>
        rw [if_pos]
        obtain less | equal := le.lt_or_eq
        · rcases raised with large | ⟨tie, -⟩ <;> exact .inl (by linarith)
        · subst equal
          exact raised
    · split <;> omega

namespace Context

variable {context : Context} {left right number : ℚ}

/-! ## The order -/

theorem tiny_le {place : ℤ} (above : -999998 ≤ place) : context.tiny ≤ place := by
  unfold tiny minExponent
  omega

theorem lastPlace_mono (context : Context) (positive : 0 < left) (le : left ≤ right) :
    context.lastPlace left ≤ context.lastPlace right := by
  have logs : Int.log 10 left ≤ Int.log 10 right := Int.log_mono_right positive le
  unfold lastPlace
  rw [abs_of_pos positive, abs_of_pos (positive.trans_le le)]
  omega

theorem rounded_le_rounded_of_pos (precise : 0 < context.precision) (positive : 0 < left)
    (le : left ≤ right) : context.rounded left ≤ context.rounded right := by
  obtain same | less := (context.lastPlace_mono positive le).eq_or_lt
  · have scaled : nearestWhole (left / 10 ^ context.lastPlace right) ≤
        nearestWhole (right / 10 ^ context.lastPlace right) := nearestWhole_mono (by gcongr)
    unfold rounded
    rw [same]
    gcongr
  · -- the power of ten below the greater number separates the two
    have places : context.lastPlace left < Int.log 10 right ∧
        context.lastPlace right ≤ Int.log 10 right ∧ Int.log 10 left < Int.log 10 right := by
      unfold lastPlace at less ⊢
      rw [abs_of_pos positive, abs_of_pos (positive.trans_le le)] at less ⊢
      omega
    have small : left ≤ 10 ^ Int.log 10 right :=
      ((Int.lt_zpow_iff_log_lt (b := 10) (by decide) positive).mpr places.2.2).le
    have large : (10 : ℚ) ^ Int.log 10 right ≤ right :=
      Int.zpow_log_le_self (b := 10) (by decide) (positive.trans_le le)
    exact (rounded_le_pow small places.1.le).trans (pow_le_rounded large places.2.1)

/-- Of two numbers, the greater one is not rounded below the lesser one. -/
theorem rounded_mono (precise : 0 < context.precision) : Monotone context.rounded := by
  intro left right le
  rcases lt_or_ge 0 left with positive | leftNonpos
  · exact rounded_le_rounded_of_pos precise positive le
  rcases lt_or_ge right 0 with negative | rightNonneg
  · have opposite := rounded_le_rounded_of_pos precise (neg_pos.mpr negative) (neg_le_neg le)
    rw [rounded_neg, rounded_neg] at opposite
    exact neg_le_neg_iff.mp opposite
  · have leftRounded : 0 ≤ context.rounded (-left) := rounded_nonneg (neg_nonneg.mpr leftNonpos)
    rw [rounded_neg] at leftRounded
    exact (neg_nonneg.mp leftRounded).trans (rounded_nonneg rightNonneg)

/-- A number with no more digits than the precision bounds what is rounded from above it. -/
theorem le_rounded_of_digits (precise : 0 < context.precision) {digits place : ℤ}
    (few : |digits| < 10 ^ context.precision) (above : context.tiny ≤ place)
    (le : digits * 10 ^ place ≤ number) : digits * 10 ^ place ≤ context.rounded number := by
  rw [← rounded_of_digits rfl few above]
  exact rounded_mono precise le

/-- What rounding does not change bounds what is rounded from above it. -/
theorem le_rounded_of_settled (precise : 0 < context.precision)
    (settled : context.rounded left = left) (le : left ≤ right) : left ≤ context.rounded right :=
  settled.symm.trans_le (rounded_mono precise le)

theorem rounded_one (precise : 0 < context.precision) : context.rounded 1 = 1 := by
  refine rounded_of_digits (by norm_num : (1 : ℚ) = (1 : ℤ) * 10 ^ (0 : ℤ)) ?_ (tiny_le (by decide))
  rw [abs_one]
  exact one_lt_pow₀ (by norm_num) precise.ne'

/-- Rounding leaves the first digit of a number that is not subnormal where it is, or moves
it up. -/
theorem pow_log_le_rounded (precise : 0 < context.precision) (positive : 0 < number)
    (normal : context.tiny ≤ Int.log 10 number) :
    10 ^ Int.log 10 number ≤ context.rounded number := by
  have one : (10 : ℚ) ^ Int.log 10 number = ((1 : ℤ) : ℚ) * 10 ^ Int.log 10 number := by
    rw [Int.cast_one, one_mul]
  have large : (10 : ℚ) ^ Int.log 10 number ≤ number :=
    Int.zpow_log_le_self (b := 10) (by decide) positive
  rw [one] at large ⊢
  refine le_rounded_of_digits precise ?_ normal large
  rw [abs_one]
  exact one_lt_pow₀ (by norm_num) precise.ne'

/-! ## Rounded numbers -/

theorem abs_div_pow_lastPlace_lt (context : Context) (number : ℚ) :
    |number / 10 ^ context.lastPlace number| < 10 ^ context.precision := by
  have unit : |(10 : ℚ) ^ context.lastPlace number| = 10 ^ context.lastPlace number :=
    abs_of_pos (by positivity)
  obtain isZero | nonzero := eq_or_ne number 0
  · rw [isZero, zero_div, abs_zero]
    positivity
  · have high : Int.log 10 |number| < context.precision + context.lastPlace number := by
      unfold lastPlace
      omega
    have below : |number| < 10 ^ ((context.precision : ℤ) + context.lastPlace number) :=
      (Int.lt_zpow_iff_log_lt (b := 10) (by decide) (abs_pos.mpr nonzero)).mpr high
    rw [abs_div, unit, div_lt_iff₀ (by positivity)]
    rwa [zpow_add₀ (by norm_num), zpow_natCast] at below

/-- A rounded number has no more digits than the precision. -/
theorem exists_digits_rounded (precise : 0 < context.precision) (number : ℚ) :
    ∃ digits place : ℤ, context.rounded number = digits * 10 ^ place ∧
      |digits| < 10 ^ context.precision ∧ context.tiny ≤ place := by
  obtain ⟨lower, upper⟩ := abs_lt.mp (abs_div_pow_lastPlace_lt context number)
  have tiny : context.tiny ≤ context.lastPlace number := le_max_right _ _
  generalize isPlace : context.lastPlace number = place at lower upper tiny
  have most : nearestWhole (number / 10 ^ place) ≤ 10 ^ context.precision :=
    nearestWhole_le (by exact_mod_cast upper.le)
  have least : -10 ^ context.precision ≤ nearestWhole (number / 10 ^ place) :=
    le_nearestWhole (by exact_mod_cast lower.le)
  have value : context.rounded number = nearestWhole (number / 10 ^ place) * 10 ^ place := by
    rw [rounded, isPlace]
  obtain below | carried := (abs_le.mpr ⟨least, most⟩).lt_or_eq
  · exact ⟨_, place, value, below, tiny⟩
  · -- all digits are nines, so rounding carries into a new first digit
    have single : ∀ unit : ℤ, |unit| = 1 →
        nearestWhole (number / 10 ^ place) = unit * 10 ^ context.precision →
        ∃ digits place : ℤ, context.rounded number = digits * 10 ^ place ∧
          |digits| < 10 ^ context.precision ∧ context.tiny ≤ place := by
      intro unit isUnit whole
      refine ⟨unit, context.precision + place, ?_, ?_, by omega⟩
      · rw [value, whole, zpow_add₀ (by norm_num), zpow_natCast]
        push_cast
        ring
      · rw [isUnit]
        exact one_lt_pow₀ (by norm_num) precise.ne'
    rcases abs_eq (by positivity) |>.mp carried with positive | negative
    · exact single 1 abs_one (by rw [positive, one_mul])
    · exact single (-1) (by decide) (by rw [negative, neg_one_mul])

/-- What has been rounded is not changed by rounding it again. -/
@[simp]
theorem rounded_rounded (precise : 0 < context.precision) (number : ℚ) :
    context.rounded (context.rounded number) = context.rounded number := by
  obtain ⟨digits, place, value, few, above⟩ := exists_digits_rounded precise number
  exact rounded_of_digits value few above

end Context

end DepositYield.Decimal
