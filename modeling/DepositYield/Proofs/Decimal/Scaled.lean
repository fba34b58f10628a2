import DepositYield.Proofs.Decimal.Arithmetic
import DepositYield.Proofs.Decimal.Order

/-!
# Amounts in small units

Powers of ten within the exponent range are exact, so the decimal of an amount is the
amount divided by its power of ten, rounded once.  Amounts with no more significant
digits than the precision are not changed by that rounding.
-/

namespace DepositYield.Decimal

@[simp]
theorem isFinite_ofInt (value : Int) : (ofInt value).isFinite :=
  rfl

namespace Context

variable {context : Context}

/-! ## Powers of ten -/

theorem tenTo_calculates (precise : 0 < context.precision) {power : Int}
    (within : power ≤ maxExponent) : context.Calculates (context.tenTo power) (10 ^ power) := by
  unfold tenTo
  rw [if_neg (not_lt.mpr within)]
  split
  · simpa [sign] using round_calculates precise false 1 power
  split
  · next few =>
      have number : (((10 ^ power.toNat : ℕ) : ℚ) * 10 ^ (0 : ℤ)) = 10 ^ power := by
        push_cast
        rw [mul_one, ← zpow_natCast, Int.toNat_of_nonneg (by omega)]
      have rounded := round_calculates precise false (10 ^ power.toNat) 0
      rwa [number, sign, if_neg Bool.false_ne_true, one_mul] at rounded
  · have exponents : ((context.precision - 1 : ℕ) : ℤ) + (power - context.precision + 1) =
        power := by omega
    have number : (((10 ^ (context.precision - 1) : ℕ) : ℚ) *
        10 ^ (power - context.precision + 1)) = 10 ^ power := by
      push_cast
      rw [← zpow_natCast, ← zpow_add₀ (by norm_num), exponents]
    have rounded := round_calculates precise false (10 ^ (context.precision - 1))
      (power - context.precision + 1)
    rwa [number, sign, if_neg Bool.false_ne_true, one_mul] at rounded

theorem tenTo_exact (precise : 0 < context.precision) {power : Int} (natural : 0 ≤ power)
    (within : power ≤ maxExponent) :
    ∃ decimal, context.tenTo power = .ok decimal ∧ decimal.isFinite ∧
      decimal.toRat = 10 ^ power := by
  have exact : context.rounded (10 ^ power) = 10 ^ power := by
    have whole : (10 : ℚ) ^ power = ((1 : ℤ) : ℚ) * 10 ^ power := by
      rw [Int.cast_one, one_mul]
    refine rounded_of_digits whole ?_ ?_
    · rw [abs_one]
      exact one_lt_pow₀ (by norm_num) precise.ne'
    · have limits := context.tiny_eq
      unfold minExponent at limits
      omega
  rcases (tenTo_calculates precise within).ok_or_overflow with
    ⟨decimal, result, finite, value⟩ | ⟨-, large⟩
  · exact ⟨decimal, result, finite, value.trans exact⟩
  · rw [exact, abs_of_pos (by positivity)] at large
    have less : (10 : ℚ) ^ power < 10 ^ (maxExponent + 1) :=
      zpow_lt_zpow_right₀ (by norm_num) (by omega)
    exact absurd large (not_le.mpr less)

/-! ## Amounts -/

/-- The decimal of an amount is the amount in whole units, rounded once. -/
theorem ofScaled_calculates (precise : 0 < context.precision) (amount : Int) {places : Int}
    (natural : 0 ≤ places) (within : places ≤ maxExponent) :
    context.Calculates (context.ofScaled amount places) (amount / 10 ^ places) := by
  obtain ⟨power, raised, finite, value⟩ := tenTo_exact precise natural within
  have quotient := div_calculates precise (isFinite_ofInt amount) finite
    (by rw [value]; positivity)
  rw [toRat_ofInt, value] at quotient
  unfold ofScaled
  rw [raised]
  exact quotient

/-- The amount has no more significant digits than the precision. -/
def FewDigits (context : Context) (amount : Int) : Prop :=
  ∃ (digits : ℤ) (zeros : ℕ), amount = digits * 10 ^ zeros ∧ |digits| < 10 ^ context.precision

/-- The decimal of an amount in small units: finite, rounded once, and exact if the
amount has few digits. -/
structure Converts (context : Context) (places amount : Int) (decimal : Decimal) : Prop where
  finite : decimal.isFinite
  rounded : decimal.toRat = context.rounded (amount / 10 ^ places)
  exact : context.FewDigits amount → decimal.toRat = amount / 10 ^ places

theorem rounded_of_fewDigits (precise : 0 < context.precision) {amount places : Int}
    (few : context.FewDigits amount) (within : places ≤ maxExponent) :
    context.rounded (amount / 10 ^ places) = amount / 10 ^ places := by
  obtain ⟨digits, zeros, rfl, small⟩ := few
  have number : ((digits * 10 ^ zeros : ℤ) : ℚ) / 10 ^ places =
      digits * 10 ^ ((zeros : ℤ) - places) := by
    rw [zpow_sub₀ (by norm_num), zpow_natCast]
    push_cast
    ring
  refine rounded_of_digits number small ?_
  have tiny := context.tiny_eq
  unfold minExponent at tiny
  unfold maxExponent at within
  omega

/-- What overflows reaches the limit, or nearly so, before it is rounded. -/
theorem pow_maxExponent_le {number : ℚ} (precise : 0 < context.precision)
    (large : 10 ^ (maxExponent + 1) ≤ |context.rounded number|) : 10 ^ maxExponent ≤ |number| := by
  by_contra small
  have magnitude : |context.rounded number| = context.rounded |number| := by
    rcases abs_cases number with ⟨same, nonneg⟩ | ⟨opposite, negative⟩
    · rw [same, abs_of_nonneg (rounded_nonneg nonneg)]
    · rw [opposite, rounded_neg, ← abs_neg, ← rounded_neg, abs_of_nonneg]
      exact rounded_nonneg (by linarith)
  have coarse : context.lastPlace |number| ≤ maxExponent := by
    have limits := minExponent_lt_maxExponent
    have tiny := context.tiny_eq
    unfold lastPlace
    rw [abs_abs]
    refine max_le ?_ (by omega)
    obtain isZero | positive := (abs_nonneg number).eq_or_lt
    · rw [← isZero, Int.log_zero_right]
      unfold maxExponent
      omega
    · have log := (Int.lt_zpow_iff_log_lt (b := 10) (by decide) positive).mp
        (by exact_mod_cast not_le.mp small)
      omega
  rw [magnitude] at large
  have within := rounded_le_pow (not_le.mp small).le coarse
  have less : (10 : ℚ) ^ maxExponent < 10 ^ (maxExponent + 1) :=
    zpow_lt_zpow_right₀ (by norm_num) (by omega)
  exact absurd (large.trans within) (not_le.mpr less)

end Context

end DepositYield.Decimal
