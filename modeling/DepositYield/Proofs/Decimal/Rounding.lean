import DepositYield.Proofs.Decimal.Nearest

/-!
# Rounding coefficients

Rounding a coefficient and an exponent is rounding the number that they denote, and
stops for overflow exactly where that number has no result.  The cases follow those of
the rounding: what is too large, what has digits below the least exponent, what has
more digits than the precision, and what fits.
-/

namespace DepositYield.Decimal.Context

variable {context : Context} {number : ℚ} {coefficient : Nat} {exponent : Int}

theorem result_of_lt (small : |context.rounded number| < 10 ^ (maxExponent + 1)) :
    context.result number = .ok (context.rounded number) :=
  if_neg (not_le.mpr small)

theorem result_of_le (large : 10 ^ (maxExponent + 1) ≤ |context.rounded number|) :
    context.result number = .error .overflow :=
  if_pos large

theorem result_sign (negative : Bool) (number : ℚ) :
    context.result (sign negative * number) =
      (context.result number).map (sign negative * ·) := by
  unfold result
  rw [rounded_sign, abs_mul, abs_sign, one_mul]
  split <;> rfl

/-! ## The number of a coefficient -/

/-- The last place of a coefficient and exponent, by the digits of the coefficient. -/
theorem lastPlace_mul_pow (context : Context) (nonzero : coefficient ≠ 0) (exponent : Int) :
    context.lastPlace ((coefficient : ℚ) * 10 ^ exponent) =
      max (exponent + digitCount coefficient - context.precision) context.tiny := by
  have positive : (0 : ℚ) < (coefficient : ℚ) * 10 ^ exponent := by positivity
  have digits : exponent + digitCount coefficient - 1 - context.precision + 1 =
      exponent + digitCount coefficient - context.precision := by omega
  unfold lastPlace
  rw [abs_of_pos positive, log_mul_pow nonzero, digits]

theorem abs_rounded_mul_pow :
    |context.rounded ((coefficient : ℚ) * 10 ^ exponent)| =
      context.rounded ((coefficient : ℚ) * 10 ^ exponent) :=
  abs_of_nonneg (rounded_nonneg (by positivity))

/-- Dropping the digits below the last place rounds the coefficient. -/
theorem rounded_mul_pow {places : Nat}
    (last : context.lastPlace ((coefficient : ℚ) * 10 ^ exponent) = exponent + places) :
    context.rounded ((coefficient : ℚ) * 10 ^ exponent) =
      roundHalfEven coefficient places * 10 ^ (exponent + places) := by
  have scaled : (coefficient : ℚ) * 10 ^ exponent / 10 ^ (exponent + (places : ℤ)) =
      coefficient / (10 ^ places : ℕ) := by
    rw [zpow_add₀ (by norm_num), zpow_natCast]
    push_cast
    field_simp
  unfold rounded
  rw [last, scaled, nearestWhole_div (by positivity)]
  rfl

theorem roundHalfEven_of_digitCount_lt {places : Nat} (few : digitCount coefficient < places) :
    roundHalfEven coefficient places = 0 := by
  have below : coefficient * 10 < 10 ^ places :=
    calc
      coefficient * 10 < 10 ^ digitCount coefficient * 10 := by
        have := lt_pow_digitCount coefficient
        omega
      _ = 10 ^ (digitCount coefficient + 1) := (pow_succ _ _).symm
      _ ≤ 10 ^ places := Nat.pow_le_pow_right (by decide) few
  change nearestQuotient coefficient (10 ^ places) = 0
  unfold nearestQuotient
  simp only [Nat.mod_eq_of_lt (show coefficient < 10 ^ places by omega),
    Nat.div_eq_of_lt (show coefficient < 10 ^ places by omega)]
  rw [if_neg (by omega)]

/-! ## The cases of rounding -/

theorem minExponent_lt_maxExponent : minExponent < maxExponent := by
  decide

theorem tiny_eq : context.tiny = minExponent - context.precision + 1 :=
  rfl

/-- What reaches the limit already before it is rounded has no result. -/
theorem result_of_above (precise : 0 < context.precision) (nonzero : coefficient ≠ 0)
    (above : maxExponent < exponent + digitCount coefficient - 1) :
    context.result (coefficient * 10 ^ exponent) = .error .overflow := by
  have last := lastPlace_mul_pow context nonzero exponent
  have limits := minExponent_lt_maxExponent
  have tiny := context.tiny_eq
  apply result_of_le
  rw [abs_rounded_mul_pow]
  calc
    (10 : ℚ) ^ (maxExponent + 1) ≤ 10 ^ (exponent + digitCount coefficient - 1) :=
      zpow_le_zpow_right₀ (by norm_num) (by omega)
    _ ≤ _ := pow_le_rounded (pow_le_mul_pow nonzero exponent) (by omega)

/-- Digits below the least exponent are dropped. -/
theorem result_of_subnormal (precise : 0 < context.precision) (nonzero : coefficient ≠ 0)
    (below : exponent + digitCount coefficient - 1 < minExponent)
    (low : exponent < context.tiny) :
    context.result (coefficient * 10 ^ exponent) =
      .ok (roundHalfEven coefficient (context.tiny - exponent).toNat * 10 ^ context.tiny) := by
  have last := lastPlace_mul_pow context nonzero exponent
  have limits := minExponent_lt_maxExponent
  have tiny := context.tiny_eq
  have exponents : exponent + ((context.tiny - exponent).toNat : ℤ) = context.tiny := by omega
  have dropped := rounded_mul_pow
    (show context.lastPlace (coefficient * 10 ^ exponent) =
      exponent + (context.tiny - exponent).toNat by omega)
  rw [exponents] at dropped
  rw [result_of_lt, dropped]
  rw [abs_rounded_mul_pow]
  calc
    context.rounded (coefficient * 10 ^ exponent) ≤ 10 ^ minExponent :=
      rounded_le_pow ((mul_pow_lt coefficient exponent).le.trans
        (zpow_le_zpow_right₀ (by norm_num) (by omega))) (by omega)
    _ < 10 ^ (maxExponent + 1) := zpow_lt_zpow_right₀ (by norm_num) (by omega)

/-- A coefficient with more digits than the precision loses the last ones.  Rounding
leaves it below the next power of ten or makes it that power. -/
theorem rounded_of_many (context : Context) (nonzero : coefficient ≠ 0)
    (many : context.precision < digitCount coefficient)
    (normal : minExponent ≤ exponent + digitCount coefficient - 1) :
    context.rounded (coefficient * 10 ^ exponent) =
        roundHalfEven coefficient (digitCount coefficient - context.precision) *
          10 ^ (exponent + (digitCount coefficient - context.precision : ℕ)) ∧
      roundHalfEven coefficient (digitCount coefficient - context.precision) ≤
        10 ^ context.precision ∧
      (10 : ℚ) ^ context.precision *
          10 ^ (exponent + (digitCount coefficient - context.precision : ℕ)) =
        10 ^ (exponent + digitCount coefficient) := by
  have last := lastPlace_mul_pow context nonzero exponent
  have tiny := context.tiny_eq
  have dropped := rounded_mul_pow
    (show context.lastPlace (coefficient * 10 ^ exponent) =
      exponent + (digitCount coefficient - context.precision : ℕ) by omega)
  have exponents : (context.precision : ℤ) +
      (exponent + (digitCount coefficient - context.precision : ℕ)) =
        exponent + digitCount coefficient := by omega
  have power : (10 : ℚ) ^ context.precision *
      10 ^ (exponent + (digitCount coefficient - context.precision : ℕ)) =
        10 ^ (exponent + digitCount coefficient) := by
    rw [← zpow_natCast, ← zpow_add₀ (by norm_num), exponents]
  refine ⟨dropped, ?_, power⟩
  have within := rounded_le_pow (mul_pow_lt coefficient exponent).le
    (show context.lastPlace _ ≤ _ by omega)
  rw [dropped, ← power] at within
  exact_mod_cast le_of_mul_le_mul_right within (by positivity)

/-- What stays below the next power of ten keeps its first digits. -/
theorem result_of_kept (nonzero : coefficient ≠ 0)
    (many : context.precision < digitCount coefficient)
    (normal : minExponent ≤ exponent + digitCount coefficient - 1)
    (within : exponent + digitCount coefficient - 1 ≤ maxExponent)
    (below : roundHalfEven coefficient (digitCount coefficient - context.precision) <
      10 ^ context.precision) :
    context.result (coefficient * 10 ^ exponent) =
      .ok (roundHalfEven coefficient (digitCount coefficient - context.precision) *
        10 ^ (exponent + (digitCount coefficient - context.precision : ℕ))) := by
  obtain ⟨dropped, -, power⟩ := rounded_of_many context nonzero many normal
  have cast : (roundHalfEven coefficient (digitCount coefficient - context.precision) : ℚ) <
      10 ^ context.precision := by exact_mod_cast below
  rw [result_of_lt, dropped]
  rw [abs_rounded_mul_pow, dropped]
  calc
    _ < (10 : ℚ) ^ context.precision *
        10 ^ (exponent + (digitCount coefficient - context.precision : ℕ)) := by gcongr
    _ = 10 ^ (exponent + digitCount coefficient) := power
    _ ≤ 10 ^ (maxExponent + 1) := zpow_le_zpow_right₀ (by norm_num) (by omega)

/-- What does not stay below the next power of ten is rounded to it. -/
theorem rounded_of_carried (nonzero : coefficient ≠ 0)
    (many : context.precision < digitCount coefficient)
    (normal : minExponent ≤ exponent + digitCount coefficient - 1)
    (carried : ¬ roundHalfEven coefficient (digitCount coefficient - context.precision) <
      10 ^ context.precision) :
    roundHalfEven coefficient (digitCount coefficient - context.precision) =
        10 ^ context.precision ∧
      context.rounded (coefficient * 10 ^ exponent) =
        10 ^ (exponent + digitCount coefficient) := by
  obtain ⟨dropped, bound, power⟩ := rounded_of_many context nonzero many normal
  have carry := le_antisymm bound (not_lt.mp carried)
  refine ⟨carry, ?_⟩
  rw [dropped, carry, ← power]
  push_cast
  rfl

/-- A carry into a new digit moves one place up. -/
theorem carried_mul_pow (precise : 0 < context.precision)
    (many : context.precision < digitCount coefficient) :
    ((10 ^ context.precision / 10 : ℕ) : ℚ) *
        10 ^ (exponent + (digitCount coefficient - context.precision : ℕ) + 1) =
      10 ^ (exponent + digitCount coefficient) := by
  have place : exponent + (digitCount coefficient - context.precision : ℕ) + 1 =
      exponent + digitCount coefficient - (context.precision - 1 : ℕ) := by omega
  obtain ⟨fewer, digits⟩ := Nat.exists_eq_add_of_le' precise
  rw [place, digits, pow_succ, Nat.mul_div_cancel _ (by decide), Nat.add_sub_cancel,
    zpow_sub₀ (by norm_num), zpow_natCast]
  push_cast
  field_simp

/-- What fits keeps its value. -/
theorem result_of_fits (nonzero : coefficient ≠ 0)
    (within : exponent + digitCount coefficient - 1 ≤ maxExponent)
    (few : digitCount coefficient ≤ context.precision)
    (normal : minExponent ≤ exponent + digitCount coefficient - 1 ∨ context.tiny ≤ exponent) :
    context.result (coefficient * 10 ^ exponent) = .ok (coefficient * 10 ^ exponent) := by
  have last := lastPlace_mul_pow context nonzero exponent
  have tiny := context.tiny_eq
  have whole : (coefficient : ℚ) * 10 ^ exponent = ((coefficient : ℤ) : ℚ) * 10 ^ exponent := by
    rw [Int.cast_natCast]
  have exact := rounded_eq_self whole
    (show context.lastPlace (coefficient * 10 ^ exponent) ≤ exponent by omega)
  rw [result_of_lt, exact]
  rw [abs_rounded_mul_pow, exact]
  exact (mul_pow_lt coefficient exponent).trans_le
    (zpow_le_zpow_right₀ (by norm_num) (by omega))

/-- Rounding a coefficient and an exponent is rounding the number that they denote. -/
theorem map_toRat_round (precise : 0 < context.precision) (negative : Bool) (coefficient : Nat)
    (exponent : Int) :
    (context.round negative coefficient exponent).map toRat =
      context.result (sign negative * (coefficient * 10 ^ exponent)) := by
  have limits := minExponent_lt_maxExponent
  have tiny := context.tiny_eq
  rw [result_sign]
  unfold round
  by_cases isZero : coefficient = 0
  · subst isZero
    have small : |context.rounded 0| < 10 ^ (maxExponent + 1) := by
      rw [rounded_zero, abs_zero]
      positivity
    simp [Except.map, result_of_lt small]
  rw [if_neg isZero]
  dsimp only
  split
  · next above =>
      rw [result_of_above precise isZero above]
      rfl
  split
  · next subnormal =>
      rw [result_of_subnormal precise isZero subnormal.1 subnormal.2]
      split
      · next few =>
          rw [roundHalfEven_of_digitCount_lt few]
          rfl
      · rfl
  split
  · next many =>
      have normal : minExponent ≤ exponent + digitCount coefficient - 1 := by omega
      split
      · next below =>
          rw [result_of_kept isZero many normal (by omega) below]
          rfl
      next carried =>
      obtain ⟨carry, value⟩ := rounded_of_carried isZero many normal carried
      split
      · next above =>
          rw [result_of_le]
          · rfl
          · rw [abs_rounded_mul_pow, value]
            exact zpow_le_zpow_right₀ (by norm_num) (by omega)
      · next within =>
          rw [result_of_lt, value, carry, ← carried_mul_pow precise many]
          · rfl
          · rw [abs_rounded_mul_pow, value]
            exact zpow_lt_zpow_right₀ (by norm_num) (by omega)
  · next few =>
      rw [result_of_fits isZero (by omega) (by omega) (by omega)]
      rfl

end DepositYield.Decimal.Context
