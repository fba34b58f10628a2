import DepositYield.Proofs.Decimal.Finite
import DepositYield.Proofs.Decimal.Shift
import Mathlib.Algebra.Order.Floor.Semifield

/-!
# Amounts there and back

An amount in small units becomes a decimal by a division, and an amount again by a
multiplication whose fraction is dropped.  The power of ten is exact both times, and the
amount is rounded once, at the division.  So it comes back as it was exactly if its digits,
without the zeros at its end, fit into the precision.

A decimal that fits into the precision is multiplied exactly.  The one product that is
rounded lies below the normal numbers, and all of it is dropped.
-/

namespace DepositYield.Decimal

/-! ## Dropping the fraction -/

/-- The whole part of a number; what is dropped brings it nearer to zero. -/
def towardZero (number : ℚ) : ℤ :=
  if 0 ≤ number then ⌊number⌋ else ⌈number⌉

@[simp]
theorem towardZero_intCast (whole : ℤ) : towardZero (whole : ℚ) = whole := by
  unfold towardZero
  split
  · exact Int.floor_intCast whole
  · exact Int.ceil_intCast whole

theorem towardZero_natFloor {magnitude : ℚ} (nonneg : 0 ≤ magnitude) (negative : Bool) :
    towardZero (sign negative * magnitude) =
      if negative then -(⌊magnitude⌋₊ : ℤ) else ⌊magnitude⌋₊ := by
  have floor : (⌊magnitude⌋₊ : ℤ) = ⌊magnitude⌋ := Int.natCast_floor_eq_floor nonneg
  unfold towardZero
  cases negative with
  | false =>
      rw [sign, if_neg Bool.false_ne_true, one_mul, if_pos nonneg, if_neg Bool.false_ne_true, floor]
  | true =>
      rw [sign, if_pos rfl, neg_one_mul, if_pos rfl, floor]
      split
      · next opposite =>
          obtain rfl : magnitude = 0 := le_antisymm (neg_nonneg.mp opposite) nonneg
          simp
      · exact Int.ceil_neg

theorem towardZero_of_small {number : ℚ} (small : |number| < 1) : towardZero number = 0 := by
  obtain ⟨above, below⟩ := abs_lt.mp small
  unfold towardZero
  split
  · next nonneg => exact Int.floor_eq_zero_iff.mpr ⟨nonneg, below⟩
  · next negative => exact Int.ceil_eq_zero_iff.mpr ⟨above, (not_le.mp negative).le⟩

theorem wholePart_eq_floor (coefficient : Nat) (exponent : Int) :
    wholePart coefficient exponent = ⌊(coefficient : ℚ) * 10 ^ exponent⌋₊ := by
  unfold wholePart
  split
  · next natural =>
      obtain ⟨places, rfl⟩ := Int.eq_ofNat_of_zero_le natural
      have whole : (coefficient : ℚ) * 10 ^ places = (coefficient * 10 ^ places : ℕ) := by
        push_cast
        rfl
      rw [Int.toNat_natCast, zpow_natCast, whole, Nat.floor_natCast]
      rfl
  split
  · next few =>
      have small : (coefficient : ℚ) * 10 ^ exponent < 1 := by
        have below := mul_pow_lt coefficient exponent
        exact below.trans_le (zpow_le_one_of_nonpos₀ (by norm_num) (by omega))
      exact (Nat.floor_eq_zero.mpr small).symm
  · next negative _ =>
      obtain ⟨places, rfl⟩ : ∃ places : ℕ, exponent = -places :=
        ⟨(-exponent).toNat, by omega⟩
      have part : (coefficient : ℚ) * 10 ^ (-(places : ℤ)) = coefficient / (10 ^ places : ℕ) := by
        rw [zpow_neg, zpow_natCast, ← div_eq_mul_inv]
        push_cast
        rfl
      rw [neg_neg, Int.toNat_natCast, part, Nat.floor_div_eq_div]
      rfl

/-- The fraction of a finite decimal is dropped, whatever its sign is. -/
theorem truncate_eq {decimal : Decimal} (finite : decimal.isFinite) :
    truncate decimal = .ok (towardZero decimal.toRat) := by
  obtain ⟨negative, coefficient, exponent, rfl⟩ := exists_finite_of_isFinite finite
  rw [toRat_finite, towardZero_natFloor (by positivity), ← wholePart_eq_floor]
  rfl

/-! ## Significant digits -/

/-- The number of digits of an amount without the zeros at its end. -/
def significantDigits (amount : Int) : Nat :=
  digitCount (stripZeros amount.natAbs (digitCount amount.natAbs)).1

@[simp]
theorem significantDigits_zero : significantDigits 0 = 1 := by
  simp [significantDigits, digitCount_eq_log, stripZeros]

/-- With as many zeros to drop as there are digits, none is left. -/
theorem stripZeros_mod_ten {coefficient limit : Nat} (nonzero : coefficient ≠ 0)
    (few : coefficient < 10 ^ limit) : (stripZeros coefficient limit).1 % 10 ≠ 0 := by
  fun_induction stripZeros coefficient limit with
  | case1 coefficient => omega
  | case2 coefficient limit divides stripped dropped smaller ih =>
      rw [smaller] at ih
      have shorter : coefficient / 10 < 10 ^ limit := by
        rw [pow_succ] at few
        omega
      exact ih (by omega) shorter
  | case3 coefficient limit rest => exact rest

/-- Whatever is left after dropping some zeros, at least what all zeros leave is. -/
theorem stripZeros_le {coefficient limit digits zeros : Nat} (nonzero : coefficient ≠ 0)
    (few : coefficient < 10 ^ limit) (value : coefficient = digits * 10 ^ zeros) :
    (stripZeros coefficient limit).1 ≤ digits := by
  have whole := Context.stripZeros_mul_pow coefficient limit
  have rest := stripZeros_mod_ten nonzero few
  generalize stripZeros coefficient limit = stripped at whole rest
  obtain ⟨stripped, dropped⟩ := stripped
  dsimp only at whole rest ⊢
  have more : zeros ≤ dropped := by
    by_contra fewer
    obtain ⟨left, rfl⟩ := Nat.exists_eq_add_of_lt (not_le.mp fewer)
    have split : stripped * 10 ^ dropped = (digits * 10 ^ (left + 1)) * 10 ^ dropped := by
      rw [whole, value]
      ring
    have tens := Nat.eq_of_mul_eq_mul_right (by positivity) split
    rw [tens, pow_succ, ← mul_assoc, Nat.mul_mod_left] at rest
    exact rest rfl
  obtain ⟨left, rfl⟩ := Nat.exists_eq_add_of_le more
  have split : (stripped * 10 ^ left) * 10 ^ zeros = digits * 10 ^ zeros := by
    rw [← value, ← whole]
    ring
  rw [← Nat.eq_of_mul_eq_mul_right (by positivity) split]
  exact Nat.le_mul_of_pos_right _ (by positivity)

/-- An amount is its significant digits before some zeros. -/
theorem exists_significant (amount : Int) :
    ∃ (digits : Int) (zeros : Nat), amount = digits * 10 ^ zeros ∧
      digitCount digits.natAbs = significantDigits amount := by
  have whole := Context.stripZeros_mul_pow amount.natAbs (digitCount amount.natAbs)
  unfold significantDigits
  generalize stripZeros amount.natAbs (digitCount amount.natAbs) = stripped at whole ⊢
  have magnitude : (amount.natAbs : ℤ) = stripped.1 * 10 ^ stripped.2 := by
    exact_mod_cast whole.symm
  rcases amount.natAbs_eq with same | opposite
  · exact ⟨stripped.1, stripped.2, same.trans magnitude, rfl⟩
  · refine ⟨-stripped.1, stripped.2, ?_, by rw [Int.natAbs_neg, Int.natAbs_natCast]⟩
    rw [opposite, magnitude, neg_mul]

/-- An amount has no more significant digits than stand before some zeros. -/
theorem significantDigits_le {amount digits : Int} {zeros limit : Nat} (positive : 0 < limit)
    (value : amount = digits * 10 ^ zeros) (small : |digits| < 10 ^ limit) :
    significantDigits amount ≤ limit := by
  obtain rfl | nonzero := eq_or_ne amount 0
  · rw [significantDigits_zero]
    exact positive
  have present := Int.natAbs_ne_zero.mpr nonzero
  have few := lt_pow_digitCount amount.natAbs
  have magnitude : amount.natAbs = digits.natAbs * 10 ^ zeros := by
    rw [value, Int.natAbs_mul, Int.natAbs_pow]
    rfl
  have natural : digits.natAbs < 10 ^ limit := by
    rw [Int.abs_eq_natAbs] at small
    exact_mod_cast small
  have stripped : (stripZeros amount.natAbs (digitCount amount.natAbs)).1 ≠ 0 := by
    have rest := stripZeros_mod_ten present few
    omega
  have powers := (Nat.pow_lt_pow_iff_right (by decide)).mp
    ((pow_digitCount_le stripped).trans_lt
      ((stripZeros_le present few magnitude).trans_lt natural))
  unfold significantDigits
  omega

namespace Context

variable {context : Context}

theorem fewDigits_iff (precise : 0 < context.precision) (amount : Int) :
    context.FewDigits amount ↔ significantDigits amount ≤ context.precision := by
  constructor
  · rintro ⟨digits, zeros, value, small⟩
    exact significantDigits_le precise value small
  · intro fits
    obtain ⟨digits, zeros, value, count⟩ := exists_significant amount
    refine ⟨digits, zeros, value, ?_⟩
    rw [← count] at fits
    rw [Int.abs_eq_natAbs]
    exact_mod_cast (lt_pow_digitCount _).trans_le (Nat.pow_le_pow_right (by decide) fits)

/-- Rounding changes an amount exactly if it has more significant digits than the precision. -/
theorem rounded_amount_eq_iff (precise : 0 < context.precision) (amount : Int) :
    context.rounded amount = amount ↔ significantDigits amount ≤ context.precision := by
  rw [← fewDigits_iff precise]
  constructor
  · intro same
    obtain ⟨digits, place, value, small, -⟩ := exists_digits_rounded precise (amount : ℚ)
    rw [same] at value
    rcases le_or_gt 0 place with natural | negative
    · obtain ⟨zeros, rfl⟩ := Int.eq_ofNat_of_zero_le natural
      exact ⟨digits, zeros, by exact_mod_cast value, small⟩
    · -- an amount that ends below the point is a part of its digits
      refine ⟨amount, 0, by simp, lt_of_le_of_lt ?_ small⟩
      have part : |(amount : ℚ)| ≤ |(digits : ℚ)| := by
        rw [value, abs_mul, abs_of_pos (by positivity : (0 : ℚ) < 10 ^ place)]
        exact mul_le_of_le_one_right (abs_nonneg _)
          (zpow_le_one_of_nonpos₀ (by norm_num) negative.le)
      exact_mod_cast part
  · intro few
    have whole : (0 : ℤ) ≤ maxExponent := by decide
    simpa using rounded_of_fewDigits precise few whole

/-- A rounded amount is an amount. -/
theorem exists_rounded_amount (context : Context) (amount : Int) :
    ∃ whole : ℤ, context.rounded amount = whole := by
  rcases le_or_gt 0 (context.lastPlace amount) with natural | negative
  · obtain ⟨zeros, isPlace⟩ := Int.eq_ofNat_of_zero_le natural
    refine ⟨nearestWhole (amount / 10 ^ zeros) * 10 ^ zeros, ?_⟩
    rw [rounded, isPlace, zpow_natCast]
    push_cast
    rfl
  · have whole : (amount : ℚ) = amount * 10 ^ (0 : ℤ) := by simp
    exact ⟨amount, rounded_eq_self whole negative.le⟩

/-! ## There and back -/

/-- The amount that the decimal of an amount has. -/
def roundTrip (context : Context) (amount places : Int) : Except ScalingError Int := do
  let decimal ← (context.ofScaled amount places).mapError .signal
  context.toScaled decimal places

/-- A decimal is multiplied by its power of ten, rounded and truncated, unless the product is
too large. -/
theorem toScaled_settles (precise : 0 < context.precision) {decimal : Decimal}
    (finite : decimal.isFinite) {places : Int} (natural : 0 ≤ places)
    (within : places ≤ maxExponent) :
    Settles
      (fun failure => failure = .signal .overflow ∧
        10 ^ (maxExponent + 1) ≤ |context.rounded (decimal.toRat * 10 ^ places)|)
      (· = towardZero (context.rounded (decimal.toRat * 10 ^ places)))
      (context.toScaled decimal places) := by
  obtain ⟨power, raised, powerFinite, value⟩ := tenTo_exact precise natural within
  have product := mul_calculates precise finite powerFinite
  rw [value] at product
  unfold toScaled
  rw [raised]
  change Settles _ _ ((context.mul decimal power).mapError _ >>= truncate)
  rcases product.ok_or_overflow with ⟨scaled, result, scaledFinite, isRounded⟩ | ⟨result, large⟩
  · rw [result, ← isRounded]
    change Settles _ _ (truncate scaled)
    rw [truncate_eq scaledFinite]
    exact rfl
  · rw [result]
    exact ⟨rfl, large⟩

/-- There is no power of ten above the exponent limit. -/
theorem toScaled_above (value : Decimal) {places : Int} (above : maxExponent < places) :
    context.toScaled value places = .error (.signal .overflow) := by
  have raised : context.tenTo places = .error .overflow := if_pos above
  rw [toScaled, raised]
  rfl

theorem ofScaled_above (amount : Int) {places : Int} (above : maxExponent < places) :
    context.ofScaled amount places = .error .overflow := by
  have raised : context.tenTo places = .error .overflow := if_pos above
  rw [ofScaled, raised]
  rfl

/-- An amount is rounded at the same digit before and after its point moves.  The quotient of an
amount other than zero is not below the normal numbers, as the limits of the exponent are
symmetric. -/
theorem rounded_div_pow (context : Context) (amount : Int) {zeros : Nat} (within : (zeros : Int) ≤ maxExponent) :
    context.rounded (amount / 10 ^ zeros) * 10 ^ zeros = context.rounded amount := by
  obtain rfl | nonzero := eq_or_ne amount 0
  · simp
  have one : (1 : ℚ) ≤ |(amount : ℚ)| := by exact_mod_cast Int.one_le_abs nonzero
  have normal : (10 : ℚ) ^ minExponent ≤ |(amount : ℚ) / 10 ^ zeros| := by
    rw [abs_div, abs_of_pos (by positivity : (0 : ℚ) < 10 ^ zeros), ← zpow_natCast]
    calc
      (10 : ℚ) ^ minExponent ≤ 10 ^ (-(zeros : ℤ)) := by
        unfold minExponent
        unfold maxExponent at within
        exact zpow_le_zpow_right₀ (by norm_num) (by omega)
      _ = 1 / 10 ^ (zeros : ℤ) := by rw [zpow_neg, one_div]
      _ ≤ |(amount : ℚ)| / 10 ^ (zeros : ℤ) := by gcongr
  rw [← scales_of_normal normal, div_mul_cancel₀ _ (by positivity)]

/-- Nothing is lost between the division and the multiplication: what comes back is the amount,
rounded once. -/
theorem roundTrip_settles (precise : 0 < context.precision) (amount : Int) {places : Int}
    (natural : 0 ≤ places) (within : places ≤ maxExponent) :
    Settles
      (fun failure => failure = .signal .overflow ∧
        10 ^ (maxExponent + 1) ≤ |context.rounded amount|)
      (fun back : Int => (back : ℚ) = context.rounded amount)
      (context.roundTrip amount places) := by
  have quotient := ofScaled_calculates precise amount natural within
  obtain ⟨zeros, rfl⟩ := Int.eq_ofNat_of_zero_le natural
  rw [zpow_natCast] at quotient
  have back := context.rounded_div_pow amount within
  unfold roundTrip
  rcases quotient.ok_or_overflow with ⟨decimal, result, finite, value⟩ | ⟨result, large⟩
  · rw [result]
    change Settles _ _ (context.toScaled decimal zeros)
    have scaled := toScaled_settles precise finite natural within
    rw [value, zpow_natCast, back, rounded_rounded precise] at scaled
    obtain ⟨whole, isWhole⟩ := context.exists_rounded_amount amount
    apply scaled.mono
    rintro _ rfl
    rw [isWhole, towardZero_intCast]
  · rw [result]
    have small : |context.rounded (amount / 10 ^ zeros)| ≤ |context.rounded amount| := by
      rw [← back, abs_mul, abs_of_pos (by positivity : (0 : ℚ) < 10 ^ zeros)]
      exact le_mul_of_one_le_right (abs_nonneg _) (one_le_pow₀ (by norm_num))
    exact ⟨rfl, large.trans small⟩

/-- A number of few digits is not changed by rounding, or it is below the normal numbers and
stays there. -/
theorem rounded_eq_or_small (precise : 0 < context.precision) {digits : ℤ}
    (few : |digits| < 10 ^ context.precision) (place : ℤ) :
    context.rounded (digits * 10 ^ place) = digits * 10 ^ place ∨
      |(digits : ℚ) * 10 ^ place| ≤ 10 ^ minExponent ∧
        |context.rounded (digits * 10 ^ place)| ≤ 10 ^ minExponent := by
  rcases le_or_gt context.tiny place with above | below
  · exact .inl (rounded_of_digits rfl few above)
  have tiny := context.tiny_eq
  have small : |(digits : ℚ) * 10 ^ place| ≤ 10 ^ minExponent := by
    rw [abs_mul, abs_of_pos (by positivity : (0 : ℚ) < 10 ^ place)]
    calc
      |(digits : ℚ)| * 10 ^ place ≤ 10 ^ context.precision * 10 ^ place := by
        gcongr
        exact_mod_cast few.le
      _ = 10 ^ (context.precision + place) := by rw [zpow_add₀ (by norm_num), zpow_natCast]
      _ ≤ 10 ^ minExponent := zpow_le_zpow_right₀ (by norm_num) (by omega)
  have least : context.rounded (10 ^ minExponent) = 10 ^ minExponent := by
    refine rounded_of_digits (by rw [Int.cast_one, one_mul] : _ = ((1 : ℤ) : ℚ) * _) ?_ (by omega)
    rw [abs_one]
    exact one_lt_pow₀ (by norm_num) precise.ne'
  obtain ⟨lower, upper⟩ := abs_le.mp small
  refine .inr ⟨small, abs_le.mpr ⟨?_, ?_⟩⟩
  · calc
      -(10 : ℚ) ^ minExponent = context.rounded (-10 ^ minExponent) := by rw [rounded_neg, least]
      _ ≤ context.rounded (digits * 10 ^ place) := rounded_mono precise lower
  · calc
      context.rounded (digits * 10 ^ place) ≤ context.rounded (10 ^ minExponent) :=
        rounded_mono precise upper
      _ = 10 ^ minExponent := least

theorem exists_digits_toRat {coefficient : Nat} (fits : digitCount coefficient ≤ context.precision)
    (negative : Bool) (exponent : Int) :
    ∃ digits : ℤ, |digits| < 10 ^ context.precision ∧
      (Decimal.finite negative coefficient exponent).toRat = digits * 10 ^ exponent := by
  have magnitude : |(coefficient : ℤ)| < 10 ^ context.precision := by
    rw [Nat.abs_cast]
    exact_mod_cast (lt_pow_digitCount _).trans_le (Nat.pow_le_pow_right (by decide) fits)
  rcases sign_eq_or negative with same | opposite
  · refine ⟨coefficient, magnitude, ?_⟩
    rw [toRat_finite, same, one_mul, Int.cast_natCast]
  · refine ⟨-coefficient, by rwa [abs_neg], ?_⟩
    rw [toRat_finite, opposite, Int.cast_neg, Int.cast_natCast, neg_one_mul, neg_mul]

/-- A decimal that fits into the precision is truncated as it is, moved by its places. -/
theorem toScaled_of_fits (precise : 0 < context.precision) {coefficient : Nat}
    (fits : digitCount coefficient ≤ context.precision) (negative : Bool) (exponent : Int)
    {places : Int} (natural : 0 ≤ places) (within : places ≤ maxExponent) :
    let decimal : Decimal := .finite negative coefficient exponent
    Settles
      (fun failure => failure = .signal .overflow ∧
        10 ^ (maxExponent + 1) ≤ |decimal.toRat * 10 ^ places|)
      (· = towardZero (decimal.toRat * 10 ^ places)) (context.toScaled decimal places) := by
  intro decimal
  have finite : decimal.isFinite := rfl
  have scaled := toScaled_settles precise finite natural within
  obtain ⟨digits, few, value⟩ := exists_digits_toRat fits negative exponent
  have number : decimal.toRat * 10 ^ places = digits * 10 ^ (exponent + places) := by
    rw [zpow_add₀ (by norm_num), ← mul_assoc, ← value]
  rcases number ▸ rounded_eq_or_small precise few (exponent + places) with exact | ⟨small, stays⟩
  · rwa [exact] at scaled
  · have below : (10 : ℚ) ^ minExponent < 1 := zpow_lt_one_of_neg₀ (by norm_num) (by decide)
    rw [towardZero_of_small (stays.trans_lt below),
      ← towardZero_of_small (small.trans_lt below)] at scaled
    apply scaled.allow
    rintro failure ⟨-, large⟩
    have limit : (1 : ℚ) ≤ 10 ^ (maxExponent + 1) := one_le_zpow₀ (by norm_num) (by decide)
    exact absurd (limit.trans large) (not_le.mpr (stays.trans_lt below))

/-- An amount comes back as it was exactly if its digits, without the zeros at its end, fit into
the precision.  A decimal that fits into the precision is moved by its places exactly, and its
fraction is dropped.  Both stop only for a power of ten or a product above the exponent limit. -/
theorem roundTrip_eq_iff_and_toScaled_truncates (precise : 0 < context.precision) {places : Int}
    (natural : 0 ≤ places) :
    (∀ amount : Int,
      Settles
        (fun failure => failure = .signal .overflow ∧
          (maxExponent < places ∨ 10 ^ (maxExponent + 1) ≤ |context.rounded amount|))
        (fun back => back = amount ↔ significantDigits amount ≤ context.precision)
        (context.roundTrip amount places)) ∧
      ∀ (negative : Bool) (coefficient : Nat) (exponent : Int),
        digitCount coefficient ≤ context.precision →
          let number := (Decimal.finite negative coefficient exponent).toRat * 10 ^ places
          Settles
            (fun failure => failure = .signal .overflow ∧
              (maxExponent < places ∨ 10 ^ (maxExponent + 1) ≤ |number|))
            (· = towardZero number)
            (context.toScaled (.finite negative coefficient exponent) places) := by
  rcases lt_or_ge maxExponent places with above | within
  · refine ⟨fun amount => ?_, fun negative coefficient exponent _ => ?_⟩
    · rw [roundTrip, ofScaled_above amount above]
      exact ⟨rfl, .inl above⟩
    · rw [toScaled_above _ above]
      exact ⟨rfl, .inl above⟩
  constructor
  · intro amount
    apply ((roundTrip_settles precise amount natural within).mono _).allow
    · rintro failure ⟨overflows, large⟩
      exact ⟨overflows, .inr large⟩
    · intro back value
      rw [← rounded_amount_eq_iff precise, ← value]
      exact_mod_cast Iff.rfl
  · intro negative coefficient exponent fits number
    apply (toScaled_of_fits precise fits negative exponent natural within).allow
    rintro failure ⟨overflows, large⟩
    exact ⟨overflows, .inr large⟩

/-- Under three digits, three digits before two zeros come back and four digits do not.  A
negative decimal loses its fraction, too. -/
theorem threeDigits_there_and_back :
    let context : Context := ⟨3⟩
    let part : Decimal := .finite true 199 (-3)
    0 < context.precision ∧ (0 : Int) ≤ 2 ∧
      (context.roundTrip (-45600) 2 = .ok (-45600) ∧
        significantDigits (-45600) ≤ context.precision) ∧
      (context.roundTrip 1235 2 = .ok 1240 ∧ ¬significantDigits 1235 ≤ context.precision) ∧
      context.toScaled part 2 = .ok (-19) ∧ digitCount 199 ≤ context.precision ∧
      -19 = towardZero (part.toRat * 10 ^ (2 : Int)) := by
  intro context part
  have precise : 0 < context.precision := by decide
  have natural : (0 : Int) ≤ 2 := by decide
  obtain ⟨back, truncated⟩ := roundTrip_eq_iff_and_toScaled_truncates precise natural
  have kept : context.roundTrip (-45600) 2 = .ok (-45600) := by decide +kernel
  have changed : context.roundTrip 1235 2 = .ok 1240 := by decide +kernel
  have scaled : context.toScaled part 2 = .ok (-19) := by decide +kernel
  have fits : digitCount 199 ≤ context.precision := by decide +kernel
  have first := back (-45600)
  have second := back 1235
  have third := truncated true 199 (-3) fits
  rw [kept] at first
  rw [changed] at second
  rw [scaled] at third
  exact ⟨precise, natural, ⟨kept, first.mp rfl⟩, ⟨changed, mt second.mpr (by decide)⟩, scaled, fits,
    third⟩

end Context

end DepositYield.Decimal
