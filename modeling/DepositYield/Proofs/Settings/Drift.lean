import DepositYield.Proofs.Decimal.Arithmetic
import DepositYield.Proofs.Decimal.Monotone
import DepositYield.Proofs.Decimal.Numeral
import DepositYield.Proofs.Decimal.Order
import DepositYield.Proofs.Settling
import DepositYield.Settings.Field

/-!
# The bound of the drift

The magnitude of a drift is rounded to the ambient precision before it is compared with one.
A drift of at most that many digits is not changed by that, but a longer one is: everything
up to half a last place above one is rounded to one, and so is accepted.
-/

namespace DepositYield

open Decimal

namespace Decimal.Context

variable {context : Context} {number : ℚ}

theorem lastPlace_of_between (one : 1 ≤ number) (ten : number < 10) :
    context.lastPlace number = 1 - context.precision := by
  have positive : 0 < number := one.trans_lt' (by norm_num)
  have least : (0 : ℤ) ≤ Int.log 10 number := by
    rw [← Int.zpow_le_iff_le_log (b := 10) (by decide) positive]
    simpa using one
  have most : Int.log 10 number < 1 := by
    rw [← Int.lt_zpow_iff_log_lt (b := 10) (by decide) positive]
    simpa using ten
  unfold lastPlace tiny minExponent
  rw [abs_of_pos positive]
  omega

theorem rounded_of_between (one : 1 ≤ number) (ten : number < 10) :
    context.rounded number =
      nearestWhole (number / 10 ^ (1 - (context.precision : ℤ))) *
        10 ^ (1 - (context.precision : ℤ)) := by
  rw [rounded, lastPlace_of_between one ten]

/-- One is an even number of its last places. -/
theorem exists_places_of_one (precise : 2 ≤ context.precision) :
    ∃ whole : ℤ, (whole : ℚ) * 10 ^ (1 - (context.precision : ℤ)) = 1 ∧ whole % 2 = 0 ∧
      |whole + 1| < 10 ^ context.precision := by
  obtain ⟨count, isCount⟩ : ∃ count : ℕ, context.precision = count + 2 :=
    ⟨context.precision - 2, by omega⟩
  refine ⟨10 ^ (count + 1), ?_, ?_, ?_⟩
  · have inverse : 1 - ((count + 2 : ℕ) : ℤ) = -((count + 1 : ℕ) : ℤ) := by
      push_cast
      ring
    rw [isCount, inverse, zpow_neg, zpow_natCast]
    push_cast
    exact mul_inv_cancel₀ (by positivity)
  · rw [pow_succ]
    omega
  · have large : (1 : ℤ) ≤ 10 ^ (count + 1) := one_le_pow₀ (by norm_num)
    rw [isCount, abs_of_pos (by positivity), pow_succ _ (count + 1)]
    omega

section Halves

variable {unit : ℚ} (isUnit : unit = 10 ^ (1 - (context.precision : ℤ)))
  (precise : 2 ≤ context.precision)

include isUnit precise

theorem unit_bounds : 0 < unit ∧ unit ≤ 1 := by
  rw [isUnit]
  exact ⟨by positivity, zpow_le_one_of_nonpos₀ (by norm_num) (by omega)⟩

/-- The tie above one goes down to one. -/
theorem rounded_one_add_half : context.rounded (1 + unit / 2) = 1 := by
  obtain ⟨whole, one, even, -⟩ := exists_places_of_one precise
  obtain ⟨positive, small⟩ := unit_bounds isUnit precise
  have exact : (1 + unit / 2) / unit = whole + 1 / 2 := by
    rw [div_eq_iff positive.ne', add_mul, isUnit, one, ← isUnit]
    ring
  have floor : ⌊(whole : ℚ) + 1 / 2⌋ = whole := by
    rw [Int.floor_eq_iff]
    constructor <;> linarith
  have nearest : nearestWhole (whole + 1 / 2) = whole := by
    unfold nearestWhole
    rw [floor, if_neg]
    rintro (large | ⟨-, odd⟩)
    · linarith
    · omega
  rw [rounded_of_between (by linarith) (by linarith), ← isUnit, exact, nearest, isUnit, one]

/-- What lies beyond the tie goes up to the next number. -/
theorem one_lt_rounded (above : 1 + unit / 2 < number) : 1 < context.rounded number := by
  obtain ⟨whole, one, -, few⟩ := exists_places_of_one precise
  obtain ⟨positive, small⟩ := unit_bounds isUnit precise
  rw [← isUnit] at one
  suffices next : ((whole + 1 : ℤ) : ℚ) * unit ≤ context.rounded number by
    push_cast at next
    linarith
  rcases le_or_gt (((whole + 1 : ℤ) : ℚ) * unit) number with far | near
  · rw [isUnit] at far ⊢
    refine le_rounded_of_digits (by omega) few ?_ far
    unfold tiny minExponent
    omega
  · push_cast at near
    have nearest : nearestWhole (number / unit) = (2 * whole + 1 + 1) / 2 := by
      apply nearestWhole_of_half
      · rw [lt_div_iff₀ positive]
        push_cast
        linarith
      · rw [div_lt_iff₀ positive]
        push_cast
        linarith
    have half : (2 * whole + 1 + 1) / 2 = whole + 1 := by omega
    rw [rounded_of_between (by linarith) (by linarith), ← isUnit, nearest, half]

end Halves

/-- Rounded to at most one is what exceeds one by no more than half a last place. -/
theorem rounded_le_one_iff (precise : 2 ≤ context.precision) :
    context.rounded number ≤ 1 ↔ number ≤ 1 + 5 * 10 ^ (-(context.precision : ℤ)) := by
  have half : 5 * (10 : ℚ) ^ (-(context.precision : ℤ)) =
      10 ^ (1 - (context.precision : ℤ)) / 2 := by
    rw [sub_eq_add_neg, zpow_add₀ (by norm_num), zpow_one]
    ring
  rw [half]
  constructor
  · contrapose!
    exact one_lt_rounded rfl precise
  · intro below
    exact (rounded_mono (by omega) below).trans_eq (rounded_one_add_half rfl precise)

end Decimal.Context

namespace Settings

variable {drift : Decimal}

theorem abs_toRat_finite (negative : Bool) (coefficient : Nat) (exponent : Int) :
    |(Decimal.finite negative coefficient exponent).toRat| = coefficient * 10 ^ exponent := by
  have nonneg : (0 : ℚ) ≤ coefficient * 10 ^ exponent := by positivity
  rw [toRat_finite, abs_mul, abs_sign, one_mul, abs_of_nonneg nonneg]

/-- A finite drift is in range exactly if its magnitude exceeds one by no more than half a
unit of the last place that rounding keeps. -/
theorem driftInRange_iff (isFinite : drift.isFinite) :
    driftInRange drift = .ok true ↔ |drift.toRat| ≤ 1 + 5 * 10 ^ (-28 : ℤ) := by
  obtain ⟨negative, coefficient, exponent, rfl⟩ := exists_finite_of_isFinite isFinite
  have bound : Context.ambient.rounded (coefficient * 10 ^ exponent) ≤ 1 ↔
      coefficient * 10 ^ exponent ≤ (1 + 5 * 10 ^ (-28 : ℤ) : ℚ) :=
    Context.rounded_le_one_iff (by decide)
  have unsigned : sign false * (coefficient * 10 ^ exponent) = coefficient * 10 ^ exponent :=
    one_mul _
  rw [abs_toRat_finite]
  refine Iff.trans ?_ bound
  have compared : driftInRange (.finite negative coefficient exponent) =
      (Context.ambient.round false coefficient exponent >>= fun magnitude =>
        le? magnitude .one) := rfl
  rw [compared]
  have calculates : Context.ambient.Calculates (Context.ambient.round false coefficient exponent)
      (coefficient * 10 ^ exponent) :=
    unsigned ▸ Context.round_calculates (by decide) false coefficient exponent
  rcases calculates.ok_or_overflow with ⟨rounded, found, roundedFinite, value⟩ |
    ⟨overflows, large⟩
  · rw [found]
    change le? rounded .one = .ok true ↔ _
    rw [le?_eq roundedFinite rfl, value, toRat_one]
    simp
  · have nonneg : 0 ≤ Context.ambient.rounded (coefficient * 10 ^ exponent) :=
      Context.rounded_nonneg (by positivity)
    have one : (1 : ℚ) < 10 ^ (maxExponent + 1) := one_lt_zpow₀ (by norm_num) (by decide)
    rw [abs_of_nonneg nonneg] at large
    rw [overflows]
    exact iff_of_false nofun fun within => absurd (large.trans within) (not_le.mpr one)

/-- A drift whose digits are not rounded keeps the bound itself. -/
theorem abs_toRat_le_one {negative : Bool} {coefficient : Nat} {exponent : Int}
    (few : coefficient < 10 ^ 28)
    (inRange : driftInRange (.finite negative coefficient exponent) = .ok true) :
    |(Decimal.finite negative coefficient exponent).toRat| ≤ 1 := by
  have bound := (driftInRange_iff rfl).mp inRange
  rw [abs_toRat_finite] at bound ⊢
  rcases le_or_gt Context.ambient.tiny exponent with above | below
  · have digits : |(coefficient : ℤ)| < 10 ^ Context.ambient.precision := by
      rw [abs_of_nonneg (by positivity)]
      exact_mod_cast few
    have whole : (coefficient * 10 ^ exponent : ℚ) = (coefficient : ℤ) * 10 ^ exponent := by
      rw [Int.cast_natCast]
    rw [← Context.rounded_of_digits whole digits above]
    exact (Context.rounded_le_one_iff (by decide)).mpr bound
  · have counted : digitCount coefficient ≤ 28 := by
      rw [digitCount_eq_log]
      exact Nat.log_lt_of_lt_pow' (by decide) few
    have low : exponent + digitCount coefficient ≤ 0 := by
      have tiny : Context.ambient.tiny = -1000026 := by decide
      omega
    exact (mul_pow_lt coefficient exponent).le.trans (zpow_le_one_of_nonpos₀ (by norm_num) low)

theorem inRange_of_drift_whole {number : Int} (inRange : driftInRange (.ofInt number) = .ok true) :
    (Decimal.ofInt number).InRange := by
  have bound := (driftInRange_iff rfl).mp inRange
  have small : |(number : ℚ)| < 2 := by
    rw [toRat_ofInt] at bound
    exact bound.trans_lt (by norm_num)
  obtain ⟨lower, upper⟩ : -2 < number ∧ number < 2 := abs_lt.mp (by exact_mod_cast small)
  have single : digitCount number.natAbs = 1 := by
    rw [digitCount_eq_log, Nat.log_of_lt (by omega)]
  change (0 : Int) + digitCount number.natAbs - 1 ≤ maxNumeralExponent ∧ minNumeralExponent ≤ 0
  rw [single]
  decide

/-- A drift that is read has a numeral, and it is finite. -/
theorem inRange_of_decimalOf {value : Document} (read : decimalOf value = .ok drift)
    (inRange : driftInRange drift = .ok true) : drift.InRange := by
  have kept : ∀ {result : Except IssueKind Decimal}, (do
      let decimal ← result
      if decimal.isFinite then return decimal else .error IssueKind.notANumber) = .ok drift →
        result = .ok drift := by
    intro result isKept
    obtain ⟨decimal, found, returned⟩ := bind_eq_ok_iff.mp isKept
    split at returned
    · exact found.trans returned
    · contradiction
  cases value with
  | int number =>
      obtain rfl : Decimal.ofInt number = drift := Except.ok.inj (kept read)
      exact inRange_of_drift_whole inRange
  | float number => exact inRange_of_ofText (mapError_eq_ok_iff.mp (kept read))
  | text text => exact inRange_of_ofText (mapError_eq_ok_iff.mp (kept read))
  | _ => nomatch kept read

end Settings

end DepositYield
