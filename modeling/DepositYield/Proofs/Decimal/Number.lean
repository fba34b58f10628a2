import DepositYield.Decimal.Order
import Mathlib.Algebra.Order.Field.Power
import Mathlib.Algebra.Order.Field.Rat
import Mathlib.Data.Int.Log
import Mathlib.Data.Rat.Floor
import Mathlib.Tactic.FieldSimp
import Mathlib.Tactic.Linarith
import Mathlib.Tactic.NormNum
import Mathlib.Tactic.Positivity
import Mathlib.Tactic.Ring

/-!
# The numbers that decimals denote

A finite decimal denotes a rational number.  The digits of its coefficient are
counted by a logarithm, and decimals are compared by the numbers that they denote,
whatever their exponents are.
-/

namespace DepositYield.Decimal

/-! ## Digits -/

theorem countDigits_eq_log (value : Nat) : countDigits value = Nat.log 10 value + 1 := by
  fun_induction countDigits value with
  | case1 value small => rw [Nat.log_of_lt small]
  | case2 value large ih => rw [ih, Nat.log_of_one_lt_of_le (by decide) (not_lt.mp large)]

theorem log_div_pow (value count : Nat) :
    Nat.log 10 (value / 10 ^ count) = Nat.log 10 value - count := by
  induction count with
  | zero => simp
  | succ count ih => rw [pow_succ, ← Nat.div_div_eq_div_mul, Nat.log_div_base, ih, Nat.sub_sub]

/-- The digits that the size in bits promises are present, as `10 ^ 1233` is less than
`2 ^ 4096`. -/
theorem pow_log2_le {value : Nat} (nonzero : value ≠ 0) :
    10 ^ (value.log2 * 1233 / 4096) ≤ value := by
  have ratio : 10 ^ 1233 ≤ 2 ^ 4096 := by decide +kernel
  have powers : (10 ^ (value.log2 * 1233 / 4096)) ^ 4096 ≤ (2 ^ value.log2) ^ 4096 :=
    calc
      (10 ^ (value.log2 * 1233 / 4096)) ^ 4096 = 10 ^ (value.log2 * 1233 / 4096 * 4096) :=
        (pow_mul _ _ _).symm
      _ ≤ 10 ^ (1233 * value.log2) :=
        Nat.pow_le_pow_right (by decide)
          ((Nat.div_mul_le_self _ _).trans_eq (Nat.mul_comm _ _))
      _ = (10 ^ 1233) ^ value.log2 := pow_mul _ _ _
      _ ≤ (2 ^ 4096) ^ value.log2 := Nat.pow_le_pow_left ratio _
      _ = (2 ^ value.log2) ^ 4096 := pow_right_comm _ _ _
  exact (le_of_pow_le_pow_left₀ (by decide) (Nat.zero_le _) powers).trans
    (Nat.log2_self_le nonzero)

theorem digitCount_eq_log (value : Nat) : digitCount value = Nat.log 10 value + 1 := by
  unfold digitCount
  obtain rfl | nonzero := eq_or_ne value 0
  · simp [countDigits_eq_log]
  · have sure := Nat.le_log_of_pow_le (by decide) (pow_log2_le nonzero)
    change _ + countDigits (value / 10 ^ _) = _
    rw [countDigits_eq_log, log_div_pow]
    omega

theorem digitCount_pos (value : Nat) : 0 < digitCount value := by
  rw [digitCount_eq_log]
  exact Nat.succ_pos _

theorem lt_pow_digitCount (value : Nat) : value < 10 ^ digitCount value := by
  rw [digitCount_eq_log]
  exact Nat.lt_pow_succ_log_self (by decide) value

theorem pow_digitCount_le {value : Nat} (nonzero : value ≠ 0) :
    10 ^ (digitCount value - 1) ≤ value := by
  rw [digitCount_eq_log, Nat.add_sub_cancel]
  exact Nat.pow_log_le_self 10 nonzero

/-! ## Numbers -/

/-- The sign of a decimal as a factor. -/
def sign (negative : Bool) : ℚ :=
  if negative then -1 else 1

@[simp]
theorem sign_not (negative : Bool) : sign (!negative) = -sign negative := by
  cases negative <;> simp [sign]

@[simp]
theorem sign_bne (left right : Bool) : sign (left != right) = sign left * sign right := by
  cases left <;> cases right <;> simp [sign]

@[simp]
theorem abs_sign (negative : Bool) : |sign negative| = 1 := by
  cases negative <;> simp [sign]

theorem sign_eq_or (negative : Bool) : sign negative = 1 ∨ sign negative = -1 := by
  cases negative <;> simp [sign]

/-- The number that a finite decimal denotes. -/
def toRat : Decimal → ℚ
  | .finite negative coefficient exponent => sign negative * (coefficient * 10 ^ exponent)
  | _ => 0

@[simp]
theorem toRat_finite (negative : Bool) (coefficient : Nat) (exponent : Int) :
    (finite negative coefficient exponent).toRat =
      sign negative * (coefficient * 10 ^ exponent) :=
  rfl

theorem toRat_eq_zero_iff {negative : Bool} {coefficient : Nat} {exponent : Int} :
    (finite negative coefficient exponent).toRat = 0 ↔ coefficient = 0 := by
  have power : (10 : ℚ) ^ exponent ≠ 0 := by positivity
  rcases sign_eq_or negative with same | opposite
  · simp [same, power]
  · simp [opposite, power]

@[simp]
theorem toRat_zero : zero.toRat = 0 := by
  simp [zero]

@[simp]
theorem toRat_one : one.toRat = 1 := by
  simp [one, sign]

@[simp]
theorem toRat_ofInt (value : Int) : (ofInt value).toRat = value := by
  unfold ofInt
  rw [toRat_finite, zpow_zero, mul_one]
  by_cases negative : value < 0
  · simp [sign, negative, Nat.cast_natAbs, abs_of_neg]
  · simp [sign, negative, Nat.cast_natAbs, abs_of_nonneg (not_lt.mp negative)]

@[simp]
theorem toRat_negate (decimal : Decimal) : decimal.negate.toRat = -decimal.toRat := by
  cases decimal <;> simp [negate, toRat]

theorem exists_finite_of_isFinite {decimal : Decimal} (finite : decimal.isFinite) :
    ∃ negative coefficient exponent, decimal = .finite negative coefficient exponent := by
  cases decimal with
  | finite negative coefficient exponent => exact ⟨_, _, _, rfl⟩
  | infinite => contradiction
  | nan => contradiction

/-- A power of ten is a whole multiple of every lower one. -/
theorem pow_toNat_mul_zpow {lower exponent : Int} (le : lower ≤ exponent) :
    (10 : ℚ) ^ (exponent - lower).toNat * 10 ^ lower = 10 ^ exponent := by
  have gap : ((exponent - lower).toNat : ℤ) + lower = exponent := by omega
  rw [← zpow_natCast, ← zpow_add₀ (by norm_num), gap]

theorem pow_le_mul_pow {coefficient : Nat} (nonzero : coefficient ≠ 0) (exponent : Int) :
    (10 : ℚ) ^ (exponent + digitCount coefficient - 1) ≤ coefficient * 10 ^ exponent := by
  have counted := digitCount_pos coefficient
  have digits : (10 : ℚ) ^ (digitCount coefficient - 1) ≤ coefficient := by
    exact_mod_cast pow_digitCount_le nonzero
  have place : exponent + digitCount coefficient - 1 =
      ((digitCount coefficient - 1 : ℕ) : ℤ) + exponent := by omega
  rw [place, zpow_add₀ (by norm_num), zpow_natCast]
  gcongr

theorem mul_pow_lt (coefficient : Nat) (exponent : Int) :
    (coefficient : ℚ) * 10 ^ exponent < 10 ^ (exponent + digitCount coefficient) := by
  have digits : (coefficient : ℚ) < 10 ^ digitCount coefficient := by
    exact_mod_cast lt_pow_digitCount coefficient
  rw [add_comm, zpow_add₀ (by norm_num), zpow_natCast]
  gcongr

/-- The place of the first digit of a coefficient is the logarithm of the number. -/
theorem log_mul_pow {coefficient : Nat} (nonzero : coefficient ≠ 0) (exponent : Int) :
    Int.log 10 ((coefficient : ℚ) * 10 ^ exponent) =
      exponent + digitCount coefficient - 1 := by
  have positive : (0 : ℚ) < (coefficient : ℚ) * 10 ^ exponent := by positivity
  have lower := (Int.zpow_le_iff_le_log (b := 10) (by decide) positive).mp
    (by exact_mod_cast pow_le_mul_pow nonzero exponent)
  have upper := (Int.lt_zpow_iff_log_lt (b := 10) (by decide) positive).mp
    (by exact_mod_cast mul_pow_lt coefficient exponent)
  omega

end DepositYield.Decimal
