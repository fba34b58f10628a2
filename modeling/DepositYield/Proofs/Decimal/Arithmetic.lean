import DepositYield.Decimal.Scaled
import DepositYield.Proofs.Decimal.Rounding
import Mathlib.Data.Nat.Cast.Field

/-!
# Arithmetic is exact up to one rounding

Sums, differences, products and quotients of finite decimals are the exact results,
rounded once.  So a result depends only on the numbers that the operands denote and
not on their exponents, and a calculation with finite decimals stops for nothing but
overflow, division by zero apart.

Sums replace an operand that lies far below the other one by a single unit, and
quotients mark a remainder in their last digit.  Neither crosses half a place.
-/

namespace DepositYield.Decimal.Context

variable {context : Context}

/-- A calculation has the result of the context for a number: a finite decimal of that
value, or none for overflow. -/
structure Calculates (context : Context) (calculation : Except Signal Decimal) (number : ℚ) :
    Prop where
  value : calculation.map toRat = context.result number
  finite : ∀ decimal, calculation = .ok decimal → decimal.isFinite

namespace Calculates

variable {calculation other : Except Signal Decimal} {number : ℚ} {decimal : Decimal}

/-- A calculation gives the rounded number, or it is too large. -/
theorem ok_or_overflow (calculates : context.Calculates calculation number) :
    (∃ decimal, calculation = .ok decimal ∧ decimal.isFinite ∧
        decimal.toRat = context.rounded number) ∨
      calculation = .error .overflow ∧ 10 ^ (maxExponent + 1) ≤ |context.rounded number| := by
  have value := calculates.value
  unfold result at value
  cases calculation with
  | ok decimal =>
      split at value
      · contradiction
      · exact .inl ⟨decimal, rfl, calculates.finite decimal rfl, Except.ok.inj value⟩
  | error signal =>
      split at value
      · next large => exact .inr ⟨congrArg _ (Except.error.inj value), large⟩
      · contradiction

/-- A calculation whose rounded result is within the limit gives it. -/
theorem exists_ok (calculates : context.Calculates calculation number)
    (small : |context.rounded number| < 10 ^ (maxExponent + 1)) :
    ∃ decimal, calculation = .ok decimal ∧ decimal.isFinite ∧
      decimal.toRat = context.rounded number := by
  rcases calculates.ok_or_overflow with result | ⟨-, large⟩
  · exact result
  · exact absurd large (not_le.mpr small)

/-- What a calculation gives is within the limit. -/
theorem within (calculates : context.Calculates calculation number)
    (result : calculation = .ok decimal) :
    |context.rounded number| < 10 ^ (maxExponent + 1) := by
  by_contra large
  have value := calculates.value
  rw [result, Context.result, if_pos (not_lt.mp large)] at value
  contradiction

theorem of_rounded_eq (calculates : context.Calculates calculation number) {same : ℚ}
    (equal : context.rounded number = context.rounded same) :
    context.Calculates calculation same where
  value := by
    rw [calculates.value]
    unfold result
    rw [equal]
  finite := calculates.finite

end Calculates

theorem isFinite_of_round {negative : Bool} {coefficient : Nat} {exponent : Int}
    {decimal : Decimal} (rounded : context.round negative coefficient exponent = .ok decimal) :
    decimal.isFinite := by
  unfold round at rounded
  grind [isFinite]

theorem round_calculates (precise : 0 < context.precision) (negative : Bool)
    (coefficient : Nat) (exponent : Int) :
    context.Calculates (context.round negative coefficient exponent)
      (sign negative * (coefficient * 10 ^ exponent)) where
  value := map_toRat_round precise negative coefficient exponent
  finite _ rounded := isFinite_of_round rounded

/-! ## Products -/

theorem mul_calculates (precise : 0 < context.precision) {left right : Decimal}
    (leftFinite : left.isFinite) (rightFinite : right.isFinite) :
    context.Calculates (context.mul left right) (left.toRat * right.toRat) := by
  obtain ⟨leftNegative, leftCoefficient, leftExponent, rfl⟩ := exists_finite_of_isFinite leftFinite
  obtain ⟨rightNegative, rightCoefficient, rightExponent, rfl⟩ :=
    exists_finite_of_isFinite rightFinite
  have product := round_calculates precise (leftNegative != rightNegative)
    (leftCoefficient * rightCoefficient) (leftExponent + rightExponent)
  have number : sign (leftNegative != rightNegative) *
      ((leftCoefficient * rightCoefficient : ℕ) * 10 ^ (leftExponent + rightExponent)) =
        (finite leftNegative leftCoefficient leftExponent).toRat *
          (finite rightNegative rightCoefficient rightExponent).toRat := by
    rw [sign_bne, zpow_add₀ (by norm_num)]
    push_cast [toRat_finite]
    ring
  rwa [number] at product

/-! ## Sums -/

theorem addAligned_calculates (precise : 0 < context.precision) (leftNegative : Bool)
    (left : Nat) (rightNegative : Bool) (right : Nat) (exponent : Int) :
    context.Calculates (context.addAligned leftNegative left rightNegative right exponent)
      (sign leftNegative * (left * 10 ^ exponent) +
        sign rightNegative * (right * 10 ^ exponent)) := by
  have opposite : leftNegative ≠ rightNegative → sign rightNegative = -sign leftNegative := by
    cases leftNegative <;> cases rightNegative <;> simp [sign]
  unfold addAligned
  split
  · next same =>
      have sum := round_calculates precise leftNegative (left + right) exponent
      rw [same] at sum ⊢
      convert sum using 1
      push_cast
      ring
  next different =>
  rw [opposite different]
  split
  · next equal =>
      have sum := round_calculates precise false 0 exponent
      subst equal
      convert sum using 1
      simp
  split
  · next less =>
      have sum := round_calculates precise rightNegative (right - left) exponent
      rw [opposite different, Nat.cast_sub less.le] at sum
      convert sum using 1
      ring
  · next greater =>
      have sum := round_calculates precise leftNegative (left - right) exponent
      rw [Nat.cast_sub (not_lt.mp greater)] at sum
      convert sum using 1
      ring

theorem lt_lastPlace {number : ℚ} {place power : ℤ} (large : 10 ^ power ≤ number)
    (below : place < power - context.precision + 1) : place < context.lastPlace number := by
  have positive : 0 < number := lt_of_lt_of_le (by positivity) large
  have log : power ≤ Int.log 10 number :=
    (Int.zpow_le_iff_le_log (by decide) positive).mp (by exact_mod_cast large)
  unfold lastPlace
  rw [abs_of_pos positive]
  omega

/-- Beside a multiple of a higher power of ten, small terms of one sign share a cell. -/
theorem sameCell_add_small (upper : Nat) {exponent floor : ℤ} (above : floor < exponent)
    (negative : Bool) {left right : ℚ} (leftPositive : 0 < left) (leftSmall : left ≤ 10 ^ floor)
    (rightPositive : 0 < right) (rightSmall : right ≤ 10 ^ floor) :
    SameCell (5 * 10 ^ floor) (upper * 10 ^ exponent + sign negative * left)
      (upper * 10 ^ exponent + sign negative * right) := by
  have unit : (0 : ℚ) < 10 ^ floor := by positivity
  have terms : SameCell (5 * 10 ^ floor) (sign negative * left) (sign negative * right) := by
    have within := SameCell.of_within leftPositive (show left < 5 * 10 ^ floor by linarith)
      rightPositive (by linarith)
    cases negative with
    | false => simpa [sign] using within
    | true => simpa [sign] using within.neg
  obtain ⟨gap, rfl⟩ : ∃ gap : ℕ, exponent = floor + 1 + gap :=
    ⟨(exponent - floor - 1).toNat, by omega⟩
  have multiple : (upper : ℚ) * 10 ^ (floor + 1 + (gap : ℤ)) =
      ((2 * upper * 10 ^ gap : ℤ) : ℚ) * (5 * 10 ^ floor) := by
    rw [zpow_add₀ (by norm_num), zpow_add₀ (by norm_num), zpow_natCast]
    push_cast
    ring
  rw [multiple]
  exact terms.add_multiple (2 * upper * 10 ^ gap)

/-- A small term takes at most the first digit from a number. -/
theorem pow_le_add_small {upper : Nat} (nonzero : upper ≠ 0) {exponent floor : ℤ}
    (below : floor ≤ exponent + digitCount upper - 2) (negative : Bool) {term : ℚ}
    (positive : 0 < term) (small : term ≤ 10 ^ floor) :
    (10 : ℚ) ^ (exponent + digitCount upper - 2) ≤
      upper * 10 ^ exponent + sign negative * term := by
  have reach : (10 : ℚ) ^ (exponent + digitCount upper - 2) + 10 ^ floor ≤
      upper * 10 ^ exponent :=
    calc
      (10 : ℚ) ^ (exponent + digitCount upper - 2) + 10 ^ floor ≤
          10 ^ (exponent + digitCount upper - 2) * 10 := by
        have lower : (10 : ℚ) ^ floor ≤ 10 ^ (exponent + digitCount upper - 2) :=
          zpow_le_zpow_right₀ (by norm_num) below
        linarith
      _ = 10 ^ (exponent + digitCount upper - 1) := by
        rw [← zpow_add_one₀ (by norm_num)]
        congr 1
        omega
      _ ≤ upper * 10 ^ exponent := pow_le_mul_pow nonzero exponent
  rcases sign_eq_or negative with same | opposite
  · rw [same]
    linarith
  · rw [opposite]
    linarith

/-- Beside a number whose last digit lies above a place, all terms below that place
round alike. -/
theorem rounded_add_small (precise : 0 < context.precision) {upper : Nat} (nonzero : upper ≠ 0)
    {exponent floor : ℤ} (above : floor < exponent)
    (digits : floor < exponent + digitCount upper - 1 - context.precision) (negative : Bool)
    {left right : ℚ} (leftPositive : 0 < left) (leftSmall : left ≤ 10 ^ floor)
    (rightPositive : 0 < right) (rightSmall : right ≤ 10 ^ floor) :
    context.rounded (upper * 10 ^ exponent + sign negative * right) =
      context.rounded (upper * 10 ^ exponent + sign negative * left) := by
  have below : floor ≤ exponent + digitCount upper - 2 := by omega
  have positive : (0 : ℚ) < 10 ^ (exponent + digitCount upper - 2) := by positivity
  have leftLarge := pow_le_add_small nonzero below negative leftPositive leftSmall
  have rightLarge := pow_le_add_small nonzero below negative rightPositive rightSmall
  exact rounded_eq_of_sameCell precise (positive.trans_le leftLarge)
    (positive.trans_le rightLarge)
    (sameCell_add_small upper above negative leftPositive leftSmall rightPositive rightSmall)
    (lt_lastPlace leftLarge (by omega))

theorem spread_mul_pow (coefficient : Nat) {exponent lower : ℤ} (le : lower ≤ exponent) :
    (spread coefficient (exponent - lower).toNat : ℚ) * 10 ^ lower =
      coefficient * 10 ^ exponent := by
  unfold spread
  split
  · next isZero => simp [isZero]
  · push_cast [Nat.pow_eq]
    rw [mul_assoc, pow_toNat_mul_zpow le]

/-- The lower operand stays as it is, or its first digit lies below all digits that can
decide the rounding and it is replaced. -/
theorem standIn_cases (upper : Nat) (upperExponent : Int) (lower : Nat) (lowerExponent : Int) :
    context.standIn upper upperExponent lower lowerExponent = (lower, lowerExponent) ∨
      ∃ floor : Int,
        context.standIn upper upperExponent lower lowerExponent =
          (if lower = 0 then 0 else 1, floor) ∧
        upper ≠ 0 ∧ lowerExponent + digitCount lower - 1 < floor ∧ floor < upperExponent ∧
        floor < upperExponent + digitCount upper - 1 - context.precision := by
  unfold standIn
  by_cases isZero : upper = 0
  · exact .inl (if_pos isZero)
  rw [if_neg isZero]
  dsimp only
  split
  · next below => exact .inr ⟨_, rfl, isZero, below, by omega, by omega⟩
  · exact .inl rfl

theorem addOrdered_calculates (precise : 0 < context.precision) (upperNegative : Bool)
    (upper : Nat) (lowerNegative : Bool) (lower : Nat) {upperExponent lowerExponent : Int}
    (less : lowerExponent < upperExponent) :
    context.Calculates
      (context.addOrdered upperNegative upper upperExponent lowerNegative lower lowerExponent)
      (sign upperNegative * (upper * 10 ^ upperExponent) +
        sign lowerNegative * (lower * 10 ^ lowerExponent)) := by
  have aligned := fun (term : Nat) (exponent : Int) (le : exponent ≤ upperExponent) => by
    have sum := addAligned_calculates precise upperNegative
      (spread upper (upperExponent - exponent).toNat) lowerNegative term exponent
    rwa [spread_mul_pow upper le] at sum
  unfold addOrdered
  obtain kept | ⟨floor, replaced, nonzero, below, above, digits⟩ :=
    context.standIn_cases upper upperExponent lower lowerExponent
  · rw [kept]
    exact aligned lower lowerExponent less.le
  rw [replaced]
  -- the sum with the unit is exact, and no rounding boundary separates it from the real one
  refine (aligned (if lower = 0 then 0 else 1) floor above.le).of_rounded_eq ?_
  split
  · next isZero => simp [isZero]
  · next present =>
      have signs : sign lowerNegative =
          sign upperNegative * sign (upperNegative != lowerNegative) := by
        cases upperNegative <;> cases lowerNegative <;> simp [sign]
      rw [signs, mul_assoc, mul_assoc, ← mul_add, ← mul_add, rounded_sign, rounded_sign]
      congr 1
      apply rounded_add_small precise nonzero above digits
      · positivity
      · exact (mul_pow_lt lower lowerExponent).le.trans
          (zpow_le_zpow_right₀ (by norm_num) (by omega))
      · positivity
      · simp

theorem add_calculates (precise : 0 < context.precision) {left right : Decimal}
    (leftFinite : left.isFinite) (rightFinite : right.isFinite) :
    context.Calculates (context.add left right) (left.toRat + right.toRat) := by
  obtain ⟨leftNegative, left, leftExponent, rfl⟩ := exists_finite_of_isFinite leftFinite
  obtain ⟨rightNegative, right, rightExponent, rfl⟩ := exists_finite_of_isFinite rightFinite
  rw [toRat_finite, toRat_finite]
  unfold add
  dsimp only
  split
  · next same =>
      rw [same]
      exact addAligned_calculates precise leftNegative left rightNegative right rightExponent
  split
  · next less => exact addOrdered_calculates precise leftNegative left rightNegative right less
  · next different less =>
      rw [add_comm]
      exact addOrdered_calculates precise rightNegative right leftNegative left (by omega)

theorem sub_calculates (precise : 0 < context.precision) {left right : Decimal}
    (leftFinite : left.isFinite) (rightFinite : right.isFinite) :
    context.Calculates (context.sub left right) (left.toRat - right.toRat) := by
  obtain ⟨negative, coefficient, exponent, rfl⟩ := exists_finite_of_isFinite rightFinite
  rw [sub_eq_add_neg, ← toRat_negate]
  exact add_calculates precise leftFinite rfl

/-! ## Quotients -/

theorem stripZeros_mul_pow (coefficient limit : Nat) :
    (stripZeros coefficient limit).1 * 10 ^ (stripZeros coefficient limit).2 = coefficient := by
  fun_induction stripZeros coefficient limit with
  | case1 coefficient => simp
  | case2 coefficient limit divides stripped dropped smaller ih =>
      rw [smaller] at ih
      dsimp only at ih ⊢
      rw [pow_succ, ← mul_assoc, ih, Nat.div_mul_cancel (Nat.dvd_of_mod_eq_zero divides)]
  | case3 coefficient limit rest => simp

/-- The whole quotient has a digit more than the precision, or several. -/
theorem pow_mul_divisor_le (precision : Nat) {left : Nat} (nonzero : left ≠ 0) (right : Nat)
    {raised lowered : Nat}
    (shift : precision + digitCount right + lowered = digitCount left - 1 + raised) :
    10 ^ precision * (right * 10 ^ lowered) ≤ left * 10 ^ raised :=
  calc
    10 ^ precision * (right * 10 ^ lowered) ≤
        10 ^ precision * (10 ^ digitCount right * 10 ^ lowered) := by
      gcongr
      exact (lt_pow_digitCount right).le
    _ = 10 ^ (digitCount left - 1) * 10 ^ raised := by
      rw [← pow_add, ← pow_add, ← pow_add, ← shift, add_assoc]
    _ ≤ left * 10 ^ raised := by
      gcongr
      exact pow_digitCount_le nonzero

/-- The last digit of a whole quotient, marked for a remainder. -/
theorem sameCell_marked {dividend divisor : Nat} (positive : 0 < divisor)
    (remainder : dividend % divisor ≠ 0) :
    SameCell 5
      ((if dividend / divisor % 5 = 0 then dividend / divisor + 1 else dividend / divisor : ℕ) : ℚ)
      (dividend / divisor) := by
  have divided := Nat.div_add_mod dividend divisor
  have rest := Nat.mod_lt dividend positive
  generalize dividend / divisor = quotient at divided
  have positive' : (0 : ℚ) < divisor := by exact_mod_cast positive
  have above : (quotient : ℚ) < dividend / divisor := by
    rw [lt_div_iff₀ positive', mul_comm]
    exact_mod_cast (show divisor * quotient < dividend by omega)
  have below : (dividend : ℚ) / divisor < quotient + 1 := by
    rw [div_lt_iff₀ positive', mul_comm]
    exact_mod_cast (show dividend < divisor * (quotient + 1) by rw [Nat.mul_succ]; omega)
  have lower : ((quotient / 5 * 5 : ℕ) : ℚ) ≤ quotient := by
    exact_mod_cast Nat.div_mul_le_self quotient 5
  have upper : (quotient : ℚ) + 1 ≤ (((quotient / 5 + 1) * 5 : ℕ) : ℚ) := by
    exact_mod_cast (show quotient + 1 ≤ (quotient / 5 + 1) * 5 by omega)
  push_cast at lower upper
  refine ⟨(quotient / 5 : ℕ), ?_, ?_, ?_, ?_⟩
  · exact_mod_cast (show quotient / 5 * 5 < ite _ _ _ by split <;> omega)
  · exact_mod_cast (show ite _ _ _ < (quotient / 5 + 1) * 5 by split <;> omega)
  · push_cast
    exact lower.trans_lt above
  · push_cast
    exact below.trans_le upper

/-- A whole quotient with a remainder, once it is marked, rounds like the exact one. -/
theorem rounded_quotient (precise : 0 < context.precision) {dividend divisor : Nat}
    (positive : 0 < divisor) (digits : 10 ^ context.precision * divisor ≤ dividend)
    (remainder : dividend % divisor ≠ 0) (exponent : ℤ) :
    context.rounded ((dividend : ℚ) / divisor * 10 ^ exponent) =
      context.rounded (((if dividend / divisor % 5 = 0 then dividend / divisor + 1
        else dividend / divisor : ℕ) : ℚ) * 10 ^ exponent) := by
  have many : 10 ^ context.precision ≤
      if dividend / divisor % 5 = 0 then dividend / divisor + 1 else dividend / divisor := by
    have quotient := (Nat.le_div_iff_mul_le positive).mpr digits
    split <;> omega
  have large : (10 : ℚ) ^ (exponent + context.precision) ≤
      ((if dividend / divisor % 5 = 0 then dividend / divisor + 1
        else dividend / divisor : ℕ) : ℚ) * 10 ^ exponent := by
    rw [add_comm, zpow_add₀ (by norm_num), zpow_natCast]
    gcongr
    exact_mod_cast many
  have present : 0 < dividend := by
    rw [Nat.pos_iff_ne_zero]
    rintro rfl
    simp at remainder
  exact rounded_eq_of_sameCell precise (lt_of_lt_of_le (by positivity) large) (by positivity)
    ((sameCell_marked positive remainder).scale (by positivity)) (lt_lastPlace large (by omega))

/-- Operands that are shifted by powers of ten move the exponent of their quotient. -/
theorem div_mul_pow (left right : Nat) (leftExponent rightExponent shift : ℤ) :
    (left : ℚ) * 10 ^ leftExponent / (right * 10 ^ rightExponent) =
      ((left * 10 ^ shift.toNat : ℕ) : ℚ) / (right * 10 ^ (-shift).toNat : ℕ) *
        10 ^ (leftExponent - rightExponent - shift) := by
  have raised : shift = (shift.toNat : ℤ) - ((-shift).toNat : ℤ) := by omega
  rw [raised, zpow_sub₀ (by norm_num), zpow_sub₀ (by norm_num), zpow_sub₀ (by norm_num),
    ← raised]
  push_cast [zpow_natCast]
  field_simp

/-- A quotient without a remainder keeps its value when zeros are stripped from it. -/
theorem stripZeros_quotient {dividend divisor : Nat} (divides : dividend % divisor = 0)
    (limit : Nat) (exponent : ℤ) :
    ((stripZeros (dividend / divisor) limit).1 : ℚ) *
        10 ^ (exponent + ((stripZeros (dividend / divisor) limit).2 : ℤ)) =
      dividend / divisor * 10 ^ exponent := by
  have exact : ((stripZeros (dividend / divisor) limit).1 : ℚ) *
      10 ^ (stripZeros (dividend / divisor) limit).2 = dividend / divisor := by
    rw [← Nat.cast_div_charZero (Nat.dvd_of_mod_eq_zero divides)]
    exact_mod_cast stripZeros_mul_pow (dividend / divisor) limit
  rw [zpow_add₀ (by norm_num), zpow_natCast, mul_left_comm, exact, mul_comm]

theorem divFinite_calculates (precise : 0 < context.precision) (negative : Bool)
    {left right : Nat} (leftNonzero : left ≠ 0) (rightNonzero : right ≠ 0)
    (leftExponent rightExponent : Int) :
    context.Calculates
      (context.divFinite negative left leftExponent right rightExponent)
      (sign negative * (left * 10 ^ leftExponent / (right * 10 ^ rightExponent))) := by
  unfold divFinite
  dsimp only
  obtain ⟨shift, shiftEq⟩ : ∃ shift : ℤ,
      shift = digitCount right - digitCount left + context.precision + 1 := ⟨_, rfl⟩
  rw [← shiftEq]
  have counted := digitCount_pos left
  obtain ⟨dividend, dividendEq⟩ : ∃ dividend, dividend = left * 10 ^ shift.toNat := ⟨_, rfl⟩
  obtain ⟨divisor, divisorEq⟩ : ∃ divisor, divisor = right * 10 ^ (-shift).toNat := ⟨_, rfl⟩
  rw [Nat.pow_eq, Nat.pow_eq, ← dividendEq, ← divisorEq]
  have positive : 0 < divisor := by
    rw [divisorEq]
    positivity
  have digits : 10 ^ context.precision * divisor ≤ dividend := by
    rw [dividendEq, divisorEq]
    exact pow_mul_divisor_le context.precision leftNonzero right (by omega)
  have number := div_mul_pow left right leftExponent rightExponent shift
  rw [← dividendEq, ← divisorEq] at number
  rw [number]
  split
  · next divides =>
      have quotient := round_calculates precise negative
        (stripZeros (dividend / divisor) shift.toNat).1
        (leftExponent - rightExponent - shift +
          (stripZeros (dividend / divisor) shift.toNat).2)
      rwa [stripZeros_quotient divides] at quotient
  · next remainder =>
      have marked := rounded_quotient precise positive digits remainder
        (leftExponent - rightExponent - shift)
      rw [← apply_ite (fun coefficient => context.round negative coefficient _)]
      refine (round_calculates precise negative _ _).of_rounded_eq ?_
      rw [rounded_sign, rounded_sign, marked]

theorem div_calculates (precise : 0 < context.precision) {left right : Decimal}
    (leftFinite : left.isFinite) (rightFinite : right.isFinite) (nonzero : right.toRat ≠ 0) :
    context.Calculates (context.div left right) (left.toRat / right.toRat) := by
  obtain ⟨leftNegative, left, leftExponent, rfl⟩ := exists_finite_of_isFinite leftFinite
  obtain ⟨rightNegative, right, rightExponent, rfl⟩ := exists_finite_of_isFinite rightFinite
  have present : right ≠ 0 := by
    rintro rfl
    simp at nonzero
  have number : (finite leftNegative left leftExponent).toRat /
      (finite rightNegative right rightExponent).toRat =
        sign (leftNegative != rightNegative) *
          (left * 10 ^ leftExponent / (right * 10 ^ rightExponent)) := by
    rcases sign_eq_or rightNegative with same | opposite
    · simp [same, mul_div_assoc]
    · simp [opposite, mul_div_assoc, div_neg]
  rw [number]
  unfold div
  dsimp only
  rw [if_neg present]
  split
  · next isZero =>
      have zero := round_calculates precise (leftNegative != rightNegative) 0
        (leftExponent - rightExponent)
      subst isZero
      simpa using zero
  · next leftPresent =>
      exact divFinite_calculates precise _ leftPresent present leftExponent rightExponent

end DepositYield.Decimal.Context
