import DepositYield.Decimal.Context
import DepositYield.Proofs.Decimal.Number

/-!
# Rounding numbers

The rounding of a context is a function of the number alone.  The number is rounded
to the nearest multiple of a power of ten, its last place, a tie going to the even
one; the last place leaves as many digits as the precision allows, but lies no lower
than that of the least subnormal number.  What is too large after that is no result.

Two numbers are rounded alike if no multiple of half a last place separates them.
-/

namespace DepositYield.Decimal

/-! ## The nearest whole number -/

/-- The whole number nearest to a number; a tie goes to the even neighbour. -/
def nearestWhole (number : ℚ) : ℤ :=
  if 1 < 2 * (number - ⌊number⌋) ∨ 2 * (number - ⌊number⌋) = 1 ∧ ⌊number⌋ % 2 = 1 then
    ⌊number⌋ + 1
  else
    ⌊number⌋

@[simp]
theorem nearestWhole_intCast (whole : ℤ) : nearestWhole (whole : ℚ) = whole := by
  simp [nearestWhole]

@[simp]
theorem nearestWhole_zero : nearestWhole 0 = 0 := by
  simp [nearestWhole]

theorem le_nearestWhole {number : ℚ} {whole : ℤ} (below : (whole : ℚ) ≤ number) :
    whole ≤ nearestWhole number := by
  have floor := Int.le_floor.mpr below
  unfold nearestWhole
  split <;> omega

theorem nearestWhole_le {number : ℚ} {whole : ℤ} (above : number ≤ (whole : ℚ)) :
    nearestWhole number ≤ whole := by
  have floor : ⌊number⌋ ≤ whole := by
    exact_mod_cast (Int.floor_le number).trans above
  unfold nearestWhole
  split
  · next raised =>
      have fraction : (⌊number⌋ : ℚ) < number := by
        rcases raised with large | ⟨tie, -⟩ <;> linarith
      have strict : ⌊number⌋ < whole := by exact_mod_cast fraction.trans_le above
      omega
  · exact floor

/-- Between two neighbouring halves all numbers have one nearest whole number. -/
theorem nearestWhole_of_half {number : ℚ} {half : ℤ} (above : (half : ℚ) / 2 < number)
    (below : number < (half + 1 : ℚ) / 2) : nearestWhole number = (half + 1) / 2 := by
  obtain ⟨whole, rfl | rfl⟩ := half.even_or_odd'
  · push_cast at above below
    have floor : ⌊number⌋ = whole := by
      rw [Int.floor_eq_iff]
      constructor <;> linarith
    unfold nearestWhole
    rw [floor, if_neg]
    · omega
    · rintro (large | ⟨tie, -⟩) <;> linarith
  · push_cast at above below
    have floor : ⌊number⌋ = whole := by
      rw [Int.floor_eq_iff]
      constructor <;> linarith
    unfold nearestWhole
    rw [floor, if_pos (.inl (by linarith))]
    omega

theorem nearestWhole_neg (number : ℚ) : nearestWhole (-number) = -nearestWhole number := by
  obtain ⟨whole, fraction, rfl, lower, upper⟩ :
      ∃ (whole : ℤ) (fraction : ℚ), number = whole + fraction ∧ 0 ≤ fraction ∧ fraction < 1 :=
    ⟨⌊number⌋, Int.fract number, (Int.floor_add_fract number).symm, Int.fract_nonneg number,
      Int.fract_lt_one number⟩
  have floor : ⌊(whole : ℚ) + fraction⌋ = whole := by
    rw [Int.floor_eq_iff]
    constructor <;> linarith
  obtain rfl | positive := lower.eq_or_lt
  · rw [add_zero, ← Int.cast_neg, nearestWhole_intCast, nearestWhole_intCast]
  · have floorNeg : ⌊-((whole : ℚ) + fraction)⌋ = -whole - 1 := by
      rw [Int.floor_eq_iff]
      push_cast
      constructor <;> linarith
    unfold nearestWhole
    rw [floor, floorNeg]
    push_cast
    rcases lt_trichotomy (2 * fraction) 1 with small | tie | large
    · rw [if_pos (.inl (by linarith)), if_neg]
      · omega
      · rintro (large | ⟨tie, -⟩) <;> linarith
    · by_cases odd : whole % 2 = 1
      · rw [if_neg, if_pos (.inr ⟨by linarith, odd⟩)]
        · omega
        · rintro (large | ⟨-, parity⟩)
          · linarith
          · omega
      · rw [if_pos (.inr ⟨by linarith, by omega⟩), if_neg]
        · omega
        · rintro (large | ⟨-, parity⟩)
          · linarith
          · omega
    · rw [if_neg, if_pos (.inl (by linarith))]
      · omega
      · rintro (small | ⟨tie, -⟩) <;> linarith

/-- The nearest quotient of whole numbers is the whole number nearest to their
quotient. -/
theorem nearestWhole_div {dividend divisor : Nat} (positive : 0 < divisor) :
    nearestWhole ((dividend : ℚ) / divisor) = nearestQuotient dividend divisor := by
  have floor : ⌊(dividend : ℚ) / divisor⌋ = (dividend / divisor : ℕ) := by
    have natural := Rat.floor_intCast_div_natCast (dividend : ℤ) divisor
    push_cast at natural ⊢
    exact natural
  have divided : (divisor : ℚ) * (dividend / divisor : ℕ) + (dividend % divisor : ℕ) =
      dividend := by
    exact_mod_cast Nat.div_add_mod dividend divisor
  have positive' : (0 : ℚ) < divisor := by exact_mod_cast positive
  have remainder : (dividend : ℚ) / divisor - (dividend / divisor : ℕ) =
      (dividend % divisor : ℕ) / divisor := by
    rw [eq_div_iff positive'.ne', sub_mul, div_mul_cancel₀ _ positive'.ne']
    linarith
  have larger : 1 < 2 * ((dividend % divisor : ℕ) / divisor : ℚ) ↔
      divisor < 2 * (dividend % divisor) := by
    rw [← mul_div_assoc, one_lt_div positive']
    exact_mod_cast Iff.rfl
  have tie : 2 * ((dividend % divisor : ℕ) / divisor : ℚ) = 1 ↔
      2 * (dividend % divisor) = divisor := by
    rw [← mul_div_assoc, div_eq_one_iff_eq positive'.ne']
    exact_mod_cast Iff.rfl
  have parity : ((dividend / divisor : ℕ) : ℤ) % 2 = 1 ↔ dividend / divisor % 2 = 1 := by
    omega
  unfold nearestWhole nearestQuotient
  simp only [floor, Int.cast_natCast, remainder, larger, tie, parity]
  split <;> simp

/-! ## Cells -/

/-- No multiple of a unit lies between two numbers, and neither is one. -/
def SameCell (unit left right : ℚ) : Prop :=
  ∃ cell : ℤ, cell * unit < left ∧ left < (cell + 1) * unit ∧
    cell * unit < right ∧ right < (cell + 1) * unit

namespace SameCell

variable {unit left right : ℚ}

/-- The numbers between zero and the unit share a cell. -/
theorem of_within (leftAbove : 0 < left) (leftBelow : left < unit) (rightAbove : 0 < right)
    (rightBelow : right < unit) : SameCell unit left right :=
  ⟨0, by simpa, by simpa, by simpa, by simpa⟩

theorem neg (same : SameCell unit left right) : SameCell unit (-left) (-right) := by
  obtain ⟨cell, leftAbove, leftBelow, rightAbove, rightBelow⟩ := same
  refine ⟨-cell - 1, ?_, ?_, ?_, ?_⟩ <;> push_cast <;> linarith

/-- Cells are moved by multiples of the unit. -/
theorem add_multiple (same : SameCell unit left right) (count : ℤ) :
    SameCell unit (count * unit + left) (count * unit + right) := by
  obtain ⟨cell, leftAbove, leftBelow, rightAbove, rightBelow⟩ := same
  refine ⟨count + cell, ?_, ?_, ?_, ?_⟩ <;> push_cast <;> linarith

theorem scale (same : SameCell unit left right) {factor : ℚ} (positive : 0 < factor) :
    SameCell (unit * factor) (left * factor) (right * factor) := by
  obtain ⟨cell, leftAbove, leftBelow, rightAbove, rightBelow⟩ := same
  refine ⟨cell, ?_, ?_, ?_, ?_⟩ <;> rw [← mul_assoc] <;> gcongr

/-- A multiple of a unit has fewer multiples. -/
theorem coarser (same : SameCell unit left right) (positive : 0 < unit) {count : ℕ}
    (nonzero : 0 < count) : SameCell (count * unit) left right := by
  obtain ⟨cell, leftAbove, leftBelow, rightAbove, rightBelow⟩ := same
  have counted : (0 : ℤ) < count := by exact_mod_cast nonzero
  have lower : ((cell / count : ℤ) : ℚ) * (count * unit) ≤ cell * unit := by
    have whole : cell / count * count ≤ cell := Int.ediv_mul_le cell counted.ne'
    have cast : ((cell / count : ℤ) : ℚ) * count ≤ cell := by exact_mod_cast whole
    rw [← mul_assoc]
    gcongr
  have upper : (cell + 1 : ℚ) * unit ≤ ((cell / count : ℤ) + 1 : ℚ) * (count * unit) := by
    have whole : cell + 1 ≤ (cell / count + 1) * count := Int.lt_ediv_add_one_mul_self cell counted
    have cast : (cell + 1 : ℚ) ≤ ((cell / count : ℤ) + 1) * count := by exact_mod_cast whole
    rw [← mul_assoc]
    gcongr
  exact ⟨cell / count, lower.trans_lt leftAbove, leftBelow.trans_le upper,
    lower.trans_lt rightAbove, rightBelow.trans_le upper⟩

/-- Numbers that no half place separates are separated by no half of a higher
place. -/
theorem halfPlace {place higher : ℤ} (same : SameCell (5 * 10 ^ place) left right)
    (below : place < higher) : SameCell (10 ^ higher / 2) left right := by
  obtain ⟨gap, rfl⟩ : ∃ gap : ℕ, higher = place + 1 + gap :=
    ⟨(higher - place - 1).toNat, by omega⟩
  have refined := same.coarser (by positivity) (show 0 < 10 ^ gap by positivity)
  have unit : ((10 ^ gap : ℕ) : ℚ) * (5 * 10 ^ place) = 10 ^ (place + 1 + (gap : ℤ)) / 2 := by
    rw [zpow_add₀ (by norm_num), zpow_add₀ (by norm_num), zpow_natCast]
    push_cast
    ring
  rwa [unit] at refined

/-- Numbers that no half place separates reach the same powers of ten above it. -/
theorem pow_le_iff {place higher : ℤ} (same : SameCell (5 * 10 ^ place) left right)
    (below : place < higher) : (10 : ℚ) ^ higher ≤ left ↔ (10 : ℚ) ^ higher ≤ right := by
  have half := same.halfPlace below
  have positive : (0 : ℚ) < 10 ^ higher / 2 := by positivity
  obtain ⟨cell, leftAbove, leftBelow, rightAbove, rightBelow⟩ := half
  -- a number reaches the power exactly when its cell does
  have reached : ∀ number : ℚ, cell * (10 ^ higher / 2) < number →
      number < (cell + 1) * (10 ^ higher / 2) → ((10 : ℚ) ^ higher ≤ number ↔ 2 ≤ cell) := by
    intro number above under
    constructor
    · intro large
      have bound : (2 : ℚ) * (10 ^ higher / 2) < (cell + 1) * (10 ^ higher / 2) := by linarith
      have whole : (2 : ℚ) < cell + 1 := lt_of_mul_lt_mul_right bound positive.le
      have cast : (2 : ℤ) < cell + 1 := by exact_mod_cast whole
      omega
    · intro large
      have cast : (2 : ℚ) ≤ cell := by exact_mod_cast large
      have bound : (2 : ℚ) * (10 ^ higher / 2) ≤ cell * (10 ^ higher / 2) := by gcongr
      linarith
  rw [reached left leftAbove leftBelow, reached right rightAbove rightBelow]

end SameCell

/-! ## Rounding in a context -/

namespace Context

variable {context : Context}

/-- The exponent of the last place that a number keeps. -/
def lastPlace (context : Context) (number : ℚ) : ℤ :=
  max (Int.log 10 |number| - context.precision + 1) context.tiny

/-- A number rounded to its last place. -/
def rounded (context : Context) (number : ℚ) : ℚ :=
  nearestWhole (number / 10 ^ context.lastPlace number) * 10 ^ context.lastPlace number

/-- The result of a calculation whose exact result is a number. -/
def result (context : Context) (number : ℚ) : Except Signal ℚ :=
  if 10 ^ (maxExponent + 1) ≤ |context.rounded number| then .error .overflow
  else .ok (context.rounded number)

@[simp]
theorem lastPlace_neg (number : ℚ) : context.lastPlace (-number) = context.lastPlace number := by
  rw [lastPlace, lastPlace, abs_neg]

@[simp]
theorem rounded_neg (number : ℚ) : context.rounded (-number) = -context.rounded number := by
  rw [rounded, lastPlace_neg, neg_div, nearestWhole_neg, Int.cast_neg, neg_mul]
  rfl

@[simp]
theorem rounded_zero : context.rounded 0 = 0 := by
  simp [rounded]

theorem rounded_sign (negative : Bool) (number : ℚ) :
    context.rounded (sign negative * number) = sign negative * context.rounded number := by
  rcases sign_eq_or negative with same | opposite
  · rw [same, one_mul, one_mul]
  · rw [opposite, neg_one_mul, neg_one_mul, rounded_neg]

/-- A multiple of the last place is not changed by rounding. -/
theorem rounded_eq_self {number : ℚ} {whole place : ℤ} (multiple : number = whole * 10 ^ place)
    (coarse : context.lastPlace number ≤ place) : context.rounded number = number := by
  have exact : number / 10 ^ context.lastPlace number =
      (whole * 10 ^ (place - context.lastPlace number).toNat : ℤ) := by
    rw [div_eq_iff (by positivity)]
    push_cast
    rw [mul_assoc, pow_toNat_mul_zpow coarse]
    exact multiple
  unfold rounded
  rw [exact, nearestWhole_intCast, ← exact, div_mul_cancel₀ _ (by positivity)]

/-- A number with no more digits than the precision is not changed by rounding. -/
theorem rounded_of_digits {number : ℚ} {digits place : ℤ} (multiple : number = digits * 10 ^ place)
    (few : |digits| < 10 ^ context.precision) (above : context.tiny ≤ place) :
    context.rounded number = number := by
  obtain rfl | nonzero := eq_or_ne digits 0
  · simp [multiple]
  refine rounded_eq_self multiple ?_
  have positive : 0 < |number| := by
    rw [multiple, abs_mul]
    positivity
  have small : |number| < ((10 : ℕ) : ℚ) ^ (place + context.precision) := by
    have cast : |(digits : ℚ)| < 10 ^ context.precision := by exact_mod_cast few
    have power : |(10 : ℚ) ^ place| = 10 ^ place := abs_of_pos (by positivity)
    rw [multiple, abs_mul, power, add_comm, Nat.cast_ofNat, zpow_add₀ (by norm_num), zpow_natCast]
    gcongr
  have log := (Int.lt_zpow_iff_log_lt (by decide) positive).mp small
  unfold lastPlace
  omega

/-- A number that reaches a power of ten still does after rounding. -/
theorem pow_le_rounded {number : ℚ} {place : ℤ} (large : 10 ^ place ≤ number)
    (coarse : context.lastPlace number ≤ place) : 10 ^ place ≤ context.rounded number := by
  have scaled : ((10 ^ (place - context.lastPlace number).toNat : ℤ) : ℚ) ≤
      number / 10 ^ context.lastPlace number := by
    rw [le_div_iff₀ (by positivity)]
    push_cast
    rwa [pow_toNat_mul_zpow coarse]
  have whole : ((10 ^ (place - context.lastPlace number).toNat : ℤ) : ℚ) ≤
      nearestWhole (number / 10 ^ context.lastPlace number) := by
    exact_mod_cast le_nearestWhole scaled
  calc
    (10 : ℚ) ^ place = ((10 ^ (place - context.lastPlace number).toNat : ℤ) : ℚ) *
        10 ^ context.lastPlace number := by
      push_cast
      rw [pow_toNat_mul_zpow coarse]
    _ ≤ context.rounded number := by
      unfold rounded
      gcongr

/-- A number within a power of ten stays there after rounding. -/
theorem rounded_le_pow {number : ℚ} {place : ℤ} (small : number ≤ 10 ^ place)
    (coarse : context.lastPlace number ≤ place) : context.rounded number ≤ 10 ^ place := by
  have scaled : number / 10 ^ context.lastPlace number ≤
      ((10 ^ (place - context.lastPlace number).toNat : ℤ) : ℚ) := by
    rw [div_le_iff₀ (by positivity)]
    push_cast
    rwa [pow_toNat_mul_zpow coarse]
  have whole : (nearestWhole (number / 10 ^ context.lastPlace number) : ℚ) ≤
      ((10 ^ (place - context.lastPlace number).toNat : ℤ) : ℚ) := by
    exact_mod_cast nearestWhole_le scaled
  calc
    context.rounded number ≤ ((10 ^ (place - context.lastPlace number).toNat : ℤ) : ℚ) *
        10 ^ context.lastPlace number := by
      unfold rounded
      gcongr
    _ = (10 : ℚ) ^ place := by
      push_cast
      rw [pow_toNat_mul_zpow coarse]

theorem rounded_nonneg {number : ℚ} (nonneg : 0 ≤ number) : 0 ≤ context.rounded number := by
  have scaled : ((0 : ℤ) : ℚ) ≤ number / 10 ^ context.lastPlace number := by
    rw [Int.cast_zero]
    positivity
  have whole : (0 : ℚ) ≤ nearestWhole (number / 10 ^ context.lastPlace number) := by
    exact_mod_cast le_nearestWhole scaled
  unfold rounded
  positivity

/-- Positive numbers that no half place below their last place separates have one
last place. -/
theorem lastPlace_eq_of_sameCell (precise : 0 < context.precision) {left right : ℚ} {place : ℤ}
    (leftPositive : 0 < left) (rightPositive : 0 < right)
    (same : SameCell (5 * 10 ^ place) left right) (below : place < context.lastPlace left) :
    context.lastPlace right = context.lastPlace left := by
  -- above the place both logarithms are the same or neither of them is
  have reached : ∀ higher : ℤ, place < higher →
      (higher ≤ Int.log 10 left ↔ higher ≤ Int.log 10 right) := by
    intro higher above
    rw [← Int.zpow_le_iff_le_log (by decide) leftPositive,
      ← Int.zpow_le_iff_le_log (by decide) rightPositive]
    exact_mod_cast same.pow_le_iff above
  have fromLeft := reached (Int.log 10 left)
  have fromRight := reached (Int.log 10 right)
  unfold lastPlace at below ⊢
  rw [abs_of_pos leftPositive] at below ⊢
  rw [abs_of_pos rightPositive]
  omega

/-- Positive numbers that no half place below their last place separates are rounded
alike. -/
theorem rounded_eq_of_sameCell (precise : 0 < context.precision) {left right : ℚ} {place : ℤ}
    (leftPositive : 0 < left) (rightPositive : 0 < right)
    (same : SameCell (5 * 10 ^ place) left right) (below : place < context.lastPlace left) :
    context.rounded right = context.rounded left := by
  have one := lastPlace_eq_of_sameCell precise leftPositive rightPositive same below
  obtain ⟨cell, leftAbove, leftBelow, rightAbove, rightBelow⟩ := same.halfPlace below
  have scaled : ∀ number : ℚ, cell * (10 ^ context.lastPlace left / 2) < number →
      number < (cell + 1) * (10 ^ context.lastPlace left / 2) →
        nearestWhole (number / 10 ^ context.lastPlace left) = (cell + 1) / 2 := by
    intro number above under
    apply nearestWhole_of_half
    · rw [lt_div_iff₀ (by positivity)]
      linarith
    · rw [div_lt_iff₀ (by positivity)]
      linarith
  unfold rounded
  rw [one, scaled left leftAbove leftBelow, scaled right rightAbove rightBelow]

end Context

end DepositYield.Decimal
