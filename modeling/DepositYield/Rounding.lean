/-!
# Rounding a quotient

The one rounding rule of the library: a quotient of whole numbers goes to the
nearest whole number, and a tie goes to the even one.  Decimals use it with a
power of ten below the line, binary floating point with a power of two.
-/

namespace DepositYield

/-- The whole number nearest to `dividend / divisor`; a tie goes to the even
neighbour. -/
def nearestQuotient (dividend divisor : Nat) : Nat :=
  let quotient := dividend / divisor
  let remainder := dividend % divisor
  if divisor < 2 * remainder ∨ (2 * remainder = divisor ∧ quotient % 2 = 1) then
    quotient + 1
  else
    quotient

/-- An exact quotient is not changed by rounding. -/
theorem nearestQuotient_of_dvd {dividend divisor : Nat} (positive : 0 < divisor)
    (exact : divisor ∣ dividend) : nearestQuotient dividend divisor = dividend / divisor := by
  have remainder : dividend % divisor = 0 := Nat.mod_eq_zero_of_dvd exact
  simp only [nearestQuotient, remainder]
  rw [if_neg]
  omega

/-- Rounding moves a quotient by at most half a unit. -/
theorem nearestQuotient_close (dividend divisor : Nat) (positive : 0 < divisor) :
    2 * (nearestQuotient dividend divisor * divisor) ≤ 2 * dividend + divisor ∧
      2 * dividend ≤ 2 * (nearestQuotient dividend divisor * divisor) + divisor := by
  have split := Nat.div_add_mod dividend divisor
  have small := Nat.mod_lt dividend positive
  have commuted : dividend / divisor * divisor = divisor * (dividend / divisor) :=
    Nat.mul_comm _ _
  unfold nearestQuotient
  simp only []
  split
  · rw [Nat.add_mul, Nat.one_mul]
    omega
  · omega

end DepositYield
