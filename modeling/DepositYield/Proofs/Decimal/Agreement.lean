import DepositYield.Proofs.Decimal.Arithmetic
import DepositYield.Proofs.Decimal.Order

/-!
# Calculations of one value

A decimal denotes its number at many exponents.  Calculations are compared by what
they denote: they give finite decimals of one value, or overflow alike.  Operations on
operands of one value agree.
-/

namespace DepositYield.Decimal

/-- Finite decimals of one value. -/
structure SameValue (left right : Decimal) : Prop where
  leftFinite : left.isFinite
  rightFinite : right.isFinite
  value : left.toRat = right.toRat

namespace SameValue

theorem refl {decimal : Decimal} (finite : decimal.isFinite) : SameValue decimal decimal :=
  ⟨finite, finite, rfl⟩

theorem compare? {left right : Decimal} (same : SameValue left right) :
    Decimal.compare? left right = some .eq := by
  rw [compare?_eq_compare same.leftFinite same.rightFinite, same.value, compare_eq_iff_eq.mpr rfl]

end SameValue

/-- Calculations that give finite decimals of one value, or overflow both. -/
inductive Agree : Except Signal Decimal → Except Signal Decimal → Prop where
  | values {left right : Decimal} (same : SameValue left right) : Agree (.ok left) (.ok right)
  | overflow : Agree (.error .overflow) (.error .overflow)

namespace Agree

variable {context : Context} {left right : Except Signal Decimal}

theorem bind {leftNext rightNext : Decimal → Except Signal Decimal} (agree : Agree left right)
    (next : ∀ leftValue rightValue, SameValue leftValue rightValue →
      Agree (leftNext leftValue) (rightNext rightValue)) :
    Agree (left >>= leftNext) (right >>= rightNext) := by
  cases agree with
  | values same => exact next _ _ same
  | overflow => exact .overflow

/-- Calculations of one number agree. -/
theorem of_calculates {number : ℚ} (leftCalculates : context.Calculates left number)
    (rightCalculates : context.Calculates right number) : Agree left right := by
  rcases leftCalculates.ok_or_overflow with
    ⟨leftValue, rfl, leftFinite, leftEq⟩ | ⟨rfl, leftLarge⟩ <;>
  rcases rightCalculates.ok_or_overflow with
    ⟨rightValue, rfl, rightFinite, rightEq⟩ | ⟨rfl, rightLarge⟩
  · exact .values ⟨leftFinite, rightFinite, leftEq.trans rightEq.symm⟩
  · have value := leftCalculates.value
    rw [Context.result_of_le rightLarge] at value
    contradiction
  · have value := rightCalculates.value
    rw [Context.result_of_le leftLarge] at value
    contradiction
  · exact .overflow

section Operations

variable {first second firstOther secondOther : Decimal} (precise : 0 < context.precision)
  (firstSame : SameValue first firstOther) (secondSame : SameValue second secondOther)

include precise firstSame secondSame

theorem add : Agree (context.add first second) (context.add firstOther secondOther) := by
  apply of_calculates (Context.add_calculates precise firstSame.leftFinite secondSame.leftFinite)
  rw [firstSame.value, secondSame.value]
  exact Context.add_calculates precise firstSame.rightFinite secondSame.rightFinite

theorem sub : Agree (context.sub first second) (context.sub firstOther secondOther) := by
  apply of_calculates (Context.sub_calculates precise firstSame.leftFinite secondSame.leftFinite)
  rw [firstSame.value, secondSame.value]
  exact Context.sub_calculates precise firstSame.rightFinite secondSame.rightFinite

theorem mul : Agree (context.mul first second) (context.mul firstOther secondOther) := by
  apply of_calculates (Context.mul_calculates precise firstSame.leftFinite secondSame.leftFinite)
  rw [firstSame.value, secondSame.value]
  exact Context.mul_calculates precise firstSame.rightFinite secondSame.rightFinite

end Operations

end Agree

/-- A calculation of zero does not overflow. -/
theorem Context.Calculates.exists_zero {context : Context} {calculation : Except Signal Decimal}
    (calculates : context.Calculates calculation 0) :
    ∃ decimal, calculation = .ok decimal ∧ SameValue decimal zero := by
  rcases calculates.ok_or_overflow with ⟨decimal, result, finite, value⟩ | ⟨-, large⟩
  · exact ⟨decimal, result, finite, rfl, by rw [value, Context.rounded_zero, toRat_zero]⟩
  · have positive : (0 : ℚ) < 10 ^ (maxExponent + 1) := by positivity
    rw [Context.rounded_zero, abs_zero] at large
    exact absurd large (not_le.mpr positive)

end DepositYield.Decimal
