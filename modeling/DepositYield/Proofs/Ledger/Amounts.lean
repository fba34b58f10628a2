import DepositYield.Ledger.Record
import Mathlib.Algebra.Group.Basic

/-!
# Amounts as a group

Amounts form a commutative group, component by component, so that sums of
balances and of changes can be rearranged freely.  Solvent amounts, whose
deposited components are not below zero, are closed under sums.
-/

namespace DepositYield

attribute [ext] Amounts

namespace Amounts

instance : AddCommGroup Amounts where
  add_assoc left middle right := by
    ext <;> exact Int.add_assoc _ _ _
  zero_add amounts := by
    ext <;> exact Int.zero_add _
  add_zero amounts := by
    ext <;> exact Int.add_zero _
  add_comm left right := by
    ext <;> exact Int.add_comm _ _
  neg_add_cancel amounts := by
    ext <;> exact Int.add_left_neg _
  nsmul := nsmulRec
  zsmul := zsmulRec

@[simp]
theorem add_depositedValue (left right : Amounts) :
    (left + right).depositedValue = left.depositedValue + right.depositedValue :=
  rfl

@[simp]
theorem add_depositedAmount (left right : Amounts) :
    (left + right).depositedAmount = left.depositedAmount + right.depositedAmount :=
  rfl

@[simp]
theorem add_stalk (left right : Amounts) : (left + right).stalk = left.stalk + right.stalk :=
  rfl

@[simp]
theorem zero_stalk : (0 : Amounts).stalk = 0 :=
  rfl

/-- The deposited value and the deposited amount are not below zero. -/
def Solvent (amounts : Amounts) : Prop :=
  0 ≤ amounts.depositedValue ∧ 0 ≤ amounts.depositedAmount

instance (amounts : Amounts) : Decidable amounts.Solvent :=
  inferInstanceAs (Decidable (_ ∧ _))

theorem solvent_zero : (0 : Amounts).Solvent :=
  ⟨Int.le_refl 0, Int.le_refl 0⟩

theorem Solvent.add {left right : Amounts} (leftSolvent : left.Solvent)
    (rightSolvent : right.Solvent) : (left + right).Solvent :=
  ⟨Int.add_nonneg leftSolvent.1 rightSolvent.1, Int.add_nonneg leftSolvent.2 rightSolvent.2⟩

end Amounts

end DepositYield
