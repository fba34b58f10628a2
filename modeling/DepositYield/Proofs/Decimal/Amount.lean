import DepositYield.Proofs.Decimal.Finite
import DepositYield.Proofs.Decimal.Monotone

/-!
# Amounts

An amount is a finite decimal that is not negative.  Sums, products and quotients of
amounts are amounts, and rounding never brings a sum below a summand that has been rounded
before.
-/

namespace DepositYield.Decimal

/-- A finite decimal that is zero, of any exponent and sign. -/
structure DenotesZero (decimal : Decimal) : Prop where
  finite : decimal.isFinite
  value : decimal.toRat = 0

/-- A finite decimal that is not negative. -/
structure IsAmount (decimal : Decimal) : Prop where
  finite : decimal.isFinite
  nonneg : 0 ≤ decimal.toRat

/-- Of two finite decimals, the first one is not the greater one. -/
structure AtMost (left right : Decimal) : Prop where
  leftFinite : left.isFinite
  rightFinite : right.isFinite
  le : left.toRat ≤ right.toRat

/-- Of two amounts, the first one is not the greater one. -/
structure AmountAtMost (left right : Decimal) : Prop extends AtMost left right where
  nonneg : 0 ≤ left.toRat

/-- A decimal above zero, which may be infinite. -/
def IsPositive (decimal : Decimal) : Prop :=
  lt? zero decimal = .ok true

instance (decimal : Decimal) : Decidable decimal.IsPositive :=
  inferInstanceAs (Decidable (_ = _))

theorem isAmount_iff {decimal : Decimal} :
    decimal.IsAmount ↔ decimal.isFinite = true ∧ le? zero decimal = .ok true := by
  constructor
  · rintro ⟨finite, nonneg⟩
    rw [le?_eq isFinite_zero finite, toRat_zero, decide_eq_true nonneg]
    exact ⟨finite, rfl⟩
  · rintro ⟨finite, le⟩
    rw [le?_eq isFinite_zero finite, toRat_zero] at le
    exact ⟨finite, of_decide_eq_true (Except.ok.inj le)⟩

instance : DecidablePred IsAmount := fun _ =>
  decidable_of_iff _ isAmount_iff.symm

namespace AtMost

theorem refl {decimal : Decimal} (finite : decimal.isFinite) : decimal.AtMost decimal :=
  ⟨finite, finite, le_rfl⟩

theorem trans {first second third : Decimal} (before : first.AtMost second)
    (after : second.AtMost third) : first.AtMost third :=
  ⟨before.leftFinite, after.rightFinite, before.le.trans after.le⟩

end AtMost

namespace AmountAtMost

theorem refl {decimal : Decimal} (amount : decimal.IsAmount) : decimal.AmountAtMost decimal :=
  ⟨.refl amount.finite, amount.nonneg⟩

theorem leftAmount {left right : Decimal} (atMost : left.AmountAtMost right) : left.IsAmount :=
  ⟨atMost.leftFinite, atMost.nonneg⟩

theorem rightAmount {left right : Decimal} (atMost : left.AmountAtMost right) : right.IsAmount :=
  ⟨atMost.rightFinite, atMost.nonneg.trans atMost.le⟩

end AmountAtMost

theorem isAmount_finite (coefficient : Nat) (exponent : Int) :
    (Decimal.finite false coefficient exponent).IsAmount := by
  refine ⟨rfl, ?_⟩
  rw [toRat_finite, sign, if_neg Bool.false_ne_true]
  positivity

theorem isAmount_zero : zero.IsAmount :=
  ⟨rfl, toRat_zero.ge⟩

theorem isAmount_one : one.IsAmount :=
  ⟨rfl, by rw [toRat_one]; exact zero_le_one⟩

theorem isAmount_ofInt {value : Int} (nonneg : 0 ≤ value) : (ofInt value).IsAmount :=
  ⟨rfl, by rw [toRat_ofInt]; exact_mod_cast nonneg⟩

theorem isPositive_ofInt {value : Int} (positive : 0 < value) : (ofInt value).IsPositive := by
  have cast : (0 : ℚ) < value := by exact_mod_cast positive
  rw [IsPositive, lt?_eq isFinite_zero (isFinite_ofInt value), toRat_zero, toRat_ofInt,
    decide_eq_true cast]

namespace Context

variable {context : Context}

namespace Calculates

variable {calculation : Except Signal Decimal} {number : ℚ}

/-- A calculation whose exact result is zero gives zero. -/
theorem gives_zero (calculates : context.Calculates calculation number) (isZero : number = 0) :
    Gives DenotesZero calculation := by
  apply calculates.gives.mono
  rintro decimal ⟨finite, value⟩
  exact ⟨finite, by rw [value, isZero, rounded_zero]⟩

/-- A calculation whose exact result is not negative gives an amount. -/
theorem gives_amount (calculates : context.Calculates calculation number) (nonneg : 0 ≤ number) :
    Gives (fun decimal => decimal.IsAmount ∧ decimal.toRat = context.rounded number)
      calculation := by
  apply calculates.gives.mono
  rintro decimal ⟨finite, value⟩
  exact ⟨⟨finite, value ▸ rounded_nonneg nonneg⟩, value⟩

end Calculates

/-- A guarded quotient is the rounded one; by zero it is zero. -/
theorem divOrZero_calculates (precise : 0 < context.precision) {dividend divisor : Decimal}
    (dividendFinite : dividend.isFinite) (divisorFinite : divisor.isFinite) :
    Gives (fun quotient => quotient.isFinite = true ∧
        quotient.toRat = context.rounded (dividend.toRat / divisor.toRat))
      (context.divOrZero dividend divisor) := by
  unfold divOrZero
  by_cases isZero : divisor.toRat = 0
  · rw [divOr_by_zero dividend zero divisorFinite isZero, isZero, div_zero, rounded_zero]
    exact ⟨isFinite_zero, toRat_zero⟩
  · rw [divOr_by_nonzero dividend zero divisorFinite isZero]
    exact (div_calculates precise dividendFinite divisorFinite isZero).gives

/-! ## Operations on amounts -/

variable (precise : 0 < context.precision)

include precise

/-- What has been calculated is not changed by rounding it again. -/
theorem settled_of_rounded {decimal : Decimal} {number : ℚ}
    (value : decimal.toRat = context.rounded number) :
    context.rounded decimal.toRat = decimal.toRat := by
  rw [value, rounded_rounded precise]

section Operands

variable {left right : Decimal} (leftAmount : left.IsAmount) (rightAmount : right.IsAmount)

include leftAmount rightAmount

theorem add_amounts :
    Gives
      (fun sum => sum.IsAmount ∧ sum.toRat = context.rounded (left.toRat + right.toRat))
      (context.add left right) :=
  (add_calculates precise leftAmount.finite rightAmount.finite).gives_amount
    (add_nonneg leftAmount.nonneg rightAmount.nonneg)

theorem mul_amounts : Gives IsAmount (context.mul left right) :=
  ((mul_calculates precise leftAmount.finite rightAmount.finite).gives_amount
    (mul_nonneg leftAmount.nonneg rightAmount.nonneg)).mono fun _ => And.left

theorem divOrZero_amounts : Gives IsAmount (context.divOrZero left right) := by
  apply (divOrZero_calculates precise leftAmount.finite rightAmount.finite).mono
  rintro quotient ⟨finite, value⟩
  exact ⟨finite, value ▸ rounded_nonneg (div_nonneg leftAmount.nonneg rightAmount.nonneg)⟩

end Operands

/-- An amount divided by infinity is zero. -/
theorem div_amounts {dividend divisor : Decimal} (amount : dividend.IsAmount)
    (positive : divisor.IsPositive) : Gives IsAmount (context.div dividend divisor) := by
  cases divisor with
  | finite negative coefficient exponent =>
      rw [IsPositive, lt?_eq isFinite_zero rfl, toRat_zero] at positive
      have above := of_decide_eq_true (Except.ok.inj positive)
      exact ((div_calculates precise amount.finite rfl above.ne').gives_amount
        (div_nonneg amount.nonneg above.le)).mono fun _ => And.left
  | infinite negative =>
      obtain ⟨_, _, _, rfl⟩ := exists_finite_of_isFinite amount.finite
      exact ⟨rfl, by simp⟩
  | nan negative signaling payload => cases positive

/-! ## Operations on greater amounts -/

/-- A calculation gives no more than one whose exact result is greater, and it gives an amount
wherever that one does. -/
theorem Calculates.alsoGives {calculation greater : Except Signal Decimal} {number other : ℚ}
    (calculates : context.Calculates calculation number)
    (calculatesGreater : context.Calculates greater other) (nonneg : 0 ≤ number)
    (le : number ≤ other) : AlsoGives AmountAtMost calculation greater := by
  intro value given
  have least : 0 ≤ context.rounded number := rounded_nonneg nonneg
  have most := rounded_mono precise le
  have small : |context.rounded number| < 10 ^ (maxExponent + 1) := by
    rw [abs_of_nonneg least]
    exact (most.trans (le_abs_self _)).trans_lt (calculatesGreater.within given)
  obtain ⟨lesser, isLesser, finite, isRounded⟩ := calculates.exists_ok small
  obtain ⟨valueFinite, valueRounded⟩ := gives_iff.mp calculatesGreater.gives value given
  exact ⟨lesser, isLesser, ⟨finite, valueFinite, by rwa [isRounded, valueRounded]⟩,
    by rwa [isRounded]⟩

section Greater

variable {left leftGreater right rightGreater : Decimal}
  (leftAtMost : left.AmountAtMost leftGreater)

include leftAtMost

theorem add_atMost (rightAtMost : right.AmountAtMost rightGreater) :
    AlsoGives AmountAtMost (context.add left right) (context.add leftGreater rightGreater) :=
  (add_calculates precise leftAtMost.leftFinite rightAtMost.leftFinite).alsoGives precise
    (add_calculates precise leftAtMost.rightFinite rightAtMost.rightFinite)
    (add_nonneg leftAtMost.nonneg rightAtMost.nonneg) (add_le_add leftAtMost.le rightAtMost.le)

theorem mul_atMost (rightAtMost : right.AmountAtMost rightGreater) :
    AlsoGives AmountAtMost (context.mul left right) (context.mul leftGreater rightGreater) :=
  (mul_calculates precise leftAtMost.leftFinite rightAtMost.leftFinite).alsoGives precise
    (mul_calculates precise leftAtMost.rightFinite rightAtMost.rightFinite)
    (mul_nonneg leftAtMost.nonneg rightAtMost.nonneg)
    (mul_le_mul leftAtMost.le rightAtMost.le rightAtMost.nonneg leftAtMost.rightAmount.nonneg)

theorem div_atMost (rightFinite : right.isFinite) (positive : 0 < right.toRat) :
    AlsoGives AmountAtMost (context.div left right) (context.div leftGreater right) :=
  (div_calculates precise leftAtMost.leftFinite rightFinite positive.ne').alsoGives precise
    (div_calculates precise leftAtMost.rightFinite rightFinite positive.ne')
    (div_nonneg leftAtMost.nonneg positive.le) (div_le_div_of_nonneg_right leftAtMost.le positive.le)

theorem divOrZero_atMost (rightAmount : right.IsAmount) :
    AlsoGives AmountAtMost (context.divOrZero left right)
      (context.divOrZero leftGreater right) := by
  unfold divOrZero
  rcases rightAmount.nonneg.eq_or_lt with isZero | positive
  · rw [divOr_by_zero left zero rightAmount.finite isZero.symm,
      divOr_by_zero leftGreater zero rightAmount.finite isZero.symm]
    exact .values (.refl isAmount_zero)
  · rw [divOr_by_nonzero left zero rightAmount.finite positive.ne',
      divOr_by_nonzero leftGreater zero rightAmount.finite positive.ne']
    exact div_atMost precise leftAtMost rightAmount.finite positive

end Greater

theorem sum_amounts {values : List Decimal} (amounts : ∀ value ∈ values, value.IsAmount) :
    Gives IsAmount (context.sum values) := by
  apply Settles.foldlM IsAmount isAmount_zero
  intro value inside total totalAmount
  exact (add_amounts precise totalAmount (amounts value inside)).mono fun _ => And.left

end Context

theorem greatest_amounts {values : List Decimal} (amounts : ∀ value ∈ values, value.IsAmount) :
    Gives IsAmount (greatest values) := by
  obtain ⟨largest, found, -, -, ⟨-, rfl⟩ | inside⟩ :=
    exists_greatest fun value among => (amounts value among).finite
  · rw [found]
    exact isAmount_zero
  · rw [found]
    exact amounts largest inside

end DepositYield.Decimal
