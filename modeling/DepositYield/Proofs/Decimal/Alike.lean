import DepositYield.Proofs.Coincidence
import DepositYield.Proofs.Decimal.Agreement
import DepositYield.Proofs.Decimal.Amount

/-!
# Calculations on decimals of one value

Operations on decimals of one value give decimals of one value or stop for the same signal,
also where they divide by zero.  A zero at the end of a list changes neither the sum of the
list nor its greatest amount.
-/

namespace DepositYield.Decimal

variable {context : Context}

theorem SameValue.trans {first second third : Decimal} (before : SameValue first second)
    (after : SameValue second third) : SameValue first third :=
  ⟨before.leftFinite, after.rightFinite, before.value.trans after.value⟩

theorem Agree.alike {left right : Except Signal Decimal} (agree : Agree left right) :
    Alike SameValue left right := by
  cases agree with
  | values same => exact .values same
  | overflow => exact .failures Signal.overflow

namespace Context

/-! ## Operations -/

section Operations

variable {first second firstOther secondOther : Decimal} (precise : 0 < context.precision)
  (firstSame : SameValue first firstOther) (secondSame : SameValue second secondOther)

include precise firstSame secondSame

/-- Quotients agree, and so do the signals of divisions by zero. -/
theorem div_alike :
    Alike SameValue (context.div first second) (context.div firstOther secondOther) := by
  by_cases isZero : second.toRat = 0
  · have otherZero := secondSame.value.symm.trans isZero
    have sameDividend := firstSame.value
    obtain ⟨_, left, _, rfl⟩ := exists_finite_of_isFinite firstSame.leftFinite
    obtain ⟨_, right, _, rfl⟩ := exists_finite_of_isFinite firstSame.rightFinite
    obtain ⟨_, _, _, rfl⟩ := exists_finite_of_isFinite secondSame.leftFinite
    obtain ⟨_, _, _, rfl⟩ := exists_finite_of_isFinite secondSame.rightFinite
    obtain rfl := toRat_eq_zero_iff.mp isZero
    obtain rfl := toRat_eq_zero_iff.mp otherZero
    have dividends : left = 0 ↔ right = 0 := by
      rw [← toRat_eq_zero_iff, sameDividend, toRat_eq_zero_iff]
    simp only [div, if_true, dividends]
    exact .failures _
  · have present : secondOther.toRat ≠ 0 := secondSame.value ▸ isZero
    have calculates := div_calculates precise firstSame.leftFinite secondSame.leftFinite isZero
    rw [firstSame.value, secondSame.value] at calculates
    exact (Agree.of_calculates calculates
      (div_calculates precise firstSame.rightFinite secondSame.rightFinite present)).alike

theorem divOr_alike {fallback fallbackOther : Decimal}
    (fallbackSame : SameValue fallback fallbackOther) :
    Alike SameValue (context.divOr first second fallback)
      (context.divOr firstOther secondOther fallbackOther) := by
  by_cases isZero : second.toRat = 0
  · rw [divOr_by_zero _ _ secondSame.leftFinite isZero,
      divOr_by_zero _ _ secondSame.rightFinite (secondSame.value ▸ isZero)]
    exact .values fallbackSame
  · rw [divOr_by_nonzero _ _ secondSame.leftFinite isZero,
      divOr_by_nonzero _ _ secondSame.rightFinite (secondSame.value ▸ isZero)]
    exact div_alike precise firstSame secondSame

theorem divOrZero_alike :
    Alike SameValue (context.divOrZero first second)
      (context.divOrZero firstOther secondOther) :=
  divOr_alike precise firstSame secondSame (.refl isFinite_zero)

end Operations

/-- A guarded quotient by zero is zero, whatever is divided. -/
theorem divOrZero_by_zero (dividend : Decimal) {divisor : Decimal} (isZero : divisor.DenotesZero) :
    context.divOrZero dividend divisor = .ok zero :=
  divOr_by_zero dividend zero isZero.finite isZero.value

/-! ## Results -/

/-- A decimal that a calculation may give: rounded, and within the limit. -/
structure IsResult (context : Context) (decimal : Decimal) : Prop where
  finite : decimal.isFinite
  settled : context.rounded decimal.toRat = decimal.toRat
  within : |decimal.toRat| < 10 ^ (maxExponent + 1)

theorem isResult_zero : context.IsResult zero where
  finite := rfl
  settled := by rw [toRat_zero, rounded_zero]
  within := by
    rw [toRat_zero, abs_zero]
    positivity

theorem IsResult.of_same {decimal other : Decimal} (isResult : context.IsResult decimal)
    (finite : other.isFinite) (value : other.toRat = decimal.toRat) : context.IsResult other :=
  ⟨finite, value ▸ isResult.settled, value ▸ isResult.within⟩

/-- A calculation gives the result that has its value. -/
theorem Calculates.exists_same {calculation : Except Signal Decimal} {number : ℚ}
    (calculates : context.Calculates calculation number) {decimal : Decimal}
    (isResult : context.IsResult decimal) (value : decimal.toRat = context.rounded number) :
    ∃ same, calculation = .ok same ∧ SameValue decimal same := by
  obtain ⟨same, result, finite, isRounded⟩ :=
    calculates.exists_ok (value ▸ isResult.within)
  exact ⟨same, result, isResult.finite, finite, value.trans isRounded.symm⟩

variable (precise : 0 < context.precision)

include precise

theorem Calculates.gives_result {calculation : Except Signal Decimal} {number : ℚ}
    (calculates : context.Calculates calculation number) :
    Gives context.IsResult calculation := by
  rw [gives_iff]
  intro decimal result
  have value := (gives_iff.mp calculates.gives decimal result).2
  refine ⟨calculates.finite decimal result, settled_of_rounded precise value, ?_⟩
  rw [value]
  exact calculates.within result

theorem isResult_of_pow {decimal : Decimal} (finite : decimal.isFinite) {power : Int}
    (natural : 0 ≤ power) (within : power ≤ maxExponent) (value : decimal.toRat = 10 ^ power) :
    context.IsResult decimal := by
  obtain ⟨raised, made, -, isPower⟩ := tenTo_exact precise natural within
  have isResult :=
    gives_iff.mp ((tenTo_calculates precise within).gives_result precise) raised made
  exact isResult.of_same finite (value.trans isPower.symm)

theorem divOrZero_result {dividend divisor : Decimal} (dividendFinite : dividend.isFinite)
    (divisorFinite : divisor.isFinite) :
    Gives context.IsResult (context.divOrZero dividend divisor) := by
  by_cases byZero : divisor.toRat = 0
  · rw [divOrZero_by_zero dividend ⟨divisorFinite, byZero⟩]
    exact isResult_zero
  · rw [divOrZero, divOr_by_nonzero dividend zero divisorFinite byZero]
    exact (div_calculates precise dividendFinite divisorFinite byZero).gives_result precise

/-- A guarded quotient is the result that has its value. -/
theorem exists_divOrZero_same {dividend divisor : Decimal} (dividendFinite : dividend.isFinite)
    (divisorFinite : divisor.isFinite) {decimal : Decimal} (isResult : context.IsResult decimal)
    (value : decimal.toRat = context.rounded (dividend.toRat / divisor.toRat)) :
    ∃ same, context.divOrZero dividend divisor = .ok same ∧ SameValue decimal same := by
  by_cases byZero : divisor.toRat = 0
  · rw [byZero, div_zero, rounded_zero] at value
    exact ⟨zero, divOrZero_by_zero dividend ⟨divisorFinite, byZero⟩, isResult.finite,
      isFinite_zero, value.trans toRat_zero.symm⟩
  · rw [divOrZero, divOr_by_nonzero dividend zero divisorFinite byZero]
    exact (div_calculates precise dividendFinite divisorFinite byZero).exists_same isResult
      value

/-- Nothing is changed by adding zero to a result. -/
theorem exists_add_zero {total nothing : Decimal} (isResult : context.IsResult total)
    (isZero : nothing.DenotesZero) :
    ∃ sum, context.add total nothing = .ok sum ∧ SameValue total sum := by
  have calculates := add_calculates precise isResult.finite isZero.finite
  rw [isZero.value, add_zero] at calculates
  exact calculates.exists_same isResult isResult.settled.symm

/-- The sum of a single result is that result. -/
theorem exists_sum_single {decimal : Decimal} (isResult : context.IsResult decimal) :
    ∃ total, context.sum [decimal] = .ok total ∧ SameValue decimal total := by
  have calculates := add_calculates precise isFinite_zero isResult.finite
  rw [toRat_zero, zero_add] at calculates
  obtain ⟨total, added, same⟩ := calculates.exists_same isResult isResult.settled.symm
  refine ⟨total, ?_, same⟩
  rw [sum, List.foldlM_cons, added]
  rfl

/-- A guarded quotient of zero is zero, whatever it is divided by. -/
theorem exists_divOrZero_of_zero {dividend divisor : Decimal} (isZero : dividend.DenotesZero)
    (finite : divisor.isFinite) :
    ∃ quotient, context.divOrZero dividend divisor = .ok quotient ∧ quotient.DenotesZero := by
  by_cases byZero : divisor.toRat = 0
  · exact ⟨zero, divOrZero_by_zero dividend ⟨finite, byZero⟩, isFinite_zero, toRat_zero⟩
  · have calculates := div_calculates precise isZero.finite finite byZero
    rw [isZero.value, zero_div] at calculates
    obtain ⟨quotient, divided, same⟩ := calculates.exists_zero
    refine ⟨quotient, ?_, same.leftFinite, same.value.trans toRat_zero⟩
    rw [divOrZero, divOr_by_nonzero dividend zero finite byZero, divided]

theorem sum_result {values : List Decimal} (finite : ∀ value ∈ values, value.isFinite) :
    Gives context.IsResult (context.sum values) := by
  apply Settles.foldlM context.IsResult isResult_zero
  intro value inside total isResult
  exact (add_calculates precise isResult.finite (finite value inside)).gives_result precise

end Context

/-! ## A zero at the end of a list -/

/-- The right list has the values of the left one, and a zero at its end. -/
def WithZero (lefts rights : List Decimal) : Prop :=
  ∃ others nothing, rights = others ++ [nothing] ∧ List.Forall₂ SameValue lefts others ∧
    nothing.DenotesZero

section WithZero

variable {lefts rights : List Decimal}

theorem WithZero.concat (finite : ∀ value ∈ lefts, value.isFinite) {nothing : Decimal}
    (isZero : nothing.DenotesZero) : WithZero lefts (lefts ++ [nothing]) :=
  ⟨lefts, nothing, rfl, List.forall₂_same.mpr fun value inside => .refl (finite value inside),
    isZero⟩

theorem WithZero.of_same {middles : List Decimal} (same : List.Forall₂ SameValue lefts middles)
    (extended : WithZero middles rights) : WithZero lefts rights := by
  obtain ⟨others, nothing, rfl, sameOthers, isZero⟩ := extended
  have steps := forall₂_comp_iff.mpr ⟨middles, same, sameOthers⟩
  exact ⟨others, nothing, rfl, steps.imp fun _ _ ⟨_, first, second⟩ => first.trans second, isZero⟩

theorem Context.sum_alike (precise : 0 < context.precision) (extended : WithZero lefts rights) :
    Alike SameValue (context.sum lefts) (context.sum rights) := by
  obtain ⟨others, nothing, rfl, same, isZero⟩ := extended
  have finite : ∀ value ∈ lefts, value.isFinite := by
    intro value inside
    obtain ⟨_, -, pair⟩ := exists_mem_of_forall₂ same inside
    exact pair.leftFinite
  have sums : Alike SameValue (context.sum lefts) (context.sum others) :=
    Coincide.foldlM same (.refl isFinite_zero) fun _ _ _ _ totals values =>
      (Agree.add precise totals values).alike
  unfold sum at sums ⊢
  rw [List.foldlM_append, ← bind_pure (lefts.foldlM context.add zero)]
  apply (sums.and_left (sum_result precise finite)).bind
  rintro total other ⟨sameTotal, isResult⟩
  have otherResult : context.IsResult other :=
    isResult.of_same sameTotal.rightFinite sameTotal.value.symm
  obtain ⟨sum, added, sameSum⟩ := exists_add_zero precise otherResult isZero
  simp only [List.foldlM_cons, List.foldlM_nil, added]
  exact .values (sameTotal.trans sameSum)

/-- A zero is not above the greatest amount. -/
theorem greatest_alike (amounts : ∀ value ∈ lefts, value.IsAmount)
    (extended : WithZero lefts rights) : Alike SameValue (greatest lefts) (greatest rights) := by
  obtain ⟨others, nothing, rfl, same, isZero⟩ := extended
  have otherFinite : ∀ value ∈ others ++ [nothing], value.isFinite := by
    intro value inside
    rcases List.mem_append.mp inside with among | last
    · obtain ⟨_, -, pair⟩ := exists_mem_of_forall₂ same.flip among
      exact pair.rightFinite
    · rw [List.mem_singleton.mp last]
      exact isZero.finite
  obtain ⟨left, leftFound, leftFinite, leftAbove, leftAmong⟩ :=
    exists_greatest fun value inside => (amounts value inside).finite
  obtain ⟨right, rightFound, rightFinite, rightAbove, rightAmong⟩ := exists_greatest otherFinite
  have nonneg : 0 ≤ left.toRat := by
    rcases leftAmong with ⟨-, rfl⟩ | inside
    · exact toRat_zero.ge
    · exact (amounts left inside).nonneg
  rw [leftFound, rightFound]
  refine .values ⟨leftFinite, rightFinite, le_antisymm ?_ ?_⟩
  · rcases leftAmong with ⟨-, rfl⟩ | inside
    · rw [toRat_zero, ← isZero.value]
      exact rightAbove nothing (List.mem_append_right _ (.head _))
    · obtain ⟨other, among, pair⟩ := exists_mem_of_forall₂ same inside
      exact pair.value.trans_le (rightAbove other (List.mem_append_left _ among))
  · have inside : right ∈ others ++ [nothing] :=
      rightAmong.resolve_left fun none => by simp at none
    rcases List.mem_append.mp inside with among | last
    · obtain ⟨value, matched, pair⟩ := exists_mem_of_forall₂ same.flip among
      exact pair.value.symm.trans_le (leftAbove value matched)
    · rw [List.mem_singleton.mp last, isZero.value]
      exact nonneg

end WithZero

end DepositYield.Decimal
