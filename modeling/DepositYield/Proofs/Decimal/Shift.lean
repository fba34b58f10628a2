import DepositYield.Proofs.Decimal.Alike

/-!
# Moving decimals up by places

A calculation is carried out twice, the second time with some operands multiplied by a power
of ten.  Rounding commutes with the power of ten as long as no digit is lost below the least
exponent.  A sum never loses one, as its operands have none there; a product may.  A quotient
of operands that are moved by the same places stays where it is.
-/

namespace DepositYield.Decimal

theorem log_mul_pow_ten {number : ℚ} (positive : 0 < number) (places : ℕ) :
    Int.log 10 (number * 10 ^ places) = Int.log 10 number + places := by
  have moved : 0 < number * 10 ^ places := by positivity
  have least : (10 : ℚ) ^ Int.log 10 number ≤ number :=
    Int.zpow_log_le_self (b := 10) (by decide) positive
  have most : number < (10 : ℚ) ^ (Int.log 10 number + 1) :=
    Int.lt_zpow_succ_log_self (b := 10) (by decide) number
  have lower : (10 : ℚ) ^ (Int.log 10 number + places) ≤ number * 10 ^ places := by
    rw [zpow_add₀ (by norm_num), zpow_natCast]
    gcongr
  have upper : number * 10 ^ places < (10 : ℚ) ^ (Int.log 10 number + 1 + places) := by
    rw [zpow_add₀ (by norm_num) _ (places : ℤ), zpow_natCast]
    gcongr
  have atLeast := (Int.zpow_le_iff_le_log (b := 10) (by decide) moved).mp lower
  have below := (Int.lt_zpow_iff_log_lt (b := 10) (by decide) moved).mp upper
  omega

namespace Context

variable {context : Context} {places : ℕ} {number other : ℚ}

/-! ## Rounding -/

/-- Rounding the number commutes with moving it up. -/
def Scales (context : Context) (places : ℕ) (number : ℚ) : Prop :=
  context.rounded (number * 10 ^ places) = context.rounded number * 10 ^ places

/-- A number that is not subnormal keeps the same digits when it is moved up. -/
theorem scales_of_normal (normal : 10 ^ minExponent ≤ |number|) :
    context.Scales places number := by
  have positive : 0 < |number| := lt_of_lt_of_le (by positivity) normal
  have high : minExponent ≤ Int.log 10 |number| :=
    (Int.zpow_le_iff_le_log (by decide) positive).mp (by exact_mod_cast normal)
  have tiny := context.tiny_eq
  have last : context.lastPlace (number * 10 ^ places) = context.lastPlace number + places := by
    have power : |(10 : ℚ) ^ places| = 10 ^ places := abs_of_pos (by positivity)
    unfold lastPlace
    rw [abs_mul, power, log_mul_pow_ten positive]
    omega
  have scaled : number * 10 ^ places / 10 ^ (context.lastPlace number + places) =
      number / 10 ^ context.lastPlace number := by
    rw [zpow_add₀ (by norm_num), zpow_natCast]
    field_simp
  unfold Scales rounded
  rw [last, scaled, zpow_add₀ (by norm_num), zpow_natCast, mul_assoc]

/-- The number has no digits below the least exponent. -/
def IsMultiple (context : Context) (number : ℚ) : Prop :=
  ∃ whole : ℤ, number = whole * 10 ^ context.tiny

theorem isMultiple_of_le (digits : ℤ) {place : ℤ} (le : context.tiny ≤ place) :
    context.IsMultiple (digits * 10 ^ place) := by
  refine ⟨digits * 10 ^ (place - context.tiny).toNat, ?_⟩
  push_cast
  rw [mul_assoc, pow_toNat_mul_zpow le]

/-- What rounding does not change has no digits below the least exponent. -/
theorem isMultiple_of_settled (precise : 0 < context.precision)
    (settled : context.rounded number = number) : context.IsMultiple number := by
  obtain ⟨digits, place, value, -, le⟩ := exists_digits_rounded precise number
  rw [← settled, value]
  exact isMultiple_of_le digits le

theorem IsMultiple.add (left : context.IsMultiple number) (right : context.IsMultiple other) :
    context.IsMultiple (number + other) := by
  obtain ⟨whole, rfl⟩ := left
  obtain ⟨more, rfl⟩ := right
  exact ⟨whole + more, by push_cast; ring⟩

/-- A number without digits below the least exponent is moved up with all of its digits. -/
theorem IsMultiple.scales (multiple : context.IsMultiple number) (places : ℕ) :
    context.Scales places number := by
  by_cases normal : 10 ^ minExponent ≤ |number|
  · exact scales_of_normal normal
  obtain ⟨whole, isWhole⟩ := multiple
  have tiny := context.tiny_eq
  -- a subnormal number of this kind has so few digits that nothing is rounded
  have few : |whole| < 10 ^ context.precision := by
    have unit : |(10 : ℚ) ^ context.tiny| = 10 ^ context.tiny := abs_of_pos (by positivity)
    have small : |(whole : ℚ)| * 10 ^ context.tiny < 10 ^ context.precision * 10 ^ context.tiny :=
      calc
        |(whole : ℚ)| * 10 ^ context.tiny = |number| := by rw [isWhole, abs_mul, unit]
        _ < 10 ^ minExponent := not_le.mp normal
        _ ≤ 10 ^ (context.precision + context.tiny) :=
          zpow_le_zpow_right₀ (by norm_num) (by omega)
        _ = 10 ^ context.precision * 10 ^ context.tiny := by
          rw [zpow_add₀ (by norm_num), zpow_natCast]
    exact_mod_cast lt_of_mul_lt_mul_right small (by positivity)
  have moved : number * 10 ^ places = whole * 10 ^ (context.tiny + places) := by
    rw [isWhole, zpow_add₀ (by norm_num), zpow_natCast, mul_assoc]
  unfold Scales
  rw [rounded_of_digits moved few (by omega), rounded_of_digits isWhole few le_rfl]

theorem scales_zero_places (number : ℚ) : context.Scales 0 number := by
  unfold Scales
  rw [pow_zero, mul_one, mul_one]

theorem IsMultiple.mul_pow (multiple : context.IsMultiple number) (places : ℕ) :
    context.IsMultiple (number * 10 ^ places) := by
  obtain ⟨whole, rfl⟩ := multiple
  exact ⟨whole * 10 ^ places, by push_cast; ring⟩

/-- The exact product loses no digit below the least exponent. -/
def KeepsProduct (context : Context) : Decimal → Decimal → Prop
  | .finite _ left leftExponent, .finite _ right rightExponent =>
      left * right = 0 ∨ context.tiny ≤ leftExponent + rightExponent ∨
        minExponent ≤ leftExponent + rightExponent + digitCount (left * right) - 1
  | _, _ => True

instance (context : Context) : DecidableRel context.KeepsProduct
  | .finite _ left leftExponent, .finite _ right rightExponent =>
      inferInstanceAs (Decidable (left * right = 0 ∨ context.tiny ≤ leftExponent + rightExponent ∨
        minExponent ≤ leftExponent + rightExponent + digitCount (left * right) - 1))
  | .finite _ _ _, .infinite _ => isTrue trivial
  | .finite _ _ _, .nan _ _ _ => isTrue trivial
  | .infinite _, _ => isTrue trivial
  | .nan _ _ _, _ => isTrue trivial

theorem KeepsProduct.scales {left right : Decimal} (keeps : context.KeepsProduct left right)
    (places : ℕ) : context.Scales places (left.toRat * right.toRat) := by
  have nothing : context.Scales places 0 := by simp [Scales]
  cases left with
  | infinite => simpa [toRat] using nothing
  | nan => simpa [toRat] using nothing
  | finite leftNegative left leftExponent =>
  cases right with
  | infinite => simpa [toRat] using nothing
  | nan => simpa [toRat] using nothing
  | finite rightNegative right rightExponent =>
  have product : (finite leftNegative left leftExponent).toRat *
      (finite rightNegative right rightExponent).toRat =
        sign (leftNegative != rightNegative) *
          ((left * right : ℕ) * 10 ^ (leftExponent + rightExponent)) := by
    rw [sign_bne, zpow_add₀ (by norm_num)]
    push_cast [toRat_finite]
    ring
  rw [product]
  by_cases isZero : left * right = 0
  · rw [isZero]
    simpa using nothing
  rcases keeps.resolve_left isZero with exact | normal
  · refine IsMultiple.scales ?_ places
    rcases sign_eq_or (leftNegative != rightNegative) with same | opposite
    · rw [same, one_mul, ← Int.cast_natCast]
      exact isMultiple_of_le _ exact
    · rw [opposite, neg_one_mul, ← neg_mul, ← Int.cast_natCast, ← Int.cast_neg]
      exact isMultiple_of_le _ exact
  · apply scales_of_normal
    rw [abs_mul, abs_sign, one_mul, abs_of_nonneg (by positivity)]
    exact (zpow_le_zpow_right₀ (by norm_num) normal).trans (pow_le_mul_pow isZero _)

end Context

/-! ## Decimals -/

/-- The right decimal is the left one moved up by places.  A special value stays what it is. -/
inductive Shifted (places : ℕ) : Decimal → Decimal → Prop where
  | finite {left right : Decimal} (leftFinite : left.isFinite) (rightFinite : right.isFinite)
      (value : right.toRat = left.toRat * 10 ^ places) : Shifted places left right
  | special {decimal : Decimal} (isSpecial : decimal.isFinite = false) :
      Shifted places decimal decimal

namespace Shifted

variable {places : ℕ} {left right : Decimal}

theorem refl (decimal : Decimal) : Shifted 0 decimal decimal := by
  by_cases finite : decimal.isFinite
  · exact .finite finite finite (by rw [pow_zero, mul_one])
  · exact .special (Bool.eq_false_iff.mpr finite)

theorem of_sameValue (same : SameValue left right) : Shifted 0 left right :=
  .finite same.leftFinite same.rightFinite (by rw [same.value, pow_zero, mul_one])

theorem sameValue (shifted : Shifted 0 left right) (finite : left.isFinite) :
    SameValue left right := by
  cases shifted with
  | finite leftFinite rightFinite value =>
      exact ⟨leftFinite, rightFinite, by rw [value, pow_zero, mul_one]⟩
  | special isSpecial => exact .refl finite

theorem isFinite_eq (shifted : Shifted places left right) : left.isFinite = right.isFinite := by
  cases shifted with
  | finite leftFinite rightFinite => rw [leftFinite, rightFinite]
  | special => rfl

theorem value (shifted : Shifted places left right) :
    right.toRat = left.toRat * 10 ^ places := by
  cases shifted with
  | finite _ _ value => exact value
  | special isSpecial => cases left <;> simp_all [isFinite, toRat]

/-- A finite decimal is zero if it is when moved up, and keeps its sign otherwise. -/
theorem coefficients {leftNegative rightNegative : Bool} {leftCoefficient rightCoefficient : Nat}
    {leftExponent rightExponent : Int}
    (shifted : Shifted places (.finite leftNegative leftCoefficient leftExponent)
      (.finite rightNegative rightCoefficient rightExponent)) :
    (leftCoefficient = 0 ↔ rightCoefficient = 0) ∧
      (leftCoefficient ≠ 0 → leftNegative = rightNegative) := by
  have value := shifted.value
  have zeros : leftCoefficient = 0 ↔ rightCoefficient = 0 := by
    have isZero : (Decimal.finite rightNegative rightCoefficient rightExponent).toRat = 0 ↔
        (Decimal.finite leftNegative leftCoefficient leftExponent).toRat = 0 := by
      rw [value]
      simp
    rw [toRat_eq_zero_iff, toRat_eq_zero_iff] at isZero
    exact isZero.symm
  refine ⟨zeros, fun present => ?_⟩
  have otherPresent : rightCoefficient ≠ 0 := present ∘ zeros.mpr
  have leftPositive : (0 : ℚ) < leftCoefficient * 10 ^ leftExponent * 10 ^ places := by positivity
  have rightPositive : (0 : ℚ) < rightCoefficient * 10 ^ rightExponent := by positivity
  by_contra differ
  obtain rfl : rightNegative = !leftNegative := Bool.eq_not_of_ne (Ne.symm differ)
  rw [toRat_finite, toRat_finite, sign_not, mul_assoc] at value
  rcases sign_eq_or leftNegative with same | opposite
  · rw [same] at value
    linarith
  · rw [opposite] at value
    linarith

/-- What an operation makes of a special operand and a finite one depends on no more of the finite
one than its sign and whether it is zero. -/
def ReadsSigns (operation : Decimal → Decimal → Except Signal Decimal) : Prop :=
  ∀ special : Decimal, special.isFinite = false →
    ∀ {negative otherNegative : Bool} {coefficient other : Nat} {exponent otherExponent : Int},
      (coefficient = 0 ↔ other = 0) → (coefficient ≠ 0 → negative = otherNegative) →
        operation special (.finite negative coefficient exponent) =
            operation special (.finite otherNegative other otherExponent) ∧
          operation (.finite negative coefficient exponent) special =
            operation (.finite otherNegative other otherExponent) special

/-- Such an operation is not changed by moving operands up beside a special one. -/
theorem eq_of_special {operation : Decimal → Decimal → Except Signal Decimal}
    (reads : ReadsSigns operation) {more : ℕ} {leftOther rightOther : Decimal}
    (leftShifted : Shifted places left leftOther) (rightShifted : Shifted more right rightOther)
    (isSpecial : left.isFinite = false ∨ right.isFinite = false) :
    operation left right = operation leftOther rightOther := by
  cases leftShifted with
  | special leftSpecial =>
      cases rightShifted with
      | special => rfl
      | finite rightFinite otherFinite value =>
          obtain ⟨_, _, _, rfl⟩ := exists_finite_of_isFinite rightFinite
          obtain ⟨_, _, _, rfl⟩ := exists_finite_of_isFinite otherFinite
          have same := (Shifted.finite rightFinite otherFinite value).coefficients
          exact (reads left leftSpecial same.1 same.2).1
  | finite leftFinite otherFinite value =>
      cases rightShifted with
      | finite rightFinite => simp [leftFinite, rightFinite] at isSpecial
      | special rightSpecial =>
          obtain ⟨_, _, _, rfl⟩ := exists_finite_of_isFinite leftFinite
          obtain ⟨_, _, _, rfl⟩ := exists_finite_of_isFinite otherFinite
          have same := (Shifted.finite leftFinite otherFinite value).coefficients
          exact (reads right rightSpecial same.1 same.2).2

/-- A calculation that gives special values only is not changed by moving it up. -/
theorem coincide_special {calculation : Except Signal Decimal}
    (gives : Gives (fun decimal => decimal.isFinite = false) calculation)
    {excused : Signal → Prop} :
    Coincide excused excused (Shifted places) calculation calculation := by
  apply (Coincide.same_of_gives gives).mono
  rintro decimal _ ⟨rfl, isSpecial⟩
  exact .special isSpecial

end Shifted

/-- The decimals are finite and have one value, or they are the same special value. -/
def SameNumber (left right : Decimal) : Prop :=
  SameValue left right ∨ left = right

theorem SameNumber.symm {left right : Decimal} (same : SameNumber left right) :
    SameNumber right left := by
  rcases same with ⟨leftFinite, rightFinite, value⟩ | rfl
  · exact .inl ⟨rightFinite, leftFinite, value.symm⟩
  · exact .inr rfl

theorem Shifted.sameNumber {left right : Decimal} (shifted : Shifted 0 left right) :
    SameNumber left right := by
  by_cases finite : left.isFinite
  · exact .inl (shifted.sameValue finite)
  · cases shifted with
    | finite leftFinite => exact absurd leftFinite finite
    | special => exact .inr rfl

/-- The calculations give related values or stop for the same signal, unless one of them
overflows. -/
abbrev AlikeWithin {First Second : Type} (related : First → Second → Prop) :
    Except Signal First → Except Signal Second → Prop :=
  Coincide (· = .overflow) (· = .overflow) related

namespace Context

variable {context : Context} {places more : ℕ} {left leftOther right rightOther : Decimal}

/-! ## Operations -/

/-- A calculation of a number and one of the number moved up give such decimals. -/
theorem Calculates.shifted {calculation other : Except Signal Decimal} {number : ℚ}
    (calculates : context.Calculates calculation number)
    (otherCalculates : context.Calculates other (number * 10 ^ places))
    (scales : context.Scales places number) {excused : Signal → Prop}
    (isExcused : excused .overflow) :
    Coincide excused excused (Shifted places) calculation other := by
  rcases calculates.ok_or_overflow with ⟨decimal, rfl, finite, value⟩ | ⟨rfl, -⟩
  · rcases otherCalculates.ok_or_overflow with ⟨moved, rfl, movedFinite, movedValue⟩ | ⟨rfl, -⟩
    · exact .values (.finite finite movedFinite (by rw [movedValue, scales, value]))
    · exact .excuseRight isExcused _
  · exact .excuseLeft isExcused _

/-- If the exact result is moved up with the operands and can be rounded there, so is the
result.  A special operand makes the result special. -/
theorem operation_shifted {operation : Decimal → Decimal → Except Signal Decimal}
    {exact : ℚ → ℚ → ℚ} (reads : Shifted.ReadsSigns operation)
    (gives : ∀ {left right : Decimal}, left.isFinite = false ∨ right.isFinite = false →
      Gives (fun decimal => decimal.isFinite = false) (operation left right))
    (calculates : ∀ {left right : Decimal}, left.isFinite → right.isFinite →
      context.Calculates (operation left right) (exact left.toRat right.toRat))
    (leftShifted : Shifted more left leftOther) (rightShifted : Shifted places right rightOther)
    (moved : exact leftOther.toRat rightOther.toRat = exact left.toRat right.toRat * 10 ^ places)
    (scales : context.Scales places (exact left.toRat right.toRat)) :
    AlikeWithin (Shifted places) (operation left right) (operation leftOther rightOther) := by
  by_cases finite : left.isFinite = true ∧ right.isFinite = true
  · have otherCalculates := calculates (leftShifted.isFinite_eq ▸ finite.1)
      (rightShifted.isFinite_eq ▸ finite.2)
    rw [moved] at otherCalculates
    exact (calculates finite.1 finite.2).shifted otherCalculates scales rfl
  · have isSpecial : left.isFinite = false ∨ right.isFinite = false := by grind
    rw [← Shifted.eq_of_special reads leftShifted rightShifted isSpecial]
    exact Shifted.coincide_special (gives isSpecial)

/-! ### Products -/

theorem mul_gives_special (isSpecial : left.isFinite = false ∨ right.isFinite = false) :
    Gives (fun decimal => decimal.isFinite = false) (context.mul left right) := by
  -- each operand is finite, infinite, or a NaN that is quiet or signals
  rcases left with _ | _ | ⟨_, _ | _, _⟩ <;> rcases right with _ | _ | ⟨_, _ | _, _⟩ <;>
    simp only [isFinite, mul, passNaN?] at isSpecial ⊢ <;> grind [Settles, isFinite]

theorem mul_readsSigns : Shifted.ReadsSigns context.mul := by
  intro special isSpecial _ _ _ _ _ _ zeros signs
  rcases special with _ | _ | ⟨_, _ | _, _⟩ <;> simp only [mul, passNaN?] <;> grind [isFinite]

theorem mul_shifted (precise : 0 < context.precision) (leftShifted : Shifted 0 left leftOther)
    (rightShifted : Shifted places right rightOther)
    (scales : context.Scales places (left.toRat * right.toRat)) :
    AlikeWithin (Shifted places) (context.mul left right)
      (context.mul leftOther rightOther) := by
  refine operation_shifted mul_readsSigns mul_gives_special (mul_calculates precise) leftShifted
    rightShifted ?_ scales
  rw [leftShifted.value, rightShifted.value]
  ring

/-! ### Sums and differences -/

theorem add_gives_special (isSpecial : left.isFinite = false ∨ right.isFinite = false) :
    Gives (fun decimal => decimal.isFinite = false) (context.add left right) := by
  rcases left with _ | _ | ⟨_, _ | _, _⟩ <;> rcases right with _ | _ | ⟨_, _ | _, _⟩ <;>
    simp only [isFinite, add, passNaN?] at isSpecial ⊢ <;> grind [Settles, isFinite]

theorem add_readsSigns : Shifted.ReadsSigns context.add := by
  intro special isSpecial _ _ _ _ _ _ zeros signs
  rcases special with _ | _ | ⟨_, _ | _, _⟩ <;> first | contradiction | exact ⟨rfl, rfl⟩

theorem add_shifted (precise : 0 < context.precision) (leftShifted : Shifted places left leftOther)
    (rightShifted : Shifted places right rightOther)
    (scales : context.Scales places (left.toRat + right.toRat)) :
    AlikeWithin (Shifted places) (context.add left right) (context.add leftOther rightOther) := by
  refine operation_shifted add_readsSigns add_gives_special (add_calculates precise) leftShifted
    rightShifted ?_ scales
  rw [leftShifted.value, rightShifted.value]
  ring

theorem sub_shifted (precise : 0 < context.precision) (leftShifted : Shifted 0 left leftOther)
    (right : Decimal) :
    AlikeWithin (Shifted 0) (context.sub left right) (context.sub leftOther right) := by
  unfold sub
  split
  · exact add_shifted precise leftShifted (.refl _) (scales_zero_places _)
  · exact add_shifted precise leftShifted (.refl _) (scales_zero_places _)

/-! ### Quotients -/

theorem div_gives_special (leftSpecial : left.isFinite = false) (rightFinite : right.isFinite) :
    Gives (fun decimal => decimal.isFinite = false) (context.div left right) := by
  obtain ⟨_, _, _, rfl⟩ := exists_finite_of_isFinite rightFinite
  rcases left with _ | _ | ⟨_, _ | _, _⟩ <;> first | contradiction | trivial

/-- A special dividend takes no more of the divisor than its sign. -/
theorem div_eq_of_special (leftSpecial : left.isFinite = false) (negative : Bool)
    (coefficient other : Nat) (exponent otherExponent : Int) :
    context.div left (.finite negative coefficient exponent) =
      context.div left (.finite negative other otherExponent) := by
  rcases left with _ | _ | ⟨_, _ | _, _⟩ <;> first | contradiction | rfl

theorem div_shifted (precise : 0 < context.precision) (leftShifted : Shifted places left leftOther)
    (rightShifted : Shifted places right rightOther) (nonzero : right.toRat ≠ 0) :
    AlikeWithin (Shifted 0) (context.div left right) (context.div leftOther rightOther) := by
  cases rightShifted with
  | special isSpecial => cases right <;> contradiction
  | finite rightFinite otherFinite rightValue =>
  have otherNonzero : rightOther.toRat ≠ 0 := by
    rw [rightValue]
    positivity
  cases leftShifted with
  | finite leftFinite leftOtherFinite leftValue =>
      have calculates := div_calculates precise leftOtherFinite otherFinite otherNonzero
      have quotient : leftOther.toRat / rightOther.toRat =
          left.toRat / right.toRat * 10 ^ 0 := by
        rw [leftValue, rightValue, pow_zero, mul_one]
        field_simp
      rw [quotient] at calculates
      exact (div_calculates precise leftFinite rightFinite nonzero).shifted calculates
        (scales_zero_places _) rfl
  | special isSpecial =>
      have gives : Gives (fun decimal => decimal.isFinite = false) (context.div left right) :=
        div_gives_special isSpecial rightFinite
      obtain ⟨_, _, _, rfl⟩ := exists_finite_of_isFinite rightFinite
      obtain ⟨_, _, _, rfl⟩ := exists_finite_of_isFinite otherFinite
      obtain ⟨-, sameSign⟩ := (Shifted.finite rightFinite otherFinite rightValue).coefficients
      obtain rfl := sameSign fun isZero => nonzero (toRat_eq_zero_iff.mpr isZero)
      rw [div_eq_of_special isSpecial] at gives ⊢
      exact Shifted.coincide_special gives

theorem divOrZero_shifted (precise : 0 < context.precision) (leftShifted : Shifted 0 left leftOther)
    (right : Decimal) :
    AlikeWithin (Shifted 0) (context.divOrZero left right) (context.divOrZero leftOther right) := by
  have same : ∀ calculation : Except Signal Decimal,
      AlikeWithin (Shifted 0) calculation calculation := fun calculation =>
    (Coincide.same calculation).mono fun decimal _ equal => equal ▸ .refl decimal
  cases leftShifted with
  | special => exact same _
  | finite leftFinite otherFinite value =>
      have sameValue := (Shifted.finite leftFinite otherFinite value).sameValue leftFinite
      obtain ⟨_, _, _, rfl⟩ := exists_finite_of_isFinite leftFinite
      obtain ⟨_, _, _, rfl⟩ := exists_finite_of_isFinite otherFinite
      cases right with
      | finite negative coefficient exponent =>
          have alike := divOrZero_alike precise sameValue
            (.refl (show (Decimal.finite negative coefficient exponent).isFinite from rfl))
          exact (alike.allow (fun _ none => none.elim) fun _ none => none.elim).mono fun _ _ => .of_sameValue
      | infinite => exact .values (.finite rfl rfl (by simp))
      | nan negative signaling payload => cases signaling <;> exact same _

/-! ## Settled decimals -/

/-- Rounding does not change the decimal. -/
def IsSettled (context : Context) (decimal : Decimal) : Prop :=
  context.rounded decimal.toRat = decimal.toRat

theorem isSettled_of_zero {decimal : Decimal} (isZero : decimal.toRat = 0) :
    context.IsSettled decimal := by
  rw [IsSettled, isZero, rounded_zero]

theorem isSettled_of_special {decimal : Decimal} (isSpecial : decimal.isFinite = false) :
    context.IsSettled decimal := by
  apply isSettled_of_zero
  cases decimal <;> first | contradiction | rfl

/-- A product is settled. -/
theorem mul_settled (precise : 0 < context.precision) (left right : Decimal) :
    Gives context.IsSettled (context.mul left right) := by
  by_cases finite : left.isFinite = true ∧ right.isFinite = true
  · exact ((mul_calculates precise finite.1 finite.2).gives_result precise).mono
      fun _ => IsResult.settled
  · have isSpecial : left.isFinite = false ∨ right.isFinite = false := by grind
    exact (mul_gives_special isSpecial).mono fun _ => isSettled_of_special

/-- The sum of settled decimals is moved up with them. -/
theorem add_settled_shifted (precise : 0 < context.precision)
    (leftShifted : Shifted places left leftOther) (rightShifted : Shifted places right rightOther)
    (leftSettled : context.IsSettled left) (rightSettled : context.IsSettled right) :
    AlikeWithin (Shifted places) (context.add left right) (context.add leftOther rightOther) :=
  add_shifted precise leftShifted rightShifted
    (((isMultiple_of_settled precise leftSettled).add
      (isMultiple_of_settled precise rightSettled)).scales places)

/-! ## Powers of ten -/

theorem ofInt_pow_shifted (power places : ℕ) :
    Shifted places (.ofInt (10 ^ power)) (.ofInt (10 ^ (power + places))) := by
  refine .finite (isFinite_ofInt _) (isFinite_ofInt _) ?_
  rw [toRat_ofInt, toRat_ofInt]
  push_cast
  rw [pow_add]

/-- A settled decimal that is multiplied by a greater power of ten is moved up. -/
theorem mul_pow_shifted (precise : 0 < context.precision) {decimal : Decimal}
    (settled : context.IsSettled decimal) (power places : ℕ) :
    AlikeWithin (fun moved further => Shifted places moved further ∧ context.IsSettled moved)
      (context.mul decimal (.ofInt (10 ^ power)))
      (context.mul decimal (.ofInt (10 ^ (power + places)))) := by
  have multiple := (isMultiple_of_settled precise settled).mul_pow power
  refine (mul_shifted precise (.refl decimal) (ofInt_pow_shifted power places) ?_).and_left
    (mul_settled precise _ _)
  rw [toRat_ofInt]
  push_cast
  exact multiple.scales places

end Context

end DepositYield.Decimal
