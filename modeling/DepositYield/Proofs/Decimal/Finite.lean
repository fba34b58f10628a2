import DepositYield.Proofs.Decimal.Scaled
import DepositYield.Proofs.Settling

/-!
# Arithmetic of finite decimals

A calculation with finite decimals gives a finite decimal or overflows.  Comparisons
of them always have an answer, and quotients by zero are guarded.
-/

namespace DepositYield.Decimal

/-- The calculation gives a finite decimal or overflows. -/
abbrev SettlesFinite (calculation : Except Signal Decimal) : Prop :=
  Settles (· = .overflow) (fun decimal => decimal.isFinite = true) calculation

theorem isFinite_zero : zero.isFinite :=
  rfl

theorem isFinite_one : one.isFinite :=
  rfl

section Conversions

variable {context : Context} {calculation : Except Signal Decimal} {number : ℚ}

/-- A calculation gives the rounded number, or the number is very large. -/
theorem Context.Calculates.settles_rounded (calculates : context.Calculates calculation number)
    (precise : 0 < context.precision) :
    Settles (fun signal => signal = .overflow ∧ 10 ^ maxExponent ≤ |number|)
      (fun decimal => decimal.isFinite = true ∧ decimal.toRat = context.rounded number)
      calculation := by
  rcases calculates.ok_or_overflow with ⟨decimal, rfl, finite, value⟩ | ⟨rfl, large⟩
  · exact ⟨finite, value⟩
  · exact ⟨rfl, Context.pow_maxExponent_le precise large⟩

theorem Context.Calculates.settles (calculates : context.Calculates calculation number) :
    SettlesFinite calculation := by
  rcases calculates.ok_or_overflow with ⟨decimal, rfl, finite, -⟩ | ⟨rfl, -⟩
  · exact finite
  · exact rfl

/-- Whatever a calculation gives is the rounded number. -/
theorem Context.Calculates.gives (calculates : context.Calculates calculation number) :
    Gives (fun decimal => decimal.isFinite = true ∧ decimal.toRat = context.rounded number)
      calculation := by
  rcases calculates.ok_or_overflow with ⟨decimal, rfl, finite, value⟩ | ⟨rfl, -⟩
  · exact ⟨finite, value⟩
  · trivial

/-- An amount is converted, or it is very large. -/
theorem Context.ofScaled_converts (precise : 0 < context.precision) (amount : Int) {places : Int}
    (natural : 0 ≤ places) (within : places ≤ maxExponent) :
    Settles (fun signal => signal = .overflow ∧ 10 ^ maxExponent ≤ |(amount : ℚ)|)
      (context.Converts places amount) (context.ofScaled amount places) := by
  have calculates := Context.ofScaled_calculates precise amount natural within
  apply ((calculates.settles_rounded precise).mono _).allow
  · rintro signal ⟨overflows, large⟩
    refine ⟨overflows, large.trans ?_⟩
    rw [abs_div]
    exact div_le_self (abs_nonneg _) ((one_le_zpow₀ (by norm_num) natural).trans (le_abs_self _))
  · rintro decimal ⟨finite, value⟩
    exact ⟨finite, value, fun few => by
      rw [value, Context.rounded_of_fewDigits precise few within]⟩

end Conversions

/-! ## Comparisons -/

section Comparisons

variable {left right : Decimal} (leftFinite : left.isFinite) (rightFinite : right.isFinite)

include leftFinite rightFinite

theorem lt?_settles : Settles (· = .overflow) (fun _ => True) (lt? left right) := by
  rw [lt?_eq leftFinite rightFinite]
  trivial

theorem le?_settles : Settles (· = .overflow) (fun _ => True) (le? left right) := by
  rw [le?_eq leftFinite rightFinite]
  trivial

theorem min?_settles : SettlesFinite (min? left right) := by
  apply (lt?_settles rightFinite leftFinite).bind
  rintro (_ | _) -
  · exact leftFinite
  · exact rightFinite

end Comparisons

theorem greatest_settles {values : List Decimal} (finite : ∀ value ∈ values, value.isFinite) :
    SettlesFinite (greatest values) := by
  cases values with
  | nil => exact rfl
  | cons first rest =>
      apply Settles.foldlM (fun largest : Decimal => largest.isFinite = true)
        (finite first (.head _))
      intro value inside largest largestFinite
      have valueFinite := finite value (.tail _ inside)
      apply (lt?_settles largestFinite valueFinite).bind
      rintro (_ | _) -
      · exact largestFinite
      · exact valueFinite

/-- Going through finite decimals, the greatest one so far is kept. -/
theorem exists_foldlM_greatest {rest : List Decimal} {first : Decimal}
    (firstFinite : first.isFinite) (finite : ∀ value ∈ rest, value.isFinite) :
    ∃ largest, rest.foldlM (fun largest value => do
        return if ← lt? largest value then value else largest) first =
          (.ok largest : Except Signal Decimal) ∧ largest.isFinite ∧
      (∀ value ∈ first :: rest, value.toRat ≤ largest.toRat) ∧ largest ∈ first :: rest := by
  induction rest generalizing first with
  | nil => exact ⟨first, rfl, firstFinite, by simp, by simp⟩
  | cons value rest ih =>
      obtain ⟨valueFinite, restFinite⟩ := List.forall_mem_cons.mp finite
      rw [List.foldlM_cons, lt?_eq firstFinite valueFinite]
      by_cases less : first.toRat < value.toRat
      · obtain ⟨largest, found, largestFinite, above, among⟩ := ih valueFinite restFinite
        simp only [less, decide_true]
        have aboveFirst := less.le.trans (above value (.head _))
        exact ⟨largest, found, largestFinite, List.forall_mem_cons.mpr ⟨aboveFirst, above⟩,
          .tail _ among⟩
      · obtain ⟨largest, found, largestFinite, above, among⟩ := ih firstFinite restFinite
        obtain ⟨aboveFirst, aboveRest⟩ := List.forall_mem_cons.mp above
        simp only [less, decide_false]
        refine ⟨largest, found, largestFinite, ?_, ?_⟩
        · exact List.forall_mem_cons.mpr ⟨aboveFirst,
            List.forall_mem_cons.mpr ⟨(not_lt.mp less).trans aboveFirst, aboveRest⟩⟩
        · rcases List.mem_cons.mp among with same | inside
          · exact same ▸ .head _
          · exact .tail _ (.tail _ inside)

/-- The greatest of finite decimals is one of them, or zero when there are none. -/
theorem exists_greatest {values : List Decimal} (finite : ∀ value ∈ values, value.isFinite) :
    ∃ largest, greatest values = .ok largest ∧ largest.isFinite ∧
      (∀ value ∈ values, value.toRat ≤ largest.toRat) ∧
      (values = [] ∧ largest = zero ∨ largest ∈ values) := by
  cases values with
  | nil => exact ⟨zero, rfl, rfl, by simp, .inl ⟨rfl, rfl⟩⟩
  | cons first rest =>
      obtain ⟨firstFinite, restFinite⟩ := List.forall_mem_cons.mp finite
      obtain ⟨largest, found, largestFinite, above, among⟩ :=
        exists_foldlM_greatest firstFinite restFinite
      exact ⟨largest, found, largestFinite, above, .inr among⟩

/-! ## Operations -/

namespace Context

variable {context : Context}

/-- A guarded quotient by zero is the fallback, whatever is divided. -/
theorem divOr_by_zero (dividend fallback : Decimal) {divisor : Decimal}
    (finite : divisor.isFinite) (isZero : divisor.toRat = 0) :
    context.divOr dividend divisor fallback = .ok fallback := by
  rw [divOr, isZero?_eq finite, decide_eq_true isZero]
  rfl

theorem divOr_by_nonzero (dividend fallback : Decimal) {divisor : Decimal}
    (finite : divisor.isFinite) (nonzero : divisor.toRat ≠ 0) :
    context.divOr dividend divisor fallback = context.div dividend divisor := by
  rw [divOr, isZero?_eq finite, decide_eq_false nonzero]
  rfl

variable (precise : 0 < context.precision)

include precise

section Operations

variable {left right : Decimal} (leftFinite : left.isFinite) (rightFinite : right.isFinite)

include leftFinite rightFinite

theorem add_settles : SettlesFinite (context.add left right) :=
  (add_calculates precise leftFinite rightFinite).settles

theorem sub_settles : SettlesFinite (context.sub left right) :=
  (sub_calculates precise leftFinite rightFinite).settles

theorem mul_settles : SettlesFinite (context.mul left right) :=
  (mul_calculates precise leftFinite rightFinite).settles

theorem div_settles (nonzero : right.toRat ≠ 0) : SettlesFinite (context.div left right) :=
  (div_calculates precise leftFinite rightFinite nonzero).settles

omit precise in
/-- There is no quotient by zero. -/
theorem div_by_zero (isZero : right.toRat = 0) : Gives (fun _ => False) (context.div left right) := by
  obtain ⟨leftNegative, left, leftExponent, rfl⟩ := exists_finite_of_isFinite leftFinite
  obtain ⟨rightNegative, right, rightExponent, rfl⟩ := exists_finite_of_isFinite rightFinite
  obtain rfl := toRat_eq_zero_iff.mp isZero
  trivial

theorem div_gives : Gives (fun decimal => decimal.isFinite = true) (context.div left right) := by
  by_cases isZero : right.toRat = 0
  · exact (div_by_zero leftFinite rightFinite isZero).mono fun _ => False.elim
  · exact (div_settles precise leftFinite rightFinite isZero).gives

end Operations

theorem ofScaled_settles (amount : Int) {places : Int} (natural : 0 ≤ places)
    (within : places ≤ maxExponent) : SettlesFinite (context.ofScaled amount places) :=
  (ofScaled_calculates precise amount natural within).settles

theorem divOr_settles {dividend divisor fallback : Decimal} (dividendFinite : dividend.isFinite)
    (divisorFinite : divisor.isFinite) (fallbackFinite : fallback.isFinite) :
    SettlesFinite (context.divOr dividend divisor fallback) := by
  by_cases isZero : divisor.toRat = 0
  · rw [divOr_by_zero dividend fallback divisorFinite isZero]
    exact fallbackFinite
  · rw [divOr_by_nonzero dividend fallback divisorFinite isZero]
    exact div_settles precise dividendFinite divisorFinite isZero

theorem divOrZero_settles {dividend divisor : Decimal} (dividendFinite : dividend.isFinite)
    (divisorFinite : divisor.isFinite) : SettlesFinite (context.divOrZero dividend divisor) :=
  divOr_settles precise dividendFinite divisorFinite rfl

theorem sum_settles {values : List Decimal} (finite : ∀ value ∈ values, value.isFinite) :
    SettlesFinite (context.sum values) := by
  apply Settles.foldlM (fun total : Decimal => total.isFinite = true) isFinite_zero
  intro value inside total totalFinite
  exact add_settles precise totalFinite (finite value inside)

end Context

end DepositYield.Decimal
