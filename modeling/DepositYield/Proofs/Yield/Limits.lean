import DepositYield.Proofs.Decimal.Alike
import DepositYield.Proofs.Yield.Cover

/-!
# Limits of the seed ratio and the gauge points

In each season the seed ratio is cut off at zero and one, so whatever it started from and
however it drifts, it lies between the two and its scaled form between one half and one.  The
limits are decimals of a single digit, so no rounding takes a result past them, under any
precision.

The weights of the gauge tokens are rounded quotients, so the weight of the bean, a rounded
share of the largest one, is no larger, unless a rule takes points below zero.  The default rule
moves points by one and stays between zero and a thousand.  Points are moved with several gauge
tokens only; what holds of them is kept where they are not.
-/

namespace DepositYield

open Decimal Decimal.Context

namespace Decimal

/-- A finite decimal that lies between two numbers. -/
structure Between (least most : ℚ) (decimal : Decimal) : Prop where
  finite : decimal.isFinite
  atLeast : least ≤ decimal.toRat
  atMost : decimal.toRat ≤ most

theorem Between.isAmount {most : ℚ} {decimal : Decimal} (between : decimal.Between 0 most) :
    decimal.IsAmount :=
  ⟨between.finite, between.atLeast⟩

namespace Context

variable {context : Context} (precise : 0 < context.precision)

include precise

/-- A single digit is not changed by rounding. -/
theorem rounded_digit {digit place : ℤ} (single : |digit| < 10) (above : -999998 ≤ place) :
    context.rounded (digit * 10 ^ place) = digit * 10 ^ place :=
  rounded_of_digits rfl (single.trans_le (le_self_pow₀ (by decide) precise.ne')) (tiny_le above)

theorem rounded_half : context.rounded (1 / 2) = 1 / 2 := by
  have half : (1 / 2 : ℚ) = (5 : ℤ) * 10 ^ (-1 : ℤ) := by norm_num
  rw [half]
  exact rounded_digit precise (by decide) (by decide)

theorem rounded_thousand : context.rounded 1000 = 1000 := by
  have thousand : (1000 : ℚ) = (1 : ℤ) * 10 ^ (3 : ℤ) := by norm_num
  rw [thousand]
  exact rounded_digit precise (by decide) (by decide)

/-- A calculation between two numbers that are not changed by rounding gives a decimal between
them. -/
theorem Calculates.exists_between {calculation : Except Signal Decimal} {number least most : ℚ}
    (calculates : context.Calculates calculation number)
    (leastSettled : context.rounded least = least) (mostSettled : context.rounded most = most)
    (nonneg : 0 ≤ least) (small : most < 10 ^ (maxExponent + 1)) (atLeast : least ≤ number)
    (atMost : number ≤ most) :
    ∃ decimal, calculation = .ok decimal ∧ decimal.Between least most := by
  have above : least ≤ context.rounded number :=
    le_rounded_of_settled precise leastSettled atLeast
  have below : context.rounded number ≤ most :=
    (rounded_mono precise atMost).trans_eq mostSettled
  have within : |context.rounded number| < 10 ^ (maxExponent + 1) := by
    rw [abs_of_nonneg (nonneg.trans above)]
    exact below.trans_lt small
  obtain ⟨decimal, result, finite, value⟩ := calculates.exists_ok within
  exact ⟨decimal, result, finite, value ▸ above, value ▸ below⟩

end Context

end Decimal

variable {context : Context}

/-! ## The ratio -/

/-- A ratio that has moved lies between its limits, whatever it was and whatever it is changed
by. -/
theorem moveRatio_between (ratio change : Decimal) :
    Gives (Between 0 1) (moveRatio context ratio change) := by
  have isOne : one.Between 0 1 := ⟨rfl, toRat_one.symm ▸ zero_le_one, toRat_one.le⟩
  have isZero : zero.Between 0 1 := ⟨rfl, toRat_zero.ge, toRat_zero.symm ▸ zero_le_one⟩
  unfold moveRatio
  apply (Settles.any _).bind
  intro moved _
  cases moved with
  | finite negative coefficient exponent =>
      rw [lt?_eq isFinite_one rfl, toRat_one]
      by_cases above : 1 < (Decimal.finite negative coefficient exponent).toRat
      · simp only [above, decide_true]
        exact isOne
      · simp only [above, decide_false]
        rw [lt?_eq rfl isFinite_zero, toRat_zero]
        by_cases below : (Decimal.finite negative coefficient exponent).toRat < 0
        · simp only [below, decide_true]
          exact isZero
        · simp only [below, decide_false]
          exact ⟨rfl, not_lt.mp below, not_lt.mp above⟩
  | infinite negative =>
      cases negative with
      | false => exact isOne
      | true => exact isZero
  | nan negative signaling payload => trivial

/-- A ratio between its limits is scaled to the upper half of them. -/
theorem exists_scaleRatio (precise : 0 < context.precision) {ratio : Decimal}
    (between : ratio.Between 0 1) :
    ∃ scaled, scaleRatio context ratio = .ok scaled ∧ scaled.Between (1 / 2) 1 := by
  have finite : (Decimal.finite false 5 (-1)).isFinite := rfl
  have half : (Decimal.finite false 5 (-1)).toRat = 1 / 2 := by norm_num [sign]
  have large : (1 : ℚ) < 10 ^ (maxExponent + 1) := one_lt_zpow₀ (by norm_num) (by decide)
  have product := mul_calculates precise finite between.finite
  rw [half] at product
  obtain ⟨share, multiplied, isShare⟩ := product.exists_between precise rounded_zero
    (rounded_half precise) le_rfl (by linarith) (by linarith [between.atLeast])
    (by linarith [between.atMost])
  have sum := add_calculates precise finite isShare.finite
  rw [half] at sum
  obtain ⟨scaled, added, isScaled⟩ := sum.exists_between precise (rounded_half precise)
    (rounded_one precise) (by norm_num) large (by linarith [isShare.atLeast])
    (by linarith [isShare.atMost])
  exact ⟨scaled, bind_eq_ok_iff.mpr ⟨share, multiplied, added⟩, isScaled⟩

/-! ## Points -/

namespace PointRule

/-- What a rule keeps of the points that a token starts with: all of them, or their place between
zero and a thousand.  Of other rules nothing is asked. -/
def Keeps (start : Decimal) : PointRule → Decimal → Prop
  | .identity, points => points = start
  | .default, points => start.Between 0 1000 → points.Between 0 1000
  | .custom _, _ => True

/-- What a token starts with keeps to every rule. -/
theorem keeps_start (rule : PointRule) (start : Decimal) : rule.Keeps start start := by
  cases rule with
  | identity => exact rfl
  | default => exact id
  | custom => trivial

theorem maxPoints_between : maxPoints.Between 0 1000 := by
  have value : maxPoints.toRat = 1000 := by norm_num [maxPoints, sign]
  exact ⟨rfl, by rw [value]; norm_num, value.le⟩

/-- The default rule stays between its limits, whatever share a token has and whatever share is
optimal. -/
theorem applyDefault_between (precise : 0 < context.precision) {points : Decimal}
    (between : points.Between 0 1000) (current optimal : Decimal) :
    Gives (Between 0 1000) (applyDefault context points current optimal) := by
  have large : (1000 : ℚ) < 10 ^ (maxExponent + 1) :=
    calc
      (1000 : ℚ) < 10 ^ (4 : ℤ) := by norm_num
      _ ≤ 10 ^ (maxExponent + 1) := zpow_le_zpow_right₀ (by norm_num) (by decide)
  unfold applyDefault
  apply (Settles.any _).bind
  intro upper _
  apply (Settles.any _).bind
  rintro (_ | _) -
  · apply (Settles.any _).bind
    intro lower _
    apply (Settles.any _).bind
    rintro (_ | _) -
    · exact between
    · apply (add_amounts precise between.isAmount isAmount_one).bind
      rintro raised ⟨raisedAmount, -⟩
      unfold min?
      rw [lt?_eq rfl raisedAmount.finite]
      by_cases above : maxPoints.toRat < raised.toRat
      · simp only [above, decide_true]
        exact maxPoints_between
      · simp only [above, decide_false]
        exact ⟨raisedAmount.finite, raisedAmount.nonneg,
          (not_lt.mp above).trans maxPoints_between.atMost⟩
  · rw [le?_eq between.finite isFinite_one, toRat_one]
    by_cases few : points.toRat ≤ 1
    · simp only [few, decide_true]
      exact ⟨rfl, toRat_zero.ge, by rw [toRat_zero]; norm_num⟩
    · simp only [few, decide_false]
      have difference := sub_calculates precise between.finite isFinite_one
      rw [toRat_one] at difference
      obtain ⟨lowered, result, isLowered⟩ := difference.exists_between precise rounded_zero
        (rounded_thousand precise) le_rfl large (by linarith) (by linarith [between.atMost])
      change Gives _ (context.sub points one)
      rw [result]
      exact isLowered

/-- A rule keeps what it kept before. -/
theorem apply_keeps (precise : 0 < context.precision) {rule : PointRule} {start points : Decimal}
    (keeps : rule.Keeps start points) (current optimal : Decimal) :
    Gives (rule.Keeps start) (rule.apply context points current optimal) := by
  cases rule with
  | identity => exact keeps
  | default =>
      by_cases within : start.Between 0 1000
      · apply (applyDefault_between precise (keeps within) current optimal).mono
        exact fun moved between _ => between
      · exact (Settles.any _).mono fun moved _ starts => absurd starts within
  | custom => exact Settles.any _

end PointRule

/-! ## Scenarios and states -/

/-- The points and the values of the gauge tokens are amounts, those that germinate included. -/
structure GaugeScenario.HasGaugeAmounts (scenario : GaugeScenario) : Prop where
  gaugePoints : ∀ value ∈ scenario.gaugePoints, value.IsAmount
  gaugeValues : ∀ value ∈ scenario.gaugeValues, value.IsAmount
  germinatingGauge : ∀ bucket ∈ scenario.germinatingGauge, ∀ written ∈ bucket, written.ReadsAmount

/-- The points and the values of the gauge tokens are given as amounts. -/
structure WrittenScenario.HasGaugeAmounts (written : WrittenScenario) : Prop where
  gaugePoints : ∀ value ∈ written.gaugePoints, value.ReadsAmount
  gaugeValues : ∀ value ∈ written.gaugeValues, value.ReadsAmount
  germinatingGauge : ∀ bucket ∈ written.germinatingGauge, ∀ written ∈ bucket, written.ReadsAmount

/-- The tokens of a silo keep to their rules, and the largest of their weights is one that a
calculation gives.  Points and weights are amounts as far as the rules keep them so. -/
structure SiloState.KeepsLimits (context : Context) (scenario : GaugeScenario)
    (state : SiloState) : Prop where
  gaugeTokenValues : ∀ value ∈ state.gaugeTokenValues, value.IsAmount
  points : scenario.RulesKeepAmounts → ∀ value ∈ state.points, value.IsAmount
  kept : ∀ (position : Nat) (start : Decimal), scenario.gaugePoints[position]? = some start →
    ∃ points, state.points[position]? = some points ∧
      ∀ rule : PointRule, scenario.rules[position]? = some rule → rule.Keeps start points
  pointsPerValue : scenario.RulesKeepAmounts →
    ∀ value ∈ state.pointsPerValue, value.IsAmount ∧ context.IsResult value
  largest : greatest state.pointsPerValue = .ok state.largestPointsPerValue

/-- The largest weight is an amount that a calculation gives, also when there is no weight. -/
theorem SiloState.KeepsLimits.largest_result {scenario : GaugeScenario} {state : SiloState}
    (keeps : state.KeepsLimits context scenario) (rules : scenario.RulesKeepAmounts) :
    state.largestPointsPerValue.IsAmount ∧ context.IsResult state.largestPointsPerValue := by
  have weights := keeps.pointsPerValue rules
  obtain ⟨largest, found, -, -, ⟨-, rfl⟩ | inside⟩ :=
    exists_greatest fun value among => (weights value among).1.finite
  · rw [keeps.largest] at found
    rw [Except.ok.inj found]
    exact ⟨isAmount_zero, isResult_zero⟩
  · rw [keeps.largest] at found
    rw [Except.ok.inj found]
    exact weights largest inside

namespace GaugeScenario

variable {scenario : GaugeScenario} {state : SiloState} {drift : RatioDrift}
  (precise : 0 < context.precision)

include precise

/-- The weight of the bean exists, and no larger one than that of the gauge tokens does. -/
theorem exists_beanPoints (keeps : state.KeepsLimits context scenario)
    (rules : scenario.RulesKeepAmounts) {scaled : Decimal} (between : scaled.Between (1 / 2) 1) :
    ∃ beanPoints, beanPointsPerValue context state scaled = .ok beanPoints ∧
      beanPoints.AmountAtMost state.largestPointsPerValue := by
  obtain ⟨amount, isResult⟩ := keeps.largest_result rules
  have nonneg : 0 ≤ scaled.toRat := le_trans (by norm_num) between.atLeast
  obtain ⟨beanPoints, result, isBetween⟩ :=
    (mul_calculates precise isResult.finite between.finite).exists_between precise rounded_zero
      isResult.settled le_rfl ((le_abs_self _).trans_lt isResult.within)
      (mul_nonneg amount.nonneg nonneg) (mul_le_of_le_one_right amount.nonneg between.atMost)
  exact ⟨beanPoints, result, ⟨isBetween.finite, isResult.finite, isBetween.atMost⟩,
    isBetween.atLeast⟩

/-! ## A season keeps the limits -/

theorem initial_keeps (amounts : scenario.HasGaugeAmounts) :
    Gives (SiloState.KeepsLimits context scenario) (scenario.initial context) := by
  have weights : Gives (fun quotients => ∀ value ∈ quotients,
      value.IsAmount ∧ context.IsResult value)
      (quotients context scenario.gaugePoints scenario.gaugeValues) := by
    apply Gives.mapM
    rintro ⟨point, value⟩ inside
    have pointAmount := amounts.gaugePoints _ (List.of_mem_zip inside).1
    have valueAmount := amounts.gaugeValues _ (List.of_mem_zip inside).2
    exact (divOrZero_amounts precise pointAmount valueAmount).and
      (divOrZero_result precise pointAmount.finite valueAmount.finite)
  apply weights.bind
  intro pointsPerValue areWeights
  iterate 3 refine (Settles.any _).bind fun _ _ => ?_
  apply (Gives.self (greatest pointsPerValue)).bind
  intro largest isLargest
  exact {
    gaugeTokenValues := amounts.gaugeValues
    points := fun _ => amounts.gaugePoints
    kept := fun position start starts => ⟨start, starts, fun rule _ => rule.keeps_start start⟩
    pointsPerValue := fun _ => areWeights
    largest := isLargest }

/-- What germinates adds to the values and leaves points and weights as they are. -/
theorem mature_keeps (amounts : scenario.HasGaugeAmounts)
    (keeps : state.KeepsLimits context scenario) :
    Gives (SiloState.KeepsLimits context scenario) (mature context scenario state) := by
  iterate 2 refine (Settles.any _).bind fun _ _ => ?_
  have noTokens : Gives (fun values : List Written => ∀ written ∈ values, written.ReadsAmount)
      (pure [] : Except YieldFailure (List Written)) := by
    intro written inside
    cases inside
  apply Settles.ite_bind (fun _ => noTokens)
    (fun _ => entry_gives (germinatingTokens_gives isAmount_zero amounts.germinatingGauge)
      scenario.bucket)
  intro germinatingTokens germinatingAmounts
  apply (matureTokens_amounts precise keeps.gaugeTokenValues germinatingAmounts).bind
  intro gaugeTokenValues gaugeTokenAmounts
  iterate 5 refine (Settles.any _).bind fun _ _ => ?_
  exact { keeps with gaugeTokenValues := gaugeTokenAmounts }

theorem matureIn_keeps (amounts : scenario.HasGaugeAmounts)
    (keeps : state.KeepsLimits context scenario) (season : Nat) :
    Gives (SiloState.KeepsLimits context scenario) (matureIn context scenario season state) := by
  unfold matureIn
  split
  · exact mature_keeps precise amounts keeps
  · exact keeps

/-- The points of a token move by its rule, and its weight is calculated from them. -/
theorem rebalanceToken_keeps (keeps : state.KeepsLimits context scenario) {valueSum : Decimal}
    (sumAmount : valueSum.IsAmount) (position : Nat) :
    Gives
      (fun moved =>
        (scenario.RulesKeepAmounts →
          moved.1.IsAmount ∧ moved.2.IsAmount ∧ context.IsResult moved.2) ∧
        ∀ start, scenario.gaugePoints[position]? = some start →
          ∀ rule : PointRule, scenario.rules[position]? = some rule → rule.Keeps start moved.1)
      (rebalanceToken context scenario state valueSum position) := by
  apply (entry_gives keeps.gaugeTokenValues position).bind
  intro value valueAmount
  apply (divOrZero_amounts precise valueAmount sumAmount).lift.bind
  intro share shareAmount
  apply (mul_amounts precise shareAmount (isAmount_finite 100 0)).lift.bind
  intro percent percentAmount
  apply (entry_holds scenario.rules position).bind
  intro rule isRule
  apply (entry_holds state.points position).bind
  intro points isPoints
  apply (rule_keepsAmounts isRule).bind
  intro optimal keepsAmounts
  apply (Gives.lift (Gives.self (rule.apply context points percent optimal))).bind
  intro moved isMoved
  apply (Gives.lift (Gives.self (context.divOrZero moved value))).bind
  intro quotient isQuotient
  constructor
  · intro rules
    have pointsAmount := keeps.points rules points (List.mem_of_getElem? isPoints)
    have movedAmount :=
      gives_iff.mp (keepsAmounts rules precise pointsAmount percentAmount) moved isMoved
    exact ⟨movedAmount, gives_iff.mp ((divOrZero_amounts precise movedAmount valueAmount).and
      (divOrZero_result precise movedAmount.finite valueAmount.finite)) quotient isQuotient⟩
  · intro start starts other isOther
    obtain rfl := Option.some.inj (isRule.symm.trans isOther)
    obtain ⟨held, isHeld, keptBefore⟩ := keeps.kept position start starts
    obtain rfl := Option.some.inj (isPoints.symm.trans isHeld)
    exact gives_iff.mp (PointRule.apply_keeps precise (keptBefore rule isRule) percent optimal)
      moved isMoved

/-- All points move by their rules and all weights are calculated anew, or none of them. -/
theorem balance_keeps (keeps : state.KeepsLimits context scenario) :
    Gives (SiloState.KeepsLimits context scenario) (balance context scenario state) := by
  unfold balance
  split
  · apply (sum_amounts precise keeps.gaugeTokenValues).lift.bind
    intro valueSum sumAmount
    apply (Settles.mapM fun position _ =>
      rebalanceToken_keeps precise keeps sumAmount position).bind
    intro moved movedKeeps
    have each : ∀ both ∈ moved, scenario.RulesKeepAmounts →
        both.1.IsAmount ∧ both.2.IsAmount ∧ context.IsResult both.2 :=
      (Filled.of_forall₂ (movedKeeps.imp fun _ _ keeps => keeps.1)).each
    apply (Gives.lift (Gives.self (greatest (moved.map Prod.snd)))).bind
    intro largest isLargest
    exact { keeps with
      points := fun rules =>
        List.forall_mem_map.mpr fun both inside => (each both inside rules).1
      kept := by
        intro position start starts
        have within : (List.range scenario.tokenCount)[position]? = some position := by
          obtain ⟨inside, -⟩ := List.getElem?_eq_some_iff.mp starts
          exact List.getElem?_range inside
        obtain ⟨both, isBoth, -, keepsRule⟩ := exists_getElem?_of_forall₂ movedKeeps within
        exact ⟨both.1, by rw [List.getElem?_map, isBoth]; rfl, keepsRule start starts⟩
      pointsPerValue := fun rules =>
        List.forall_mem_map.mpr fun both inside => (each both inside rules).2
      largest := isLargest }
  · exact keeps

omit precise in
/-- The totals grow beside the gauge tokens. -/
theorem grow_keeps (keeps : state.KeepsLimits context scenario) (seedScale scaledRatio : Decimal) :
    Gives (fun next => next.1.KeepsLimits context scenario)
      (grow context scenario seedScale state scaledRatio) := by
  iterate 16 refine (Settles.any _).bind fun _ _ => ?_
  exact { keeps with }

/-- A season of the silo keeps the limits, whatever the ratio is. -/
theorem seasonStep_keeps (amounts : scenario.HasGaugeAmounts)
    (keeps : state.KeepsLimits context scenario) (seedScale : Decimal) (season : Nat) :
    Gives (fun next => next.1.KeepsLimits context scenario)
      (seasonStep context scenario drift seedScale season state) := by
  rw [seasonStep_eq]
  have drifts : Gives (SiloState.KeepsLimits context scenario)
      (driftRatio context drift season state) :=
    (Settles.any _).bind fun _ _ => { keeps with }
  apply drifts.lift.bind
  intro drifted driftedKeeps
  apply (Settles.any _).bind
  intro scaledRatio _
  apply (matureIn_keeps precise amounts driftedKeeps season).bind
  intro matured maturedKeeps
  apply (balance_keeps precise maturedKeeps).bind
  intro balanced balancedKeeps
  exact (grow_keeps balancedKeeps seedScale scaledRatio).lift

/-- The limits are kept at the start of every season. -/
theorem siloAt_keeps (amounts : scenario.HasGaugeAmounts) (seedPrecision : Int) (season : Nat) :
    Gives (SiloState.KeepsLimits context scenario)
      (scenario.siloAt context drift seedPrecision season) := by
  induction season with
  | zero => exact (initial_keeps precise amounts).lift
  | succ season ih =>
      apply ih.bind
      intro state keeps
      apply (seasonStep_keeps precise amounts keeps _ season).bind
      rintro ⟨next, growth⟩ nextKeeps
      exact nextKeeps

/-! ## The seasons of a simulation -/

omit precise in
/-- A silo that gets through a number of seasons gets through each of them. -/
theorem exists_seasonStep_of_growthsFrom {seedPrecision : Int} {season seasons : Nat}
    {growths : List SeasonGrowth}
    (reached : scenario.siloAt context drift seedPrecision season = .ok state)
    (grown : growthsFrom context scenario drift (.ofInt seedPrecision) season seasons state =
      .ok growths) {passed : Nat} (since : season ≤ passed) (within : passed < season + seasons) :
    ∃ before after, scenario.siloAt context drift seedPrecision passed = .ok before ∧
      seasonStep context scenario drift (.ofInt seedPrecision) passed before = .ok after := by
  induction seasons generalizing season state growths with
  | zero => omega
  | succ seasons ih =>
      simp only [growthsFrom, bind_eq_ok_iff] at grown
      obtain ⟨⟨next, first⟩, stepped, later, laterGrown, -⟩ := grown
      rcases since.eq_or_lt with rfl | after
      · exact ⟨state, (next, first), reached, stepped⟩
      · have nextReached :
            scenario.siloAt context drift seedPrecision (season + 1) = .ok next := by
          simp only [siloAt, reached, bind_eq_ok_iff]
          exact ⟨state, rfl, (next, first), stepped, rfl⟩
        exact ih nextReached laterGrown after (by omega)

end GaugeScenario

namespace WrittenScenario

open GaugeScenario

variable {written : WrittenScenario} {scenario : GaugeScenario}

/-- A scenario whose gauge tokens are given in amounts is read into such a scenario. -/
theorem read_gaugeAmounts (amounts : written.HasGaugeAmounts) :
    Gives GaugeScenario.HasGaugeAmounts (written.read context) := by
  iterate 2 refine (Settles.any _).bind fun _ _ => ?_
  apply (Gives.mapM amounts.gaugePoints).bind
  intro gaugePoints pointsAmounts
  apply (Gives.mapM amounts.gaugeValues).bind
  intro gaugeValues valuesAmounts
  iterate 5 refine (Settles.any _).bind fun _ _ => ?_
  exact ⟨pointsAmounts, valuesAmounts, amounts.germinatingGauge⟩

theorem exists_season_of_simulate {drift : RatioDrift} {seasons : Nat}
    {precision seedPrecision : Int} {yields : List AssetGrowth}
    (asked : YieldFailure.context precision = .ok context)
    (isRead : written.read context = .ok scenario)
    (simulated : written.simulate drift seasons precision seedPrecision = .ok yields) {season : Nat}
    (within : season < seasons) :
    ∃ state drifted silo, scenario.siloAt context drift seedPrecision season = .ok state ∧
      driftRatio context drift season state = .ok drifted ∧
      matureIn context scenario season drifted >>= balance context scenario = .ok silo := by
  simp only [simulate, bind_eq_ok_iff, liftM_eq_ok_iff] at simulated
  obtain ⟨assets, -, _, again, _, readAgain, followed⟩ := simulated
  obtain rfl := Except.ok.inj (asked.symm.trans again)
  obtain rfl := Except.ok.inj (isRead.symm.trans readAgain)
  obtain ⟨growths, grown, -⟩ := simulateAssets_eq_ok_iff.mp followed
  obtain ⟨initial, started, grownFrom⟩ := bind_eq_ok_iff.mp grown
  have opened : scenario.siloAt context drift seedPrecision 0 = .ok initial := started
  obtain ⟨state, next, reached, stepped⟩ := exists_seasonStep_of_growthsFrom opened grownFrom
    (Nat.zero_le season) (by omega)
  simp only [seasonStep_eq, bind_eq_ok_iff, liftM_eq_ok_iff] at stepped
  obtain ⟨drifted, drifts, _, -, matured, matures, silo, balances, -⟩ := stepped
  exact ⟨state, drifted, silo, reached, drifts, bind_eq_ok_iff.mpr ⟨matured, matures, balances⟩⟩

/-- Whatever the initial ratio is, however it drifts and under any precision: in every season of a
scenario whose gauge tokens have points and values in amounts, the ratio lies between zero and one
once it has drifted, and its scaled form between one half and one.  Once the points have moved,
the weight of the bean is no larger than the largest one of the gauge tokens, if all rules lead
from amounts to amounts.  Whatever the rules of the other tokens are, a token under the default
rule that starts with points between zero and a thousand has such points, and a token under the
identity has those it started with.  A simulation that goes through has all of its seasons. -/
theorem ratio_and_points_keep_limits (amounts : written.HasGaugeAmounts) {precision : Int}
    (asked : YieldFailure.context precision = .ok context)
    (isRead : written.read context = .ok scenario) (drift : RatioDrift) (seedPrecision : Int) :
    (∀ season state drifted,
      scenario.siloAt context drift seedPrecision season = .ok state →
      driftRatio context drift season state = .ok drifted →
        drifted.ratio.Between 0 1 ∧
        ∃ scaled, scaleRatio context drifted.ratio = .ok scaled ∧ scaled.Between (1 / 2) 1 ∧
          ∀ silo, matureIn context scenario season drifted >>= balance context scenario = .ok silo →
            greatest silo.pointsPerValue = .ok silo.largestPointsPerValue ∧
            (scenario.RulesKeepAmounts →
              ∃ beanPoints, beanPointsPerValue context silo scaled = .ok beanPoints ∧
                beanPoints.AmountAtMost silo.largestPointsPerValue) ∧
            ∀ (position : Nat) (start : Decimal), scenario.gaugePoints[position]? = some start →
              ∃ points, silo.points[position]? = some points ∧
                (scenario.rules[position]? = some .default →
                  start.Between 0 1000 → points.Between 0 1000) ∧
                (scenario.rules[position]? = some .identity → points = start)) ∧
    ∀ seasons yields, written.simulate drift seasons precision seedPrecision = .ok yields →
      ∀ season < seasons, ∃ state drifted silo,
        scenario.siloAt context drift seedPrecision season = .ok state ∧
          driftRatio context drift season state = .ok drifted ∧
          matureIn context scenario season drifted >>= balance context scenario = .ok silo := by
  have precise := gives_iff.mp (YieldFailure.context_gives precision) context asked
  have gaugeAmounts := gives_iff.mp (read_gaugeAmounts amounts) scenario isRead
  refine ⟨?_, fun seasons yields simulated season within =>
    exists_season_of_simulate asked isRead simulated within⟩
  intro season state drifted reached drifts
  have keeps := gives_iff.mp (siloAt_keeps precise gaugeAmounts seedPrecision season) state reached
  obtain ⟨ratio, moved, made⟩ := bind_eq_ok_iff.mp drifts
  obtain rfl := Except.ok.inj made
  have between : ratio.Between 0 1 := gives_iff.mp (moveRatio_between _ _) ratio moved
  have driftedKeeps : { state with ratio }.KeepsLimits context scenario := { keeps with }
  obtain ⟨scaled, isScaled, scaledBetween⟩ := exists_scaleRatio precise between
  refine ⟨between, scaled, isScaled, scaledBetween, ?_⟩
  intro silo balanced
  obtain ⟨matured, matures, balances⟩ := bind_eq_ok_iff.mp balanced
  have maturedKeeps := gives_iff.mp (matureIn_keeps precise gaugeAmounts driftedKeeps season)
    matured matures
  have siloKeeps := gives_iff.mp (balance_keeps precise maturedKeeps) silo balances
  refine ⟨siloKeeps.largest,
    fun rules => exists_beanPoints precise siloKeeps rules scaledBetween, ?_⟩
  intro position start starts
  obtain ⟨points, held, keepsRule⟩ := siloKeeps.kept position start starts
  exact ⟨points, held, keepsRule .default, keepsRule .identity⟩

end WrittenScenario

/-- A silo with three gauge tokens: one just below the most points of the default rule that has
less than its optimal share, one with half a point that has more, and one of many points that
never move.  The ratio starts below zero. -/
def edgeSilo : GaugeScenario where
  assets := [-1, 0, 1, 2]
  optimalPercents := [.value (.finite false 90 0), .value zero, .value zero]
  season := 3
  germinatingBean := [.value one, .value zero]
  germinatingGauge := [[.value one, .value zero, .value zero], []]
  germinatingNonGauge := [.value zero, .value zero]
  staticSeeds := []
  pointRules := [.default, .default, .identity]
  earnedBeans := .finite false 7 0
  catchUpRate := hundred
  gaugePoints := [.finite false 9995 (-1), .finite false 5 (-1), .finite false 2000 0]
  gaugeValues := [.finite false 30 0, .finite false 20 0, .finite false 40 0]
  initialRatio := .finite true 5 0
  beanValue := .finite false 20 0
  nonGaugeValue := .finite false 10 0
  siloStalk := .finite false 900 0

theorem edgeSilo_gaugeAmounts : edgeSilo.written.HasGaugeAmounts where
  gaugePoints := by decide
  gaugeValues := by decide
  germinatingGauge := by decide

theorem edgeSilo_rules : edgeSilo.RulesKeepAmounts := by
  apply GaugeTerms.RulesKeepAmounts.of_forall
  intro rule inside
  obtain rfl | rfl : rule = .default ∨ rule = .identity := by simpa [edgeSilo] using inside
  · exact PointRule.default_keepsAmounts
  · exact PointRule.identity_keepsAmounts

/-- With two digits and an infinite drift, the ratio is one in the second season, the points
that start below a thousand stay there, and those that never move are not rounded. -/
theorem edgeSilo_keeps_limits :
    let context : Context := { precision := 2 }
    let drift : RatioDrift := .constant (.infinite false)
    ∃ state drifted scaled silo beanPoints points,
      edgeSilo.siloAt context drift 10000 1 = .ok state ∧
      GaugeScenario.driftRatio context drift 1 state = .ok drifted ∧
      drifted.ratio.Between 0 1 ∧
      scaleRatio context drifted.ratio = .ok scaled ∧ scaled.Between (1 / 2) 1 ∧
      GaugeScenario.beanPointsPerValue context silo scaled = .ok beanPoints ∧
      beanPoints.AmountAtMost silo.largestPointsPerValue ∧
      silo.points[0]? = some points ∧ points.Between 0 1000 ∧
      silo.points[2]? = some (.finite false 2000 0) := by
  intro context drift
  have isRead : edgeSilo.written.read context = .ok edgeSilo := by
    have settled : (GaugeScenario.quotients context edgeSilo.gaugePoints
        edgeSilo.gaugeValues).isOk := by decide +kernel
    obtain ⟨weights, found⟩ := exists_ok_of_isOk settled
    rw [GaugeScenario.read_written, found]
    rfl
  obtain ⟨yields, simulated⟩ := exists_ok_of_isOk
    (show (edgeSilo.written.simulate drift 2 2 10000).isOk by decide +kernel)
  have asked : YieldFailure.context 2 = .ok context := rfl
  obtain ⟨limits, seasons⟩ :=
    WrittenScenario.ratio_and_points_keep_limits edgeSilo_gaugeAmounts asked isRead drift 10000
  obtain ⟨state, drifted, silo, reached, drifts, balanced⟩ :=
    seasons 2 yields simulated 1 (by decide)
  obtain ⟨ratio, scaled, isScaled, scaledBetween, kept⟩ := limits 1 state drifted reached drifts
  obtain ⟨-, weighs, positions⟩ := kept silo balanced
  obtain ⟨beanPoints, weighed, atMost⟩ := weighs edgeSilo_rules
  obtain ⟨points, held, moves, -⟩ := positions 0 _ rfl
  obtain ⟨_, last, -, stays⟩ := positions 2 _ rfl
  have starts : (Decimal.finite false 9995 (-1)).Between 0 1000 := by
    refine ⟨rfl, ?_, ?_⟩ <;> norm_num [sign]
  exact ⟨state, drifted, scaled, silo, beanPoints, points, reached, drifts, ratio, isScaled,
    scaledBetween, weighed, atMost, held, moves rfl starts, stays rfl ▸ last⟩

/-- A silo with two gauge tokens, whose rule takes ten points from each of them in a season. -/
def drainedSilo : GaugeScenario where
  assets := [-1]
  optimalPercents := [.value (.finite false 50 0), .value (.finite false 50 0)]
  season := 3
  germinatingBean := [.value zero, .value zero]
  germinatingGauge := []
  germinatingNonGauge := [.value zero, .value zero]
  staticSeeds := []
  pointRules := List.replicate 2 (.custom fun context points _ _ =>
    context.sub points (.finite false 10 0))
  earnedBeans := .finite false 7 0
  catchUpRate := hundred
  gaugePoints := [.finite false 5 0, .finite false 3 0]
  gaugeValues := [hundred, hundred]
  initialRatio := .finite false 5 (-1)
  beanValue := .finite false 20 0
  nonGaugeValue := .finite false 10 0
  siloStalk := .finite false 900 0

theorem drainedSilo_gaugeAmounts : drainedSilo.written.HasGaugeAmounts where
  gaugePoints := by decide
  gaugeValues := by decide
  germinatingGauge := List.forall_mem_nil _

/-- Neither the condition on the rules nor that the first ratio is a number can be left out.  A
rule that leads below zero makes all weights negative, and the share of the largest one that the
bean has is then larger.  A ratio that is no number stops the first season before it has moved. -/
theorem drainedSilo_passes_limits :
    let context : Context := { precision := 34 }
    let drift : RatioDrift := .constant RatioDrift.defaultChange
    let unknown : GaugeScenario := { edgeSilo with initialRatio := .nan false false 0 }
    (drainedSilo.written.HasGaugeAmounts ∧
      (drainedSilo.written.simulate drift 1 34 10000).isOk ∧
      ∃ state drifted scaled silo beanPoints,
        drainedSilo.siloAt context drift 10000 0 = .ok state ∧
        GaugeScenario.driftRatio context drift 0 state = .ok drifted ∧
        scaleRatio context drifted.ratio = .ok scaled ∧
        GaugeScenario.matureIn context drainedSilo 0 drifted >>=
          GaugeScenario.balance context drainedSilo = .ok silo ∧
        GaugeScenario.beanPointsPerValue context silo scaled = .ok beanPoints ∧
        silo.largestPointsPerValue.toRat < beanPoints.toRat) ∧
    unknown.written.HasGaugeAmounts ∧
      unknown.written.simulate drift 1 34 10000 = .error (.signal .invalidOperation) := by
  intro context drift unknown
  have weights : (do
      let state ← drainedSilo.siloAt context drift 10000 0
      let drifted ← GaugeScenario.driftRatio context drift 0 state
      let scaled ← scaleRatio context drifted.ratio
      let silo ← GaugeScenario.matureIn context drainedSilo 0 drifted >>=
        GaugeScenario.balance context drainedSilo
      let beanPoints ← GaugeScenario.beanPointsPerValue context silo scaled
      return (beanPoints, silo.largestPointsPerValue) : Except YieldFailure (Decimal × Decimal)) =
        .ok (.finite true 3725 (-5), .finite true 5 (-2)) := by decide +kernel
  obtain ⟨state, reached, weights⟩ := bind_eq_ok_iff.mp weights
  obtain ⟨drifted, drifts, weights⟩ := bind_eq_ok_iff.mp weights
  obtain ⟨scaled, isScaled, weights⟩ := bind_eq_ok_iff.mp weights
  obtain ⟨silo, balanced, weights⟩ := bind_eq_ok_iff.mp weights
  obtain ⟨beanPoints, weighed, weights⟩ := bind_eq_ok_iff.mp weights
  obtain ⟨rfl, largest⟩ := Prod.mk.inj (Except.ok.inj weights)
  refine ⟨⟨drainedSilo_gaugeAmounts, by decide +kernel, state, drifted, scaled, silo, _, reached,
    liftM_eq_ok_iff.mp drifts, liftM_eq_ok_iff.mp isScaled, balanced, liftM_eq_ok_iff.mp weighed,
    ?_⟩, { edgeSilo_gaugeAmounts with }, by decide +kernel⟩
  rw [largest]
  norm_num [toRat_finite, sign]

end DepositYield
