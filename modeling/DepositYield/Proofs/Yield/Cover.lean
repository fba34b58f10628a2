import DepositYield.Proofs.Decimal.Amount
import DepositYield.Proofs.Yield.Finite

/-!
# Stalk covers value

A silo is covered if it has at least as much stalk as deposited value.  A covered silo of
amounts grows stalk, and no rounding takes it below its value again: stalk and value are
advanced by different sums, but the value was rounded before, so the rounded stalk cannot
fall short of it, and the same beans are added to both.

Only germinating value can put the value ahead of the stalk.  It becomes live in the first
two seasons, so a silo that is covered in those once their value is live is covered in all
seasons.  This holds for any drift of the seed ratio and for any optimal shares, infinite
ones and those that are no numbers included: a season either stops at them or compares with
them.
-/

namespace DepositYield

open Decimal Decimal.Context

/-- The given decimal is an amount if it can be read. -/
abbrev Decimal.Written.ReadsAmount (written : Written) : Prop :=
  Gives IsAmount written.read

/-! ## Scenarios and states in amounts -/

/-- A rule that moves amounts of points to amounts only, as long as the share of the token is an
amount and its optimal share the given one. -/
def PointRule.KeepsAmounts (rule : PointRule) (optimal : Decimal) : Prop :=
  ∀ ⦃context : Context⦄, 0 < context.precision →
    ∀ ⦃points current : Decimal⦄, points.IsAmount → current.IsAmount →
      Gives IsAmount (rule.apply context points current optimal)

/-- Every rule keeps the points of its token in amounts at the optimal share of that token. -/
def GaugeTerms.RulesKeepAmounts (terms : GaugeTerms) : Prop :=
  ∀ (position : Nat) (rule : PointRule), terms.pointRules[position]? = some rule →
    ∀ optimal : Written, terms.optimalPercents[position]? = some optimal →
      Gives rule.KeepsAmounts optimal.read

theorem GaugeTerms.RulesKeepAmounts.of_forall {terms : GaugeTerms}
    (each : ∀ rule ∈ terms.pointRules, ∀ optimal, rule.KeepsAmounts optimal) :
    terms.RulesKeepAmounts :=
  fun _ rule isRule _ _ => gives_iff.mpr fun optimal _ =>
    each rule (List.mem_of_getElem? isRule) optimal

/-- What germinates and the fixed seeds are amounts, and the rules keep the points so. -/
structure GaugeTerms.HasAmounts (terms : GaugeTerms) : Prop where
  germinatingBean : ∀ written ∈ terms.germinatingBean, written.ReadsAmount
  germinatingGauge : ∀ bucket ∈ terms.germinatingGauge, ∀ written ∈ bucket, written.ReadsAmount
  germinatingNonGauge : ∀ written ∈ terms.germinatingNonGauge, written.ReadsAmount
  staticSeeds : ∀ seeds, some seeds ∈ terms.staticSeeds → seeds.ReadsAmount
  pointRules : terms.RulesKeepAmounts

/-- A scenario in amounts.  Its seed ratio and optimal shares may be any decimals. -/
structure GaugeScenario.HasAmounts (scenario : GaugeScenario) : Prop extends
    scenario.toGaugeTerms.HasAmounts where
  earnedBeans : scenario.earnedBeans.IsAmount
  catchUpRate : scenario.catchUpRate.IsPositive
  gaugePoints : ∀ value ∈ scenario.gaugePoints, value.IsAmount
  gaugeValues : ∀ value ∈ scenario.gaugeValues, value.IsAmount
  beanValue : scenario.beanValue.IsAmount
  nonGaugeValue : scenario.nonGaugeValue.IsAmount
  siloStalk : scenario.siloStalk.IsAmount

/-- A scenario that is given in amounts. -/
structure WrittenScenario.HasAmounts (written : WrittenScenario) : Prop extends
    written.toGaugeTerms.HasAmounts where
  earnedBeans : written.earnedBeans.ReadsAmount
  catchUpRate : Gives IsPositive written.catchUpRate.read
  gaugePoints : ∀ value ∈ written.gaugePoints, value.ReadsAmount
  gaugeValues : ∀ value ∈ written.gaugeValues, value.ReadsAmount
  beanValue : written.beanValue.ReadsAmount
  nonGaugeValue : written.nonGaugeValue.ReadsAmount
  siloStalk : written.siloStalk.ReadsAmount

namespace SiloState

/-- A silo in amounts, with a rounded total of value.  Its seed ratio may be any decimal. -/
structure HasAmounts (context : Context) (state : SiloState) : Prop where
  beanValue : state.beanValue.IsAmount
  gaugeTokenValues : ∀ value ∈ state.gaugeTokenValues, value.IsAmount
  points : ∀ value ∈ state.points, value.IsAmount
  pointsPerValue : ∀ value ∈ state.pointsPerValue, value.IsAmount
  largestPointsPerValue : state.largestPointsPerValue.IsAmount
  nonGaugeValue : state.nonGaugeValue.IsAmount
  gaugeValue : state.gaugeValue.IsAmount
  totalValue : state.totalValue.IsAmount
  totalStalk : state.totalStalk.IsAmount
  valueSettled : context.rounded state.totalValue.toRat = state.totalValue.toRat

/-- There is at least as much stalk as deposited value. -/
def Covered (state : SiloState) : Prop :=
  state.totalValue.toRat ≤ state.totalStalk.toRat

instance : DecidablePred Covered := fun _ =>
  inferInstanceAs (Decidable (_ ≤ _))

end SiloState

/-- The growth of a silo in amounts. -/
structure SeasonGrowth.HasAmounts (growth : SeasonGrowth) : Prop where
  grownStalk : growth.grownStalk.IsAmount
  pointTotal : growth.pointTotal.IsAmount
  beanSeeds : growth.beanSeeds.IsAmount
  pointsPerValue : ∀ value ∈ growth.pointsPerValue, value.IsAmount
  totalStalk : growth.totalStalk.IsAmount

variable {context : Context}

/-! ## Gauge points and the seed ratio -/

theorem PointRule.identity_keepsAmounts (optimal : Decimal) : identity.KeepsAmounts optimal :=
  fun _ _ _ _ amount _ => amount

/-- Points are not moved below zero, whatever share is optimal. -/
theorem PointRule.default_keepsAmounts (optimal : Decimal) : default.KeepsAmounts optimal := by
  intro context precise points current amount _
  change Gives IsAmount (applyDefault context points current optimal)
  unfold applyDefault
  apply (Settles.any _).bind
  intro upper _
  apply (Settles.any _).bind
  rintro (_ | _) -
  · apply (Settles.any _).bind
    intro lower _
    apply (Settles.any _).bind
    rintro (_ | _) -
    · exact amount
    · apply (add_amounts precise amount isAmount_one).bind
      rintro raised ⟨raisedAmount, -⟩
      apply (Settles.any _).bind
      rintro (_ | _) -
      · exact raisedAmount
      · exact isAmount_finite 1000 0
  · rw [le?_eq amount.finite isFinite_one]
    by_cases few : points.toRat ≤ one.toRat
    · simp only [few, decide_true]
      exact isAmount_zero
    · simp only [few, decide_false]
      exact ((sub_calculates precise amount.finite isFinite_one).gives_amount
        (sub_nonneg.mpr (not_le.mp few).le)).mono fun _ => And.left

/-- A ratio that has moved is not negative, whatever it was and whatever it is changed by. -/
theorem moveRatio_amounts (ratio change : Decimal) :
    Gives IsAmount (moveRatio context ratio change) := by
  unfold moveRatio
  apply (Settles.any _).bind
  intro moved _
  cases moved with
  | finite negative coefficient exponent =>
      rw [lt?_eq isFinite_one rfl]
      apply (Settles.any _).bind
      rintro (_ | _) -
      · rw [lt?_eq rfl isFinite_zero, toRat_zero]
        by_cases below : (Decimal.finite negative coefficient exponent).toRat < 0
        · simp only [below, decide_true]
          exact isAmount_zero
        · simp only [below, decide_false]
          exact ⟨rfl, not_lt.mp below⟩
      · exact isAmount_one
  | infinite negative =>
      cases negative with
      | false => exact isAmount_one
      | true => exact isAmount_zero
  | nan negative signaling payload => trivial

theorem scaleRatio_amounts (precise : 0 < context.precision) {ratio : Decimal}
    (amount : ratio.IsAmount) : Gives IsAmount (scaleRatio context ratio) := by
  apply (mul_amounts precise (isAmount_finite 5 (-1)) amount).bind
  intro scaled scaledAmount
  exact (add_amounts precise (isAmount_finite 5 (-1)) scaledAmount).mono fun _ => And.left

namespace GaugeScenario

variable {scenario : GaugeScenario} {state : SiloState} {drift : RatioDrift}

/-! ## The silo in its seasons -/

/-- The value that germinates becomes live, in the seasons in which it does. -/
def matureIn (context : Context) (scenario : GaugeScenario) (season : Nat) (state : SiloState) :
    Except YieldFailure SiloState :=
  if season < germinationSeasons then mature context scenario state else .ok state

/-- With several gauge tokens, their points move. -/
def balance (context : Context) (scenario : GaugeScenario) (state : SiloState) :
    Except YieldFailure SiloState :=
  if 1 < scenario.tokenCount then rebalance context scenario state else .ok state

/-- The silo in a season, once its ratio has drifted and its germinating value is live. -/
def live (context : Context) (scenario : GaugeScenario) (drift : RatioDrift) (season : Nat)
    (state : SiloState) : Except YieldFailure SiloState := do
  let drifted ← driftRatio context drift season state
  matureIn context scenario season drifted

theorem seasonStep_eq (seedScale : Decimal) (season : Nat) :
    seasonStep context scenario drift seedScale season state = (do
      let drifted ← driftRatio context drift season state
      let scaledRatio ← scaleRatio context drifted.ratio
      let matured ← matureIn context scenario season drifted
      let balanced ← balance context scenario matured
      grow context scenario seedScale balanced scaledRatio) := by
  unfold seasonStep matureIn balance
  split <;> split <;> rfl

/-- The silo at the start of a season of a simulation. -/
def siloAt (context : Context) (scenario : GaugeScenario) (drift : RatioDrift)
    (seedPrecision : Int) : Nat → Except YieldFailure SiloState
  | 0 => liftM (scenario.initial context)
  | season + 1 => do
      let state ← scenario.siloAt context drift seedPrecision season
      let (next, _) ← seasonStep context scenario drift (.ofInt seedPrecision) season state
      return next

/-- The silo in a season of a simulation, once its germinating value is live. -/
def liveAt (context : Context) (scenario : GaugeScenario) (drift : RatioDrift)
    (seedPrecision : Int) (season : Nat) : Except YieldFailure SiloState := do
  let state ← scenario.siloAt context drift seedPrecision season
  live context scenario drift season state

/-! ## A season keeps amounts -/

theorem driftRatio_amounts (season : Nat) :
    Gives (fun drifted => ∃ ratio : Decimal, ratio.IsAmount ∧ drifted = { state with ratio })
      (driftRatio context drift season state) := by
  apply (moveRatio_amounts state.ratio (drift state.ratio season)).bind
  intro ratio amount
  exact ⟨ratio, amount, rfl⟩

variable (precise : 0 < context.precision)

include precise

theorem quotients_amounts {points values : List Decimal}
    (pointAmounts : ∀ value ∈ points, value.IsAmount)
    (valueAmounts : ∀ value ∈ values, value.IsAmount) :
    Gives (fun quotients => ∀ value ∈ quotients, value.IsAmount)
      (quotients context points values) := by
  apply Gives.mapM
  rintro ⟨point, value⟩ inside
  exact divOrZero_amounts precise (pointAmounts _ (List.of_mem_zip inside).1)
    (valueAmounts _ (List.of_mem_zip inside).2)

theorem initial_amounts (amounts : scenario.HasAmounts) :
    Gives (SiloState.HasAmounts context) (scenario.initial context) := by
  apply (quotients_amounts precise amounts.gaugePoints amounts.gaugeValues).bind
  intro pointsPerValue pointsPerValueAmounts
  apply (sum_amounts precise amounts.gaugeValues).bind
  intro tokenValue tokenValueAmount
  apply (add_amounts precise amounts.beanValue tokenValueAmount).bind
  rintro gaugeValue ⟨gaugeValueAmount, -⟩
  apply (add_amounts precise gaugeValueAmount amounts.nonGaugeValue).bind
  rintro totalValue ⟨totalValueAmount, isTotal⟩
  apply (greatest_amounts pointsPerValueAmounts).bind
  intro largest largestAmount
  exact {
    beanValue := amounts.beanValue
    gaugeTokenValues := amounts.gaugeValues
    points := amounts.gaugePoints
    pointsPerValue := pointsPerValueAmounts
    largestPointsPerValue := largestAmount
    nonGaugeValue := amounts.nonGaugeValue
    gaugeValue := gaugeValueAmount
    totalValue := totalValueAmount
    totalStalk := amounts.siloStalk
    valueSettled := settled_of_rounded precise isTotal }

theorem matureTokens_amounts {count : Nat} {values : List Decimal} {germinating : List Written}
    (valueAmounts : ∀ value ∈ values, value.IsAmount)
    (germinatingAmounts : ∀ written ∈ germinating, written.ReadsAmount) :
    Gives (fun matured => ∀ value ∈ matured, value.IsAmount)
      (matureTokens context count values germinating) := by
  fun_induction matureTokens context count values germinating with
  | case1 values germinating => exact valueAmounts
  | case2 count value values written germinating ih =>
      rw [List.forall_mem_cons] at valueAmounts germinatingAmounts
      apply (Gives.lift germinatingAmounts.1).bind
      intro germinated germinatedAmount
      apply (add_amounts precise valueAmounts.1 germinatedAmount).lift.bind
      rintro matured ⟨maturedAmount, -⟩
      apply (ih valueAmounts.2 germinatingAmounts.2).bind
      intro rest restAmounts
      exact List.forall_mem_cons.mpr ⟨maturedAmount, restAmounts⟩
  | case3 => trivial

theorem mature_amounts (amounts : scenario.HasAmounts) (holds : state.HasAmounts context) :
    Gives (SiloState.HasAmounts context) (mature context scenario state) := by
  apply (decimalEntry_gives amounts.germinatingBean scenario.bucket).bind
  intro germinatedBean germinatedBeanAmount
  apply (add_amounts precise holds.beanValue germinatedBeanAmount).lift.bind
  rintro beanValue ⟨beanValueAmount, -⟩
  have noTokens : Gives (fun values : List Written => ∀ written ∈ values, written.ReadsAmount)
      (pure [] : Except YieldFailure (List Written)) := by
    intro written inside
    cases inside
  apply Settles.ite_bind (fun _ => noTokens)
    (fun _ => entry_gives (germinatingTokens_gives isAmount_zero amounts.germinatingGauge)
      scenario.bucket)
  intro germinatingTokens germinatingAmounts
  apply (matureTokens_amounts precise holds.gaugeTokenValues germinatingAmounts).bind
  intro gaugeTokenValues gaugeTokenAmounts
  apply (sum_amounts precise gaugeTokenAmounts).lift.bind
  intro tokenValue tokenValueAmount
  apply (add_amounts precise beanValueAmount tokenValueAmount).lift.bind
  rintro gaugeValue ⟨gaugeValueAmount, -⟩
  apply (decimalEntry_gives amounts.germinatingNonGauge scenario.bucket).bind
  intro germinatedOther germinatedOtherAmount
  apply (add_amounts precise holds.nonGaugeValue germinatedOtherAmount).lift.bind
  rintro nonGaugeValue ⟨nonGaugeValueAmount, -⟩
  apply (add_amounts precise gaugeValueAmount nonGaugeValueAmount).lift.bind
  rintro totalValue ⟨totalValueAmount, isTotal⟩
  exact { holds with
    beanValue := beanValueAmount
    gaugeTokenValues := gaugeTokenAmounts
    gaugeValue := gaugeValueAmount
    nonGaugeValue := nonGaugeValueAmount
    totalValue := totalValueAmount
    valueSettled := settled_of_rounded precise isTotal }

omit precise in
/-- The rule of a token keeps its points in amounts at the optimal share that is looked up. -/
theorem rule_keepsAmounts {position : Nat} {rule : PointRule}
    (isRule : scenario.rules[position]? = some rule) :
    Gives (fun optimal => scenario.RulesKeepAmounts → rule.KeepsAmounts optimal)
      (decimalEntry scenario.optimalPercents position) := by
  apply (entry_holds scenario.optimalPercents position).bind
  intro written isWritten
  apply Gives.lift
  apply (Gives.self written.read).mono
  intro optimal isOptimal rules
  unfold GaugeScenario.rules at isRule
  split at isRule
  · obtain rfl := List.eq_of_mem_replicate (List.mem_of_getElem? isRule)
    exact PointRule.identity_keepsAmounts optimal
  · exact gives_iff.mp (rules position rule isRule written isWritten) optimal isOptimal

theorem rebalanceToken_amounts (rules : scenario.RulesKeepAmounts)
    (holds : state.HasAmounts context) {valueSum : Decimal} (sumAmount : valueSum.IsAmount)
    (position : Nat) :
    Gives (fun moved => moved.1.IsAmount ∧ moved.2.IsAmount)
      (rebalanceToken context scenario state valueSum position) := by
  apply (entry_gives holds.gaugeTokenValues position).bind
  intro value valueAmount
  apply (divOrZero_amounts precise valueAmount sumAmount).lift.bind
  intro share shareAmount
  apply (mul_amounts precise shareAmount (isAmount_finite 100 0)).lift.bind
  intro percent percentAmount
  apply (entry_holds scenario.rules position).bind
  intro rule isRule
  apply (entry_gives holds.points position).bind
  intro points pointsAmount
  apply (rule_keepsAmounts isRule).bind
  intro optimal keepsAmounts
  apply (keepsAmounts rules precise pointsAmount percentAmount).lift.bind
  intro moved movedAmount
  apply (divOrZero_amounts precise movedAmount valueAmount).lift.bind
  intro quotient quotientAmount
  exact ⟨movedAmount, quotientAmount⟩

/-- Moving the points touches neither the totals nor the ratio. -/
theorem balance_amounts (rules : scenario.RulesKeepAmounts)
    (holds : state.HasAmounts context) :
    Gives (fun balanced => balanced.HasAmounts context ∧
        balanced.totalValue = state.totalValue ∧ balanced.totalStalk = state.totalStalk)
      (balance context scenario state) := by
  unfold balance
  split
  · apply (sum_amounts precise holds.gaugeTokenValues).lift.bind
    intro valueSum sumAmount
    apply (Gives.mapM fun position _ =>
      rebalanceToken_amounts precise rules holds sumAmount position).bind
    intro moved movedAmounts
    have points : ∀ value ∈ moved.map Prod.fst, value.IsAmount :=
      List.forall_mem_map.mpr fun both inside => (movedAmounts both inside).1
    have pointsPerValue : ∀ value ∈ moved.map Prod.snd, value.IsAmount :=
      List.forall_mem_map.mpr fun both inside => (movedAmounts both inside).2
    apply (greatest_amounts pointsPerValue).lift.bind
    intro largest largestAmount
    exact ⟨{ holds with
      points := points
      pointsPerValue := pointsPerValue
      largestPointsPerValue := largestAmount }, rfl, rfl⟩
  · exact ⟨holds, rfl, rfl⟩

/-! ## A season keeps the cover -/

/-- In a covered silo a unit of value has at least one stalk on average. -/
theorem averageStalk_gives (holds : state.HasAmounts context) (covered : state.Covered) :
    Gives (fun average => average.isFinite = true ∧ 1 ≤ average.toRat)
      (context.divOr state.totalStalk state.totalValue one) := by
  by_cases isZero : state.totalValue.toRat = 0
  · rw [divOr_by_zero _ one holds.totalValue.finite isZero]
    exact ⟨isFinite_one, toRat_one.ge⟩
  · rw [divOr_by_nonzero _ one holds.totalValue.finite isZero]
    have positive : 0 < state.totalValue.toRat := holds.totalValue.nonneg.lt_of_ne' isZero
    apply (div_calculates precise holds.totalStalk.finite holds.totalValue.finite isZero).gives.mono
    rintro average ⟨finite, isAverage⟩
    refine ⟨finite, ?_⟩
    rw [isAverage]
    exact le_rounded_of_settled precise (rounded_one precise) ((one_le_div positive).mpr covered)

/-- A covered silo grows stalk and is covered after the season. -/
theorem grow_covered (amounts : scenario.HasAmounts) (holds : state.HasAmounts context)
    (covered : state.Covered) {seedScale scaledRatio : Decimal} (scale : seedScale.IsAmount)
    (ratio : scaledRatio.IsAmount) :
    Gives (fun next => next.1.HasAmounts context ∧ next.1.Covered ∧ next.2.HasAmounts)
      (grow context scenario seedScale state scaledRatio) := by
  apply (mul_amounts precise holds.largestPointsPerValue ratio).bind
  intro beanPoints beanPointsAmount
  apply (sum_amounts precise holds.points).bind
  intro tokenPoints tokenPointsAmount
  apply (mul_amounts precise beanPointsAmount holds.beanValue).bind
  intro allBeanPoints allBeanPointsAmount
  apply (add_amounts precise tokenPointsAmount allBeanPointsAmount).bind
  rintro pointTotal ⟨pointTotalAmount, -⟩
  apply (averageStalk_gives precise holds covered).bind
  rintro average ⟨averageFinite, atLeast⟩
  apply ((sub_calculates precise averageFinite isFinite_one).gives_amount
    (by rw [toRat_one]; exact sub_nonneg.mpr atLeast)).bind
  rintro averageGrowth ⟨averageGrowthAmount, -⟩
  apply (div_amounts precise averageGrowthAmount amounts.catchUpRate).bind
  intro seasonGrowth seasonGrowthAmount
  apply (mul_amounts precise seasonGrowthAmount holds.gaugeValue).bind
  intro grownStalk grownStalkAmount
  apply (divOrZero_amounts precise grownStalkAmount pointTotalAmount).bind
  intro stalkPerPoint stalkPerPointAmount
  apply (mul_amounts precise stalkPerPointAmount beanPointsAmount).bind
  intro stalkPerBean stalkPerBeanAmount
  apply (mul_amounts precise stalkPerBeanAmount scale).bind
  intro beanSeeds beanSeedsAmount
  apply (add_amounts precise holds.totalStalk grownStalkAmount).bind
  rintro grownTotal ⟨grownTotalAmount, isGrownTotal⟩
  apply (add_amounts precise grownTotalAmount amounts.earnedBeans).bind
  rintro totalStalk ⟨totalStalkAmount, isTotalStalk⟩
  apply (add_amounts precise holds.gaugeValue amounts.earnedBeans).bind
  rintro gaugeValue ⟨gaugeValueAmount, -⟩
  apply (add_amounts precise holds.totalValue amounts.earnedBeans).bind
  rintro totalValue ⟨totalValueAmount, isTotalValue⟩
  apply (add_amounts precise holds.beanValue amounts.earnedBeans).bind
  rintro beanValue ⟨beanValueAmount, -⟩
  have stillCovered : totalValue.toRat ≤ totalStalk.toRat := by
    have grown : state.totalValue.toRat ≤ grownTotal.toRat := by
      rw [isGrownTotal]
      exact le_rounded_of_settled precise holds.valueSettled
        (covered.trans (le_add_of_nonneg_right grownStalkAmount.nonneg))
    rw [isTotalValue, isTotalStalk]
    exact rounded_mono precise (add_le_add_left grown _)
  exact ⟨{ holds with
      totalStalk := totalStalkAmount
      gaugeValue := gaugeValueAmount
      totalValue := totalValueAmount
      beanValue := beanValueAmount
      valueSettled := settled_of_rounded precise isTotalValue },
    stillCovered,
    { grownStalk := grownStalkAmount
      pointTotal := pointTotalAmount
      beanSeeds := beanSeedsAmount
      pointsPerValue := holds.pointsPerValue
      totalStalk := totalStalkAmount }⟩

theorem matureIn_amounts (amounts : scenario.HasAmounts) (holds : state.HasAmounts context)
    (season : Nat) :
    Gives (SiloState.HasAmounts context) (matureIn context scenario season state) := by
  unfold matureIn
  split
  · exact mature_amounts precise amounts holds
  · exact holds

omit precise in
/-- Once nothing germinates any more, a covered silo is covered in the season. -/
theorem live_covered (covered : state.Covered) {season : Nat}
    (late : germinationSeasons ≤ season) :
    Gives SiloState.Covered (live context scenario drift season state) := by
  apply (driftRatio_amounts season).lift.bind
  rintro _ ⟨ratio, -, rfl⟩
  rw [matureIn, if_neg (not_lt.mpr late)]
  exact covered

/-- A season in which the silo is covered, once its germinating value is live, grows stalk and
leaves the silo covered. -/
theorem seasonStep_covered (amounts : scenario.HasAmounts) (holds : state.HasAmounts context)
    {season : Nat} (covered : Gives SiloState.Covered (live context scenario drift season state))
    {seedScale : Decimal} (scale : seedScale.IsAmount) :
    Gives (fun next => next.1.HasAmounts context ∧ next.1.Covered ∧ next.2.HasAmounts)
      (seasonStep context scenario drift seedScale season state) := by
  rw [gives_iff]
  intro next stepped
  simp only [seasonStep_eq, bind_eq_ok_iff, liftM_eq_ok_iff] at stepped
  obtain ⟨drifted, drifts, scaledRatio, scaled, matured, matures, balanced, balances, grown⟩ :=
    stepped
  have isLive : live context scenario drift season state = .ok matured :=
    bind_eq_ok_iff.mpr ⟨drifted, liftM_eq_ok_iff.mpr drifts, matures⟩
  have maturedCovered := gives_iff.mp covered matured isLive
  obtain ⟨ratio, ratioAmount, rfl⟩ := gives_iff.mp (driftRatio_amounts season) drifted drifts
  have driftedHolds : { state with ratio }.HasAmounts context := { holds with }
  have scaledAmount :=
    gives_iff.mp (scaleRatio_amounts precise ratioAmount) scaledRatio scaled
  have maturedHolds :=
    gives_iff.mp (matureIn_amounts precise amounts driftedHolds season) matured matures
  obtain ⟨balancedHolds, sameValue, sameStalk⟩ :=
    gives_iff.mp (balance_amounts precise amounts.pointRules maturedHolds) balanced balances
  have balancedCovered : balanced.Covered := by
    rw [SiloState.Covered, sameValue, sameStalk]
    exact maturedCovered
  exact gives_iff.mp (grow_covered precise amounts balancedHolds balancedCovered scale
    scaledAmount) next grown

/-! ## All seasons -/

omit precise in
/-- Each growth is that of a season of the simulation. -/
theorem exists_season_of_growthsFrom {seedPrecision : Int} {season seasons : Nat}
    {growths : List SeasonGrowth}
    (reached : scenario.siloAt context drift seedPrecision season = .ok state)
    (grown : growthsFrom context scenario drift (.ofInt seedPrecision) season seasons state =
      .ok growths) :
    ∀ growth ∈ growths, ∃ grows < season + seasons, ∃ before after,
      scenario.siloAt context drift seedPrecision grows = .ok before ∧
        seasonStep context scenario drift (.ofInt seedPrecision) grows before =
          .ok (after, growth) := by
  induction seasons generalizing season state growths with
  | zero =>
      obtain rfl := Except.ok.inj grown
      simp
  | succ seasons ih =>
      simp only [growthsFrom, bind_eq_ok_iff] at grown
      obtain ⟨⟨next, first⟩, stepped, later, laterGrown, made⟩ := grown
      obtain rfl := Except.ok.inj made
      have nextReached : scenario.siloAt context drift seedPrecision (season + 1) = .ok next := by
        simp only [siloAt, reached, bind_eq_ok_iff]
        exact ⟨state, rfl, (next, first), stepped, rfl⟩
      rw [List.forall_mem_cons]
      refine ⟨⟨season, by omega, state, next, reached, stepped⟩, ?_⟩
      intro growth inside
      obtain ⟨grows, within, step⟩ := ih nextReached laterGrown growth inside
      exact ⟨grows, by omega, step⟩

section Seasons

variable {seedPrecision : Int} {seasons : Nat}
  (covered : ∀ season < seasons, season < germinationSeasons →
    Gives SiloState.Covered (scenario.liveAt context drift seedPrecision season))

include covered

omit precise in
/-- A season is covered by assumption while value germinates, and by the season before it
from then on. -/
theorem live_covered_of_siloAt {season : Nat} (within : season < seasons)
    (reached : scenario.siloAt context drift seedPrecision season = .ok state)
    (since : 0 < season → state.Covered) :
    Gives SiloState.Covered (live context scenario drift season state) := by
  by_cases early : season < germinationSeasons
  · have germinates := covered season within early
    rw [liveAt, reached] at germinates
    exact germinates
  · refine live_covered (since ?_) (not_lt.mp early)
    unfold germinationSeasons at early
    omega

variable (amounts : scenario.HasAmounts) (positive : 0 < seedPrecision)

include amounts positive

/-- After any number of seasons the silo is in amounts, and after at least one it is
covered. -/
theorem siloAt_covered {season : Nat} (within : season ≤ seasons) :
    Gives (fun state => state.HasAmounts context ∧ (0 < season → state.Covered))
      (scenario.siloAt context drift seedPrecision season) := by
  induction season with
  | zero =>
      apply (initial_amounts precise amounts).lift.mono
      intro state holds
      exact ⟨holds, fun none => absurd none (Nat.lt_irrefl 0)⟩
  | succ season ih =>
      rw [gives_iff]
      intro next reached
      simp only [siloAt, bind_eq_ok_iff] at reached
      obtain ⟨state, before, ⟨after, growth⟩, stepped, made⟩ := reached
      obtain rfl := Except.ok.inj made
      obtain ⟨holds, since⟩ := gives_iff.mp (ih (Nat.le_of_lt within)) state before
      have liveCovered : Gives SiloState.Covered (live context scenario drift season state) :=
        live_covered_of_siloAt covered within before since
      obtain ⟨nextHolds, nextCovered, -⟩ := gives_iff.mp
        (seasonStep_covered precise amounts holds liveCovered (isAmount_ofInt positive.le)) _
        stepped
      exact ⟨nextHolds, fun _ => nextCovered⟩

/-- The silo is covered in every season. -/
theorem liveAt_covered {season : Nat} (within : season < seasons) :
    Gives SiloState.Covered (scenario.liveAt context drift seedPrecision season) := by
  rw [gives_iff]
  intro live reached
  obtain ⟨state, before, isLive⟩ := bind_eq_ok_iff.mp reached
  obtain ⟨-, since⟩ :=
    gives_iff.mp (siloAt_covered precise covered amounts positive within.le) state before
  exact gives_iff.mp (live_covered_of_siloAt covered within before since) live isLive

/-- The silo grows amounts in every season. -/
theorem growths_amounts :
    Gives (fun growths => ∀ growth ∈ growths, growth.HasAmounts)
      (scenario.growths context drift seasons seedPrecision) := by
  rw [gives_iff]
  intro growths grown growth inside
  obtain ⟨initial, started, grownFrom⟩ := bind_eq_ok_iff.mp grown
  have opened : scenario.siloAt context drift seedPrecision 0 = .ok initial := started
  obtain ⟨season, within, state, next, before, stepped⟩ :=
    exists_season_of_growthsFrom opened grownFrom growth inside
  rw [Nat.zero_add] at within
  obtain ⟨holds, since⟩ :=
    gives_iff.mp (siloAt_covered precise covered amounts positive within.le) state before
  have liveCovered : Gives SiloState.Covered (live context scenario drift season state) :=
    live_covered_of_siloAt covered within before since
  exact (gives_iff.mp (seasonStep_covered precise amounts holds liveCovered
    (isAmount_ofInt positive.le)) _ stepped).2.2

end Seasons

end GaugeScenario

end DepositYield
