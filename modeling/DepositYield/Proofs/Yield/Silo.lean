import DepositYield.Proofs.Decimal.Finite
import DepositYield.Yield.Gauge

/-!
# Seasons of the silo under the seed gauge

A scenario fits together if its lists have the lengths that they should have, all of
its decimals are finite and deposits catch up after a nonzero number of seasons.  Under
such a scenario every season of the silo leads to a silo that fits together again, or
overflows: an empty silo, a silo without gauge tokens and one without gauge points do
not stop it.
-/

namespace DepositYield

open Decimal Decimal.Context

/-- The model gives a good value or overflows. -/
abbrev Completes {Value : Type} (good : Value → Prop) (model : Except YieldFailure Value) : Prop :=
  Settles (· = .signal .overflow) good model

/-- Arithmetic that settles lets the model go on. -/
theorem Settles.lift {Value : Type} {good : Value → Prop} {calculation : Except Signal Value}
    (settles : Settles (· = .overflow) good calculation) :
    Completes good (liftM calculation : Except YieldFailure Value) :=
  settles.mapError fun _ => congrArg YieldFailure.signal

/-- The given decimal can be read and is finite. -/
def Decimal.Written.IsFinite (written : Written) : Prop :=
  ∃ decimal, written.read = .ok decimal ∧ decimal.isFinite

theorem Decimal.Written.IsFinite.settles {written : Written} (finite : written.IsFinite) :
    SettlesFinite written.read := by
  obtain ⟨decimal, read, isFinite⟩ := finite
  rw [read]
  exact isFinite

/-- Finite decimals, one for each of a number of tokens. -/
abbrev FiniteValues (count : Nat) (values : List Decimal) : Prop :=
  Filled (fun value => value.isFinite = true) count values

/-! ## Gauge points -/

section Points

variable {context : Context} (precise : 0 < context.precision)

include precise

theorem PointRule.applyDefault_settles {points current optimal : Decimal}
    (pointsFinite : points.isFinite) (currentFinite : current.isFinite)
    (optimalFinite : optimal.isFinite) :
    SettlesFinite (applyDefault context points current optimal) := by
  unfold applyDefault
  apply (mul_settles precise optimalFinite (rfl : upperThreshold.isFinite)).bind
  intro upper upperFinite
  apply (lt?_settles upperFinite currentFinite).bind
  rintro (_ | _) -
  · apply (mul_settles precise optimalFinite (rfl : lowerThreshold.isFinite)).bind
    intro lower lowerFinite
    apply (lt?_settles currentFinite lowerFinite).bind
    rintro (_ | _) -
    · exact pointsFinite
    · apply (add_settles precise pointsFinite isFinite_one).bind
      intro raised raisedFinite
      exact min?_settles raisedFinite rfl
  · apply (le?_settles pointsFinite isFinite_one).bind
    rintro (_ | _) -
    · exact sub_settles precise pointsFinite isFinite_one
    · exact isFinite_zero

theorem moveRatio_settles {ratio change : Decimal} (ratioFinite : ratio.isFinite)
    (changeFinite : change.isFinite) : SettlesFinite (moveRatio context ratio change) := by
  apply (add_settles precise ratioFinite changeFinite).bind
  intro moved movedFinite
  apply (lt?_settles isFinite_one movedFinite).bind
  rintro (_ | _) -
  · apply (lt?_settles movedFinite isFinite_zero).bind
    rintro (_ | _) -
    · exact movedFinite
    · exact isFinite_zero
  · exact isFinite_one

theorem scaleRatio_settles {ratio : Decimal} (ratioFinite : ratio.isFinite) :
    SettlesFinite (scaleRatio context ratio) := by
  apply (mul_settles precise (rfl : (Decimal.finite false 5 (-1)).isFinite) ratioFinite).bind
  intro scaled scaledFinite
  exact add_settles precise rfl scaledFinite

end Points

namespace PointRule

/-- A rule that moves finite points at finite shares to finite points, or overflows. -/
def SettlesFinite (rule : PointRule) : Prop :=
  ∀ ⦃context : Context⦄, 0 < context.precision → ∀ ⦃points current optimal : Decimal⦄,
    points.isFinite → current.isFinite → optimal.isFinite →
      Decimal.SettlesFinite (rule.apply context points current optimal)

theorem identity_settlesFinite : identity.SettlesFinite :=
  fun _ _ _ _ _ pointsFinite _ _ => pointsFinite

theorem default_settlesFinite : default.SettlesFinite :=
  fun _ precise _ _ _ => applyDefault_settles precise

theorem ofSelector_settlesFinite (selector : Option String) :
    (ofSelector selector).SettlesFinite := by
  unfold ofSelector
  split
  · exact default_settlesFinite
  · exact identity_settlesFinite

end PointRule

/-! ## Scenarios and states that fit together -/

/-- A gauge token among a number of them, or no gauge token. -/
def Asset.Within (count : Nat) (asset : Asset) : Prop :=
  ∀ position, asset = .gauge position → position < count

/-- The lists of the scenario fit together and its decimals are finite. -/
structure GaugeScenario.Fits (scenario : GaugeScenario) : Prop where
  assets : ∀ index ∈ scenario.assets, -2 ≤ index ∧ index < scenario.tokenCount
  earnedBeans : scenario.earnedBeans.isFinite
  catchUpRate : scenario.catchUpRate.isFinite
  catchesUp : scenario.catchUpRate.toRat ≠ 0
  gaugePoints : FiniteValues scenario.tokenCount scenario.gaugePoints
  gaugeValues : FiniteValues scenario.tokenCount scenario.gaugeValues
  optimalPercents : Filled Written.IsFinite scenario.tokenCount scenario.optimalPercents
  initialRatio : scenario.initialRatio.isFinite
  beanValue : scenario.beanValue.isFinite
  nonGaugeValue : scenario.nonGaugeValue.isFinite
  siloStalk : scenario.siloStalk.isFinite
  germinatingBean : Filled Written.IsFinite 2 scenario.germinatingBean
  germinatingTokens :
    Filled (Filled Written.IsFinite scenario.tokenCount) 2 scenario.germinatingTokens
  germinatingNonGauge : Filled Written.IsFinite 2 scenario.germinatingNonGauge
  staticSeeds : ∀ position < scenario.assets.length,
    ∃ seeds, scenario.seedsAt position = some seeds ∧ seeds.IsFinite
  rules : Filled PointRule.SettlesFinite scenario.tokenCount scenario.rules

/-- A silo with a number of gauge tokens, in finite decimals. -/
structure SiloState.Fits (count : Nat) (state : SiloState) : Prop where
  ratio : state.ratio.isFinite
  beanValue : state.beanValue.isFinite
  gaugeTokenValues : FiniteValues count state.gaugeTokenValues
  points : FiniteValues count state.points
  pointsPerValue : FiniteValues count state.pointsPerValue
  largestPointsPerValue : state.largestPointsPerValue.isFinite
  nonGaugeValue : state.nonGaugeValue.isFinite
  gaugeValue : state.gaugeValue.isFinite
  totalValue : state.totalValue.isFinite
  totalStalk : state.totalStalk.isFinite

/-- The growth of a silo with a number of gauge tokens, in finite decimals. -/
structure SeasonGrowth.Fits (count : Nat) (growth : SeasonGrowth) : Prop where
  grownStalk : growth.grownStalk.isFinite
  pointTotal : growth.pointTotal.isFinite
  beanSeeds : growth.beanSeeds.isFinite
  pointsPerValue : FiniteValues count growth.pointsPerValue
  totalStalk : growth.totalStalk.isFinite

/-- A depositor of a silo with a number of gauge tokens, in finite decimals. -/
structure Depositor.Fits (count : Nat) (depositor : Depositor) : Prop where
  asset : depositor.asset.Within count
  staticSeeds : ∃ seeds, depositor.staticSeeds = some seeds ∧ seeds.IsFinite
  beans : depositor.beans.isFinite
  tokens : depositor.tokens.isFinite
  stalk : depositor.stalk.isFinite

/-! ## Seasons of the silo -/

namespace GaugeScenario

theorem entry_completes {Value : Type} {good : Value → Prop} {count position : Nat}
    {values : List Value} (filled : Filled good count values) (within : position < count) :
    Completes good (entry values position) := by
  obtain ⟨value, held, isGood⟩ := filled.exists_getElem? within
  unfold entry
  rw [held]
  exact isGood

theorem decimalEntry_completes {count position : Nat} {values : List Written}
    (filled : Filled Written.IsFinite count values) (within : position < count) :
    Completes (fun decimal => decimal.isFinite = true) (decimalEntry values position) := by
  apply (entry_completes filled within).bind
  intro written finite
  exact finite.settles.lift

theorem bucket_lt (scenario : GaugeScenario) : scenario.bucket < 2 := by
  unfold bucket
  split <;> decide

/-- Where no rules are given, points are left as they are. -/
theorem forall_mem_rules {scenario : GaugeScenario} {good : PointRule → Prop}
    (goodIdentity : good .identity) (each : ∀ rule ∈ scenario.pointRules, good rule) :
    ∀ rule ∈ scenario.rules, good rule := by
  unfold rules
  split
  · intro rule inside
    rwa [List.eq_of_mem_replicate inside]
  · exact each

variable {context : Context} {scenario : GaugeScenario} {state : SiloState}
  (precise : 0 < context.precision)

include precise

theorem quotients_settles {count : Nat} {points values : List Decimal}
    (pointsFinite : FiniteValues count points) (valuesFinite : FiniteValues count values) :
    Settles (· = .overflow) (FiniteValues count) (quotients context points values) := by
  have each : Settles (· = .overflow)
      (List.Forall₂ (fun _ quotient => quotient.isFinite = true) (points.zip values))
      (quotients context points values) := by
    apply Settles.mapM
    rintro ⟨point, value⟩ inside
    exact divOrZero_settles precise (pointsFinite.each _ (List.of_mem_zip inside).1)
      (valuesFinite.each _ (List.of_mem_zip inside).2)
  apply each.mono
  intro quotients finite
  have filled := Filled.of_forall₂ finite
  rwa [List.length_zip, pointsFinite.length, valuesFinite.length, min_self] at filled

theorem initial_settles (fits : scenario.Fits) :
    Settles (· = .overflow) (SiloState.Fits scenario.tokenCount) (scenario.initial context) := by
  apply (quotients_settles precise fits.gaugePoints fits.gaugeValues).bind
  intro pointsPerValue pointsPerValueFinite
  apply (sum_settles precise fits.gaugeValues.each).bind
  intro tokenValue tokenValueFinite
  apply (add_settles precise fits.beanValue tokenValueFinite).bind
  intro gaugeValue gaugeValueFinite
  apply (add_settles precise gaugeValueFinite fits.nonGaugeValue).bind
  intro totalValue totalValueFinite
  apply (greatest_settles pointsPerValueFinite.each).bind
  intro largest largestFinite
  exact {
    ratio := fits.initialRatio
    beanValue := fits.beanValue
    gaugeTokenValues := fits.gaugeValues
    points := fits.gaugePoints
    pointsPerValue := pointsPerValueFinite
    largestPointsPerValue := largestFinite
    nonGaugeValue := fits.nonGaugeValue
    gaugeValue := gaugeValueFinite
    totalValue := totalValueFinite
    totalStalk := fits.siloStalk }

theorem matureTokens_completes {count : Nat} {values : List Decimal} {germinating : List Written}
    (valuesFinite : FiniteValues count values)
    (germinatingFinite : Filled Written.IsFinite count germinating) :
    Completes (FiniteValues count) (matureTokens context count values germinating) := by
  induction count generalizing values germinating with
  | zero => exact valuesFinite
  | succ count ih =>
      obtain ⟨value, values, rfl, valueFinite, valuesFinite⟩ := valuesFinite.exists_cons
      obtain ⟨written, germinating, rfl, writtenFinite, germinatingFinite⟩ :=
        germinatingFinite.exists_cons
      apply writtenFinite.settles.lift.bind
      intro germinated germinatedFinite
      apply (add_settles precise valueFinite germinatedFinite).lift.bind
      intro matured maturedFinite
      apply (ih valuesFinite germinatingFinite).bind
      intro rest restFinite
      exact restFinite.cons maturedFinite

theorem mature_completes (fits : scenario.Fits) (stateFits : state.Fits scenario.tokenCount) :
    Completes (SiloState.Fits scenario.tokenCount) (mature context scenario state) := by
  have noTokens (none : scenario.tokenCount = 0) :
      Completes (Filled Written.IsFinite scenario.tokenCount) (pure []) := by
    rw [none]
    exact .nil
  apply (decimalEntry_completes fits.germinatingBean scenario.bucket_lt).bind
  intro germinatedBean germinatedBeanFinite
  apply (add_settles precise stateFits.beanValue germinatedBeanFinite).lift.bind
  intro beanValue beanValueFinite
  apply Settles.ite_bind noTokens
    (fun _ => entry_completes fits.germinatingTokens scenario.bucket_lt)
  intro germinatingTokens germinatingFinite
  apply (matureTokens_completes precise stateFits.gaugeTokenValues germinatingFinite).bind
  intro gaugeTokenValues gaugeTokenValuesFinite
  apply (sum_settles precise gaugeTokenValuesFinite.each).lift.bind
  intro tokenValue tokenValueFinite
  apply (add_settles precise beanValueFinite tokenValueFinite).lift.bind
  intro gaugeValue gaugeValueFinite
  apply (decimalEntry_completes fits.germinatingNonGauge scenario.bucket_lt).bind
  intro germinatedOther germinatedOtherFinite
  apply (add_settles precise stateFits.nonGaugeValue germinatedOtherFinite).lift.bind
  intro nonGaugeValue nonGaugeValueFinite
  apply (add_settles precise gaugeValueFinite nonGaugeValueFinite).lift.bind
  intro totalValue totalValueFinite
  exact { stateFits with
    beanValue := beanValueFinite
    gaugeTokenValues := gaugeTokenValuesFinite
    gaugeValue := gaugeValueFinite
    nonGaugeValue := nonGaugeValueFinite
    totalValue := totalValueFinite }

theorem rebalanceToken_completes (fits : scenario.Fits)
    (stateFits : state.Fits scenario.tokenCount) {valueSum : Decimal}
    (sumFinite : valueSum.isFinite) {position : Nat} (within : position < scenario.tokenCount) :
    Completes (fun moved => moved.1.isFinite = true ∧ moved.2.isFinite = true)
      (rebalanceToken context scenario state valueSum position) := by
  apply (entry_completes stateFits.gaugeTokenValues within).bind
  intro value valueFinite
  apply (divOrZero_settles precise valueFinite sumFinite).lift.bind
  intro share shareFinite
  apply (mul_settles precise shareFinite (rfl : hundred.isFinite)).lift.bind
  intro percent percentFinite
  apply (entry_completes fits.rules within).bind
  intro rule settlesFinite
  apply (entry_completes stateFits.points within).bind
  intro points pointsFinite
  apply (decimalEntry_completes fits.optimalPercents within).bind
  intro optimal optimalFinite
  apply (settlesFinite precise pointsFinite percentFinite optimalFinite).lift.bind
  intro moved movedFinite
  apply (divOrZero_settles precise movedFinite valueFinite).lift.bind
  intro quotient quotientFinite
  exact ⟨movedFinite, quotientFinite⟩

theorem rebalance_completes (fits : scenario.Fits) (stateFits : state.Fits scenario.tokenCount) :
    Completes (SiloState.Fits scenario.tokenCount) (rebalance context scenario state) := by
  apply (sum_settles precise stateFits.gaugeTokenValues.each).lift.bind
  intro valueSum sumFinite
  have each : Completes
      (List.Forall₂ (fun _ moved => moved.1.isFinite = true ∧ moved.2.isFinite = true)
        (List.range scenario.tokenCount))
      ((List.range scenario.tokenCount).mapM
        (rebalanceToken context scenario state valueSum)) := by
    apply Settles.mapM
    intro position inside
    exact rebalanceToken_completes precise fits stateFits sumFinite (List.mem_range.mp inside)
  apply each.bind
  intro moved related
  have finite := Filled.of_forall₂ related
  rw [List.length_range] at finite
  have points : FiniteValues scenario.tokenCount (moved.map Prod.fst) :=
    finite.map fun _ both => both.1
  have pointsPerValue : FiniteValues scenario.tokenCount (moved.map Prod.snd) :=
    finite.map fun _ both => both.2
  apply (greatest_settles pointsPerValue.each).lift.bind
  intro largest largestFinite
  exact { stateFits with
    points := points
    pointsPerValue := pointsPerValue
    largestPointsPerValue := largestFinite }

theorem driftRatio_settles {drift : RatioDrift} {season count : Nat}
    (driftFinite : ∀ ratio season, (drift ratio season).isFinite) (stateFits : state.Fits count) :
    Settles (· = .overflow) (SiloState.Fits count) (driftRatio context drift season state) := by
  apply (moveRatio_settles precise stateFits.ratio (driftFinite state.ratio season)).bind
  intro ratio ratioFinite
  exact { stateFits with ratio := ratioFinite }

theorem grow_settles (fits : scenario.Fits) (stateFits : state.Fits scenario.tokenCount)
    {seedScale scaledRatio : Decimal} (scaleFinite : seedScale.isFinite)
    (ratioFinite : scaledRatio.isFinite) :
    Settles (· = .overflow)
      (fun next => next.1.Fits scenario.tokenCount ∧ next.2.Fits scenario.tokenCount)
      (grow context scenario seedScale state scaledRatio) := by
  apply (mul_settles precise stateFits.largestPointsPerValue ratioFinite).bind
  intro beanPoints beanPointsFinite
  apply (sum_settles precise stateFits.points.each).bind
  intro tokenPoints tokenPointsFinite
  apply (mul_settles precise beanPointsFinite stateFits.beanValue).bind
  intro allBeanPoints allBeanPointsFinite
  apply (add_settles precise tokenPointsFinite allBeanPointsFinite).bind
  intro pointTotal pointTotalFinite
  apply (divOr_settles precise stateFits.totalStalk stateFits.totalValue isFinite_one).bind
  intro stalkPerValue stalkPerValueFinite
  apply (sub_settles precise stalkPerValueFinite isFinite_one).bind
  intro averageGrowth averageGrowthFinite
  apply (div_settles precise averageGrowthFinite fits.catchUpRate fits.catchesUp).bind
  intro seasonGrowth seasonGrowthFinite
  apply (mul_settles precise seasonGrowthFinite stateFits.gaugeValue).bind
  intro grownStalk grownStalkFinite
  apply (divOrZero_settles precise grownStalkFinite pointTotalFinite).bind
  intro stalkPerPoint stalkPerPointFinite
  apply (mul_settles precise stalkPerPointFinite beanPointsFinite).bind
  intro stalkPerBean stalkPerBeanFinite
  apply (mul_settles precise stalkPerBeanFinite scaleFinite).bind
  intro beanSeeds beanSeedsFinite
  apply (add_settles precise stateFits.totalStalk grownStalkFinite).bind
  intro grownTotal grownTotalFinite
  apply (add_settles precise grownTotalFinite fits.earnedBeans).bind
  intro totalStalk totalStalkFinite
  apply (add_settles precise stateFits.gaugeValue fits.earnedBeans).bind
  intro gaugeValue gaugeValueFinite
  apply (add_settles precise stateFits.totalValue fits.earnedBeans).bind
  intro totalValue totalValueFinite
  apply (add_settles precise stateFits.beanValue fits.earnedBeans).bind
  intro beanValue beanValueFinite
  exact ⟨{ stateFits with
      totalStalk := totalStalkFinite
      gaugeValue := gaugeValueFinite
      totalValue := totalValueFinite
      beanValue := beanValueFinite },
    { grownStalk := grownStalkFinite
      pointTotal := pointTotalFinite
      beanSeeds := beanSeedsFinite
      pointsPerValue := stateFits.pointsPerValue
      totalStalk := totalStalkFinite }⟩

/-- A season of the silo leads to a state that fits together. -/
theorem seasonStep_completes (fits : scenario.Fits) (stateFits : state.Fits scenario.tokenCount)
    {drift : RatioDrift} (driftFinite : ∀ ratio season, (drift ratio season).isFinite)
    {seedScale : Decimal} (scaleFinite : seedScale.isFinite) (season : Nat) :
    Completes (fun next => next.1.Fits scenario.tokenCount ∧ next.2.Fits scenario.tokenCount)
      (seasonStep context scenario drift seedScale season state) := by
  apply (driftRatio_settles precise driftFinite stateFits).lift.bind
  intro drifted driftedFits
  apply (scaleRatio_settles precise driftedFits.ratio).lift.bind
  intro scaledRatio ratioFinite
  apply Settles.ite_bind (fun _ => mature_completes precise fits driftedFits)
    (fun _ => .pure driftedFits)
  intro matured maturedFits
  apply Settles.ite_bind (fun _ => rebalance_completes precise fits maturedFits)
    (fun _ => .pure maturedFits)
  intro balanced balancedFits
  exact (grow_settles precise fits balancedFits scaleFinite ratioFinite).lift

end GaugeScenario

end DepositYield
