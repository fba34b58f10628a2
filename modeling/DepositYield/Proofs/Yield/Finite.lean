import DepositYield.Proofs.Yield.Separation
import DepositYield.Proofs.Yield.Silo

/-!
# Simulations of finite decimals stay finite

A scenario in finite decimals need not fit together: its lists may be too short, and
quotients may be by zero.  A simulation may then fail, but as long as it does not, the
silo and its depositors go from finite decimals to finite decimals.  That holds for any
drift of the seed ratio, as a change that is no number stops the season and an infinite
one is cut off at the bounds of the ratio.
-/

namespace DepositYield

open Decimal Decimal.Context

/-- Arithmetic inside a model gives what it gives alone. -/
theorem Gives.lift {Value : Type} {good : Value → Prop} {calculation : Except Signal Value}
    (gives : Gives good calculation) :
    Gives good (liftM calculation : Except YieldFailure Value) :=
  gives.mapError fun _ _ => trivial

/-- The given decimal is finite if it can be read. -/
abbrev Decimal.Written.ReadsFinite (written : Written) : Prop :=
  Gives (fun decimal => decimal.isFinite = true) written.read

/-! ## Scenarios and states in finite decimals -/

/-- A rule that moves finite points at finite shares to finite points only. -/
def PointRule.KeepsFinite (rule : PointRule) : Prop :=
  ∀ ⦃context : Context⦄, 0 < context.precision → ∀ ⦃points current optimal : Decimal⦄,
    points.isFinite → current.isFinite → optimal.isFinite →
      Gives (fun moved => moved.isFinite = true) (rule.apply context points current optimal)

theorem PointRule.SettlesFinite.keepsFinite {rule : PointRule} (settles : rule.SettlesFinite) :
    rule.KeepsFinite :=
  fun _ precise _ _ _ pointsFinite currentFinite optimalFinite =>
    (settles precise pointsFinite currentFinite optimalFinite).gives

/-- All decimals that a simulation looks up are finite, and so are those that its point rules
lead to. -/
structure GaugeTerms.IsFinite (terms : GaugeTerms) : Prop where
  optimalPercents : ∀ written ∈ terms.optimalPercents, written.ReadsFinite
  germinatingBean : ∀ written ∈ terms.germinatingBean, written.ReadsFinite
  germinatingGauge : ∀ bucket ∈ terms.germinatingGauge, ∀ written ∈ bucket, written.ReadsFinite
  germinatingNonGauge : ∀ written ∈ terms.germinatingNonGauge, written.ReadsFinite
  staticSeeds : ∀ seeds, some seeds ∈ terms.staticSeeds → seeds.ReadsFinite
  pointRules : ∀ rule ∈ terms.pointRules, rule.KeepsFinite

/-- A scenario in finite decimals. -/
structure GaugeScenario.IsFinite (scenario : GaugeScenario) : Prop extends
    scenario.toGaugeTerms.IsFinite where
  earnedBeans : scenario.earnedBeans.isFinite
  catchUpRate : scenario.catchUpRate.isFinite
  gaugePoints : ∀ value ∈ scenario.gaugePoints, value.isFinite
  gaugeValues : ∀ value ∈ scenario.gaugeValues, value.isFinite
  initialRatio : scenario.initialRatio.isFinite
  beanValue : scenario.beanValue.isFinite
  nonGaugeValue : scenario.nonGaugeValue.isFinite
  siloStalk : scenario.siloStalk.isFinite

/-- A scenario that is given in finite decimals. -/
structure WrittenScenario.IsFinite (written : WrittenScenario) : Prop extends
    written.toGaugeTerms.IsFinite where
  earnedBeans : written.earnedBeans.ReadsFinite
  catchUpRate : written.catchUpRate.ReadsFinite
  gaugePoints : ∀ value ∈ written.gaugePoints, value.ReadsFinite
  gaugeValues : ∀ value ∈ written.gaugeValues, value.ReadsFinite
  initialRatio : written.initialRatio.ReadsFinite
  beanValue : written.beanValue.ReadsFinite
  nonGaugeValue : written.nonGaugeValue.ReadsFinite
  siloStalk : written.siloStalk.ReadsFinite

/-- A silo in finite decimals. -/
structure SiloState.IsFinite (state : SiloState) : Prop where
  ratio : state.ratio.isFinite
  beanValue : state.beanValue.isFinite
  gaugeTokenValues : ∀ value ∈ state.gaugeTokenValues, value.isFinite
  points : ∀ value ∈ state.points, value.isFinite
  pointsPerValue : ∀ value ∈ state.pointsPerValue, value.isFinite
  largestPointsPerValue : state.largestPointsPerValue.isFinite
  nonGaugeValue : state.nonGaugeValue.isFinite
  gaugeValue : state.gaugeValue.isFinite
  totalValue : state.totalValue.isFinite
  totalStalk : state.totalStalk.isFinite

/-- The growth of a silo in finite decimals. -/
structure SeasonGrowth.IsFinite (growth : SeasonGrowth) : Prop where
  grownStalk : growth.grownStalk.isFinite
  pointTotal : growth.pointTotal.isFinite
  beanSeeds : growth.beanSeeds.isFinite
  pointsPerValue : ∀ value ∈ growth.pointsPerValue, value.isFinite
  totalStalk : growth.totalStalk.isFinite

/-- A depositor in finite decimals. -/
structure Depositor.IsFinite (depositor : Depositor) : Prop where
  staticSeeds : ∀ seeds, depositor.staticSeeds = some seeds → seeds.ReadsFinite
  beans : depositor.beans.isFinite
  tokens : depositor.tokens.isFinite
  stalk : depositor.stalk.isFinite

variable {context : Context}

/-- A traversal gives good values only. -/
theorem Gives.mapM {Item Value Failure : Type} {good : Value → Prop} {items : List Item}
    {calculate : Item → Except Failure Value}
    (each : ∀ item ∈ items, Gives good (calculate item)) :
    Gives (fun values => ∀ value ∈ values, good value) (items.mapM calculate) := by
  apply (Settles.mapM each).mono
  intro values related
  exact (Filled.of_forall₂ related).each

/-- A ratio stays between its bounds whatever it is changed by. -/
theorem moveRatio_gives (precise : 0 < context.precision) {ratio : Decimal}
    (ratioFinite : ratio.isFinite) (change : Decimal) :
    Gives (fun moved => moved.isFinite = true) (moveRatio context ratio change) := by
  cases change with
  | finite negative coefficient exponent =>
      exact (moveRatio_settles precise ratioFinite rfl).gives
  | infinite negative =>
      obtain ⟨_, _, _, rfl⟩ := exists_finite_of_isFinite ratioFinite
      cases negative with
      | false => exact isFinite_one
      | true => exact isFinite_zero
  | nan negative signaling payload =>
      obtain ⟨_, _, _, rfl⟩ := exists_finite_of_isFinite ratioFinite
      cases signaling <;> trivial

/-! ## Seasons of the silo -/

namespace GaugeScenario

theorem entry_holds {Value : Type} (values : List Value) (position : Nat) :
    Gives (values[position]? = some ·) (entry values position) := by
  unfold entry
  split
  · next value held => exact held
  · trivial

theorem entry_gives {Value : Type} {good : Value → Prop} {values : List Value}
    (each : ∀ value ∈ values, good value) (position : Nat) :
    Gives good (entry values position) :=
  (entry_holds values position).mono fun _ held => each _ (List.mem_of_getElem? held)

theorem decimalEntry_gives {good : Decimal → Prop} {values : List Written}
    (each : ∀ written ∈ values, Gives good written.read) (position : Nat) :
    Gives good (decimalEntry values position) := by
  apply (entry_gives each position).bind
  intro written reads
  exact Gives.lift reads

variable {scenario : GaugeScenario} {state : SiloState}

/-- Where no fixed seeds are given there are none. -/
theorem seedsAt_gives {good : Decimal → Prop} (goodZero : good zero)
    (each : ∀ seeds, some seeds ∈ scenario.staticSeeds → Gives good seeds.read) {position : Nat}
    {seeds : Written} (held : scenario.seedsAt position = some seeds) : Gives good seeds.read := by
  unfold seedsAt at held
  split at held
  · cases held
    exact goodZero
  · obtain ⟨given, isGiven, rfl⟩ := Option.map_eq_some_iff.mp held
    cases given with
    | none => exact goodZero
    | some seeds => exact each seeds (List.mem_of_getElem? isGiven)

/-- Where no germinating value of gauge tokens is given there is none. -/
theorem germinatingTokens_gives {good : Decimal → Prop} (goodZero : good zero)
    (each : ∀ bucket ∈ scenario.germinatingGauge, ∀ written ∈ bucket, Gives good written.read) :
    ∀ bucket ∈ scenario.germinatingTokens, ∀ written ∈ bucket, Gives good written.read := by
  unfold germinatingTokens
  split
  · intro bucket inside written among
    have nothing : bucket = List.replicate scenario.tokenCount (.value zero) := by
      simpa using inside
    subst nothing
    obtain rfl := List.eq_of_mem_replicate among
    exact goodZero
  · exact each

variable (precise : 0 < context.precision)

include precise

theorem quotients_gives {points values : List Decimal}
    (pointsFinite : ∀ value ∈ points, value.isFinite)
    (valuesFinite : ∀ value ∈ values, value.isFinite) :
    Gives (fun quotients => ∀ value ∈ quotients, value.isFinite = true)
      (quotients context points values) := by
  apply Gives.mapM
  rintro ⟨point, value⟩ inside
  exact (divOrZero_settles precise (pointsFinite _ (List.of_mem_zip inside).1)
    (valuesFinite _ (List.of_mem_zip inside).2)).gives

theorem initial_gives (finite : scenario.IsFinite) :
    Gives SiloState.IsFinite (scenario.initial context) := by
  apply (quotients_gives precise finite.gaugePoints finite.gaugeValues).bind
  intro pointsPerValue pointsPerValueFinite
  apply (sum_settles precise finite.gaugeValues).gives.bind
  intro tokenValue tokenValueFinite
  apply (add_settles precise finite.beanValue tokenValueFinite).gives.bind
  intro gaugeValue gaugeValueFinite
  apply (add_settles precise gaugeValueFinite finite.nonGaugeValue).gives.bind
  intro totalValue totalValueFinite
  apply (greatest_settles pointsPerValueFinite).gives.bind
  intro largest largestFinite
  exact {
    ratio := finite.initialRatio
    beanValue := finite.beanValue
    gaugeTokenValues := finite.gaugeValues
    points := finite.gaugePoints
    pointsPerValue := pointsPerValueFinite
    largestPointsPerValue := largestFinite
    nonGaugeValue := finite.nonGaugeValue
    gaugeValue := gaugeValueFinite
    totalValue := totalValueFinite
    totalStalk := finite.siloStalk }

theorem matureTokens_gives {count : Nat} {values : List Decimal} {germinating : List Written}
    (valuesFinite : ∀ value ∈ values, value.isFinite)
    (germinatingFinite : ∀ written ∈ germinating, written.ReadsFinite) :
    Gives (fun matured => ∀ value ∈ matured, value.isFinite = true)
      (matureTokens context count values germinating) := by
  fun_induction matureTokens context count values germinating with
  | case1 values germinating => exact valuesFinite
  | case2 count value values written germinating ih =>
      rw [List.forall_mem_cons] at valuesFinite germinatingFinite
      apply (Gives.lift germinatingFinite.1).bind
      intro germinated germinatedFinite
      apply (add_settles precise valuesFinite.1 germinatedFinite).gives.lift.bind
      intro matured maturedFinite
      apply (ih valuesFinite.2 germinatingFinite.2).bind
      intro rest restFinite
      exact List.forall_mem_cons.mpr ⟨maturedFinite, restFinite⟩
  | case3 => trivial

theorem mature_gives (finite : scenario.IsFinite) (stateFinite : state.IsFinite) :
    Gives SiloState.IsFinite (mature context scenario state) := by
  apply (decimalEntry_gives finite.germinatingBean scenario.bucket).bind
  intro germinatedBean germinatedBeanFinite
  apply (add_settles precise stateFinite.beanValue germinatedBeanFinite).gives.lift.bind
  intro beanValue beanValueFinite
  have noTokens : Gives (fun values : List Written => ∀ written ∈ values, written.ReadsFinite)
      (pure [] : Except YieldFailure (List Written)) := by
    intro written inside
    cases inside
  apply Settles.ite_bind (fun _ => noTokens)
    (fun _ => entry_gives (germinatingTokens_gives isFinite_zero finite.germinatingGauge)
      scenario.bucket)
  intro germinatingTokens germinatingFinite
  apply (matureTokens_gives precise stateFinite.gaugeTokenValues germinatingFinite).bind
  intro gaugeTokenValues gaugeTokenValuesFinite
  apply (sum_settles precise gaugeTokenValuesFinite).gives.lift.bind
  intro tokenValue tokenValueFinite
  apply (add_settles precise beanValueFinite tokenValueFinite).gives.lift.bind
  intro gaugeValue gaugeValueFinite
  apply (decimalEntry_gives finite.germinatingNonGauge scenario.bucket).bind
  intro germinatedOther germinatedOtherFinite
  apply (add_settles precise stateFinite.nonGaugeValue germinatedOtherFinite).gives.lift.bind
  intro nonGaugeValue nonGaugeValueFinite
  apply (add_settles precise gaugeValueFinite nonGaugeValueFinite).gives.lift.bind
  intro totalValue totalValueFinite
  exact { stateFinite with
    beanValue := beanValueFinite
    gaugeTokenValues := gaugeTokenValuesFinite
    gaugeValue := gaugeValueFinite
    nonGaugeValue := nonGaugeValueFinite
    totalValue := totalValueFinite }

theorem rebalanceToken_gives (finite : scenario.IsFinite) (stateFinite : state.IsFinite)
    {valueSum : Decimal} (sumFinite : valueSum.isFinite) (position : Nat) :
    Gives (fun moved => moved.1.isFinite = true ∧ moved.2.isFinite = true)
      (rebalanceToken context scenario state valueSum position) := by
  apply (entry_gives stateFinite.gaugeTokenValues position).bind
  intro value valueFinite
  apply (divOrZero_settles precise valueFinite sumFinite).gives.lift.bind
  intro share shareFinite
  apply (mul_settles precise shareFinite (rfl : hundred.isFinite)).gives.lift.bind
  intro percent percentFinite
  apply (entry_gives (forall_mem_rules PointRule.identity_settlesFinite.keepsFinite
    finite.pointRules) position).bind
  intro rule keepsFinite
  apply (entry_gives stateFinite.points position).bind
  intro points pointsFinite
  apply (decimalEntry_gives finite.optimalPercents position).bind
  intro optimal optimalFinite
  apply (keepsFinite precise pointsFinite percentFinite optimalFinite).lift.bind
  intro moved movedFinite
  apply (divOrZero_settles precise movedFinite valueFinite).gives.lift.bind
  intro quotient quotientFinite
  exact ⟨movedFinite, quotientFinite⟩

theorem rebalance_gives (finite : scenario.IsFinite) (stateFinite : state.IsFinite) :
    Gives SiloState.IsFinite (rebalance context scenario state) := by
  apply (sum_settles precise stateFinite.gaugeTokenValues).gives.lift.bind
  intro valueSum sumFinite
  apply (Gives.mapM fun position _ =>
    rebalanceToken_gives precise finite stateFinite sumFinite position).bind
  intro moved movedFinite
  have points : ∀ value ∈ moved.map Prod.fst, value.isFinite :=
    List.forall_mem_map.mpr fun both inside => (movedFinite both inside).1
  have pointsPerValue : ∀ value ∈ moved.map Prod.snd, value.isFinite :=
    List.forall_mem_map.mpr fun both inside => (movedFinite both inside).2
  apply (greatest_settles pointsPerValue).gives.lift.bind
  intro largest largestFinite
  exact { stateFinite with
    points := points
    pointsPerValue := pointsPerValue
    largestPointsPerValue := largestFinite }

theorem grow_gives (finite : scenario.IsFinite) (stateFinite : state.IsFinite)
    {seedScale scaledRatio : Decimal} (scaleFinite : seedScale.isFinite)
    (ratioFinite : scaledRatio.isFinite) :
    Gives (fun next => next.1.IsFinite ∧ next.2.IsFinite)
      (grow context scenario seedScale state scaledRatio) := by
  apply (mul_settles precise stateFinite.largestPointsPerValue ratioFinite).gives.bind
  intro beanPoints beanPointsFinite
  apply (sum_settles precise stateFinite.points).gives.bind
  intro tokenPoints tokenPointsFinite
  apply (mul_settles precise beanPointsFinite stateFinite.beanValue).gives.bind
  intro allBeanPoints allBeanPointsFinite
  apply (add_settles precise tokenPointsFinite allBeanPointsFinite).gives.bind
  intro pointTotal pointTotalFinite
  apply (divOr_settles precise stateFinite.totalStalk stateFinite.totalValue
    isFinite_one).gives.bind
  intro stalkPerValue stalkPerValueFinite
  apply (sub_settles precise stalkPerValueFinite isFinite_one).gives.bind
  intro averageGrowth averageGrowthFinite
  apply (div_gives precise averageGrowthFinite finite.catchUpRate).bind
  intro seasonGrowth seasonGrowthFinite
  apply (mul_settles precise seasonGrowthFinite stateFinite.gaugeValue).gives.bind
  intro grownStalk grownStalkFinite
  apply (divOrZero_settles precise grownStalkFinite pointTotalFinite).gives.bind
  intro stalkPerPoint stalkPerPointFinite
  apply (mul_settles precise stalkPerPointFinite beanPointsFinite).gives.bind
  intro stalkPerBean stalkPerBeanFinite
  apply (mul_settles precise stalkPerBeanFinite scaleFinite).gives.bind
  intro beanSeeds beanSeedsFinite
  apply (add_settles precise stateFinite.totalStalk grownStalkFinite).gives.bind
  intro grownTotal grownTotalFinite
  apply (add_settles precise grownTotalFinite finite.earnedBeans).gives.bind
  intro totalStalk totalStalkFinite
  apply (add_settles precise stateFinite.gaugeValue finite.earnedBeans).gives.bind
  intro gaugeValue gaugeValueFinite
  apply (add_settles precise stateFinite.totalValue finite.earnedBeans).gives.bind
  intro totalValue totalValueFinite
  apply (add_settles precise stateFinite.beanValue finite.earnedBeans).gives.bind
  intro beanValue beanValueFinite
  exact ⟨{ stateFinite with
      totalStalk := totalStalkFinite
      gaugeValue := gaugeValueFinite
      totalValue := totalValueFinite
      beanValue := beanValueFinite },
    { grownStalk := grownStalkFinite
      pointTotal := pointTotalFinite
      beanSeeds := beanSeedsFinite
      pointsPerValue := stateFinite.pointsPerValue
      totalStalk := totalStalkFinite }⟩

/-- A season of a silo in finite decimals ends in finite decimals. -/
theorem seasonStep_gives (finite : scenario.IsFinite) (stateFinite : state.IsFinite)
    (drift : RatioDrift) {seedScale : Decimal} (scaleFinite : seedScale.isFinite) (season : Nat) :
    Gives (fun next => next.1.IsFinite ∧ next.2.IsFinite)
      (seasonStep context scenario drift seedScale season state) := by
  have drifts : Gives SiloState.IsFinite (driftRatio context drift season state) := by
    apply (moveRatio_gives precise stateFinite.ratio (drift state.ratio season)).bind
    intro ratio ratioFinite
    exact { stateFinite with ratio := ratioFinite }
  apply drifts.lift.bind
  intro drifted driftedFinite
  apply (scaleRatio_settles precise driftedFinite.ratio).gives.lift.bind
  intro scaledRatio ratioFinite
  apply Settles.ite_bind (fun _ => mature_gives precise finite driftedFinite)
    (fun _ => .pure driftedFinite)
  intro matured maturedFinite
  apply Settles.ite_bind (fun _ => rebalance_gives precise finite maturedFinite)
    (fun _ => .pure maturedFinite)
  intro balanced balancedFinite
  exact (grow_gives precise finite balancedFinite scaleFinite ratioFinite).lift

/-- So do any number of seasons in a row. -/
theorem growthsFrom_gives (finite : scenario.IsFinite) (stateFinite : state.IsFinite)
    (drift : RatioDrift) {seedScale : Decimal} (scaleFinite : seedScale.isFinite)
    (season seasons : Nat) :
    Gives (fun growths => ∀ growth ∈ growths, growth.IsFinite)
      (growthsFrom context scenario drift seedScale season seasons state) := by
  induction seasons generalizing season state with
  | zero => exact fun _ => by simp
  | succ seasons ih =>
      apply (seasonStep_gives precise finite stateFinite drift scaleFinite season).bind
      rintro ⟨next, growth⟩ ⟨nextFinite, growthFinite⟩
      apply (ih nextFinite (season + 1)).bind
      intro later laterFinite
      exact List.forall_mem_cons.mpr ⟨growthFinite, laterFinite⟩

/-- All seasons of a simulation grow finite amounts. -/
theorem growths_gives (finite : scenario.IsFinite) (drift : RatioDrift) (seasons : Nat)
    (seedPrecision : Int) :
    Gives (fun growths => ∀ growth ∈ growths, growth.IsFinite)
      (scenario.growths context drift seasons seedPrecision) := by
  apply (initial_gives precise finite).lift.bind
  intro state stateFinite
  exact growthsFrom_gives precise finite stateFinite drift (isFinite_ofInt seedPrecision) 0 seasons

end GaugeScenario

/-! ## Seasons of a depositor -/

namespace Depositor

variable {depositor : Depositor} {growth : SeasonGrowth} {seedScale : Decimal}
  (precise : 0 < context.precision)

include precise

theorem tokenSeeds_gives (finite : depositor.IsFinite) (growthFinite : growth.IsFinite)
    (scaleFinite : seedScale.isFinite) :
    Gives (fun seeds => seeds.isFinite = true)
      (depositor.tokenSeeds context seedScale growth) := by
  unfold tokenSeeds
  split
  · exact isFinite_zero
  · split
    · next seeds held => exact Gives.lift (finite.staticSeeds seeds held)
    · trivial
  · next position _ =>
      apply (divOrZero_settles precise growthFinite.grownStalk
        growthFinite.pointTotal).gives.lift.bind
      intro stalkPerPoint stalkPerPointFinite
      apply (GaugeScenario.entry_gives growthFinite.pointsPerValue position).bind
      intro pointsPerValue pointsPerValueFinite
      apply (mul_settles precise stalkPerPointFinite pointsPerValueFinite).gives.lift.bind
      intro stalkPerValue stalkPerValueFinite
      exact (mul_settles precise stalkPerValueFinite scaleFinite).gives.lift

end Depositor

/-! ## Scenarios as they are given -/

theorem YieldFailure.context_gives (precision : Int) :
    Gives (fun context => 0 < context.precision) (YieldFailure.context precision) := by
  unfold YieldFailure.context ofPrecision?
  split
  · next context made =>
      split at made
      · cases made
        change 0 < precision.toNat
        omega
      · contradiction
  · trivial

/-- A scenario that is given in finite decimals is read into finite decimals, with beans of
the kind that is given. -/
theorem WrittenScenario.read_gives {written : WrittenScenario} {good : Decimal → Prop}
    (finite : written.IsFinite) (earned : Gives good written.earnedBeans.read) :
    Gives (fun scenario => scenario.IsFinite ∧ good scenario.earnedBeans)
      (written.read context) := by
  apply (finite.earnedBeans.and earned).bind
  rintro earnedBeans ⟨earnedFinite, earnedGood⟩
  apply finite.catchUpRate.bind
  intro catchUpRate catchUpFinite
  apply (Gives.mapM finite.gaugePoints).bind
  intro gaugePoints pointsFinite
  apply (Gives.mapM finite.gaugeValues).bind
  intro gaugeValues valuesFinite
  apply (Settles.any _).bind
  intro _ _
  apply finite.initialRatio.bind
  intro initialRatio ratioFinite
  apply finite.beanValue.bind
  intro beanValue beanFinite
  apply finite.nonGaugeValue.bind
  intro nonGaugeValue nonGaugeFinite
  apply finite.siloStalk.bind
  intro siloStalk stalkFinite
  refine ⟨?_, earnedGood⟩
  exact { finite with
    earnedBeans := earnedFinite
    catchUpRate := catchUpFinite
    gaugePoints := pointsFinite
    gaugeValues := valuesFinite
    initialRatio := ratioFinite
    beanValue := beanFinite
    nonGaugeValue := nonGaugeFinite
    siloStalk := stalkFinite }

end DepositYield
