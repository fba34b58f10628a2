import DepositYield.Forecast.Window
import DepositYield.Proofs.Forecast.Scenario
import DepositYield.Proofs.Yield.Gauge

/-!
# Forecasts settle

With valid settings and a finite mint rate, the yields of any tokens can be forecast
from any snapshot: there is one yield for each token, or the arithmetic overflows.  No
list of a scenario is too short, nothing is divided by zero and every comparison has an
answer, under the seed gauge and before it.
-/

namespace DepositYield.Forecast

open Decimal Decimal.Context

variable {context : Context} {settings : Settings} {snapshot : Snapshot} {tokens : List Token}
  {rate : Decimal}

/-! ## Scenarios fit together -/

theorem assetOf_within (settings : Settings) (gauges : List Token) (token : Token) :
    (assetOf settings gauges token).Within gauges.length := by
  intro position isGauge
  unfold assetOf at isGauge
  split at isGauge
  · contradiction
  split at isGauge
  · next found =>
      obtain rfl := Asset.gauge.inj isGauge
      exact position_lt_of_gaugePosition? found
  · contradiction

theorem index_bounds {count : Nat} {asset : Asset} (within : asset.Within count) :
    -2 ≤ asset.index ∧ asset.index < count := by
  cases asset with
  | reference => constructor <;> simp only [Asset.index] <;> omega
  | nonGauge => constructor <;> simp only [Asset.index] <;> omega
  | gauge position =>
      have below := within position rfl
      constructor <;> simp only [Asset.index] <;> omega

theorem filled_of_converts {Item : Type} {places : Int} {items : List Item} {amount : Item → Int}
    {decimals : List Decimal}
    (converts : List.Forall₂ (fun item => context.Converts places (amount item)) items decimals) :
    FiniteValues items.length decimals :=
  Filled.of_forall₂ (converts.imp fun _ _ converted => converted.finite)

theorem isFinite_of_converts {places amount : Int} {written : Written}
    (converts : written.Converts context places amount) : written.IsFinite := by
  obtain ⟨decimal, rfl, converted⟩ := converts
  exact ⟨decimal, rfl, converted.finite⟩

theorem filled_of_writtenConverts {Item : Type} {places : Int} {items : List Item}
    {amount : Item → Int} {written : List Written}
    (converts : List.Forall₂ (fun item => Written.Converts context places (amount item)) items
      written) : Filled Written.IsFinite items.length written :=
  Filled.of_forall₂ (converts.imp fun _ _ => isFinite_of_converts)

namespace Translates

variable {scenario : GaugeScenario}
  (translates : Translates context settings snapshot tokens rate scenario)

include translates

theorem tokenCount_eq :
    scenario.tokenCount = (gaugeTokens settings snapshot tokens).length :=
  translates.gaugePoints.length_eq.symm

theorem germinatingTokens_filled :
    Filled (Filled Written.IsFinite scenario.tokenCount) 2 scenario.germinatingTokens := by
  have bucket : ∀ {part : Token → Int} {values : List Written},
      List.Forall₂ (Written.Converts context valuePlaces)
          ((gaugeTokens settings snapshot tokens).map part) values →
        Filled Written.IsFinite scenario.tokenCount values := by
    intro part values converts
    rw [translates.tokenCount_eq, ← List.length_map]
    exact filled_of_writtenConverts converts
  have buckets := translates.germinatingGauge
  unfold GaugeScenario.germinatingTokens
  generalize scenario.germinatingGauge = germinating at buckets
  cases buckets with
  | cons even rest =>
      cases rest with
      | cons odd none =>
          cases none
          exact (Filled.nil.cons (bucket odd)).cons (bucket even)

theorem seedsAt_isFinite {position : Nat} (inside : position < scenario.assets.length) :
    ∃ seeds, scenario.seedsAt position = some seeds ∧ seeds.IsFinite := by
  have zeroFinite : (Written.value zero).IsFinite := ⟨zero, rfl, isFinite_zero⟩
  rw [translates.assets, List.length_map] at inside
  obtain ⟨seeds, held, converted⟩ := exists_getElem?_of_forall₂ translates.staticSeeds
    (List.getElem?_eq_getElem inside)
  unfold GaugeScenario.seedsAt
  split
  · exact ⟨_, rfl, zeroFinite⟩
  rw [held]
  refine ⟨_, rfl, ?_⟩
  unfold ConvertsSeeds at converted
  split at converted
  · obtain ⟨written, rfl, isConverted⟩ := converted
    exact isFinite_of_converts isConverted
  · rw [converted]
    exact zeroFinite

theorem filled_rules :
    Filled PointRule.SettlesFinite scenario.tokenCount scenario.rules where
  length := by
    unfold GaugeScenario.rules
    split
    · exact List.length_replicate
    · rw [translates.pointRules, List.length_map, translates.tokenCount_eq]
  each := by
    apply GaugeScenario.forall_mem_rules PointRule.identity_settlesFinite
    rw [translates.pointRules]
    exact List.forall_mem_map.mpr fun token _ => PointRule.ofSelector_settlesFinite _

/-- The scenario of a snapshot fits together. -/
theorem fits (valid : settings.Valid) (rateFinite : rate.isFinite) : scenario.Fits := by
  have count := translates.tokenCount_eq
  exact {
    assets := by
      intro index inside
      rw [translates.assets] at inside
      obtain ⟨token, -, rfl⟩ := List.mem_map.mp inside
      rw [count]
      exact index_bounds (assetOf_within settings _ token)
    earnedBeans := translates.earnedBeans ▸ rateFinite
    catchUpRate := by
      rw [translates.catchUpRate]
      exact isFinite_ofInt _
    catchesUp := by
      rw [translates.catchUpRate, toRat_ofInt]
      exact_mod_cast valid.gauge.catchUpRate.ne'
    gaugePoints := count ▸ filled_of_converts translates.gaugePoints
    gaugeValues := count ▸ filled_of_converts translates.gaugeValues
    optimalPercents := count ▸ filled_of_writtenConverts translates.optimalPercents
    initialRatio := translates.initialRatio.1
    beanValue := translates.beanValue.finite
    nonGaugeValue := translates.nonGaugeValue.finite
    siloStalk := translates.siloStalk.finite
    germinatingBean := filled_of_writtenConverts translates.germinatingBean
    germinatingTokens := translates.germinatingTokens_filled
    germinatingNonGauge := filled_of_writtenConverts translates.germinatingNonGauge
    staticSeeds := fun _ => translates.seedsAt_isFinite
    rules := translates.filled_rules }

end Translates

/-! ## Yields -/

section Growths

variable (precise : 0 < context.precision)

include precise

theorem seedsPerValue_settles (token : Token) :
    SettlesFinite (seedsPerValue context snapshot token) :=
  ofScaled_settles precise _ (by decide) (by decide)

theorem preGaugeGrowth_settles (rateFinite : rate.isFinite) {seedsPerBean : Decimal}
    (seedsFinite : seedsPerBean.isFinite) (token : Token) :
    Settles (· = .overflow) Growth.IsFinite
      (preGaugeGrowth context settings snapshot rate seedsPerBean token) := by
  apply (seedsPerValue_settles precise token).bind
  intro seedsPerValue seedsPerValueFinite
  apply (PreGauge.Scenario.simulate_settles precise
    ⟨rateFinite, seedsPerValueFinite, seedsFinite⟩ settings.simulation.horizon.toNat).bind
  intro growth growthFinite
  apply (mul_settles precise growthFinite.bean (rfl : hundred.isFinite)).bind
  intro bean beanFinite
  apply (mul_settles precise growthFinite.stalk (rfl : hundred.isFinite)).bind
  intro stalk stalkFinite
  exact ⟨beanFinite, stalkFinite⟩

/-- Before the seed gauge each token has a growth. -/
theorem preGaugeGrowths_settles (rateFinite : rate.isFinite) :
    Settles (· = .overflow) (Filled Growth.IsFinite tokens.length)
      (preGaugeGrowths context settings snapshot rate tokens) := by
  apply (seedsPerValue_settles precise settings.reference).bind
  intro seedsPerBean seedsFinite
  have each : Settles (· = .overflow) (List.Forall₂ (fun _ growth => growth.IsFinite) tokens)
      (tokens.mapM (preGaugeGrowth context settings snapshot rate seedsPerBean)) :=
    Settles.mapM fun token _ => preGaugeGrowth_settles precise rateFinite seedsFinite token
  exact each.mono fun _ => Filled.of_forall₂

/-- Under the seed gauge each token has a growth. -/
theorem gaugeGrowths_completes (valid : settings.Valid) (rateFinite : rate.isFinite) :
    Completes (Filled Growth.IsFinite tokens.length)
      (gaugeGrowths context settings snapshot rate tokens) := by
  have made : Settles (· = .overflow) (Translates context settings snapshot tokens rate)
      (gaugeScenario context settings snapshot tokens rate) :=
    (gaugeScenario_settles precise valid rate).allow fun _ => And.left
  apply made.lift.bind
  intro scenario translates
  have precision := valid.simulation.decimalPrecision
  have bounded : settings.simulation.decimalPrecision ≤ maxPrecision :=
    precision.2.trans (by decide)
  apply (GaugeScenario.simulate_completes (translates.fits valid rateFinite)
    (fun _ _ => valid.gauge.ratioDriftFinite) settings.simulation.horizon.toNat (by omega) bounded
    valid.simulation.seedPrecision.ne').bind
  rintro yields ⟨followed, finite⟩
  have count : yields.length = tokens.length := by
    have lengths := congrArg List.length followed
    rwa [translates.assets, List.length_map, List.length_map] at lengths
  exact Filled.map ⟨count, finite⟩ fun _ => id

end Growths

/-- Growths of tokens are tagged with the tokens, in their order. -/
theorem tagged_zipWith {period window createdAt : Int} {growths : List Growth}
    (filled : Filled Growth.IsFinite tokens.length growths) :
    let yields := List.zipWith
      (fun token growth => ({ token, period, window, growth, createdAt } : TokenYield))
      tokens growths
    yields.map TokenYield.token = tokens ∧
      ∀ yield ∈ yields, yield.period = period ∧ yield.window = window ∧ yield.growth.IsFinite := by
  induction tokens generalizing growths with
  | nil => simp
  | cons token rest ih =>
      obtain ⟨growth, others, rfl, finite, othersFilled⟩ := filled.exists_cons
      obtain ⟨followed, tagged⟩ := ih othersFilled
      exact ⟨congrArg (token :: ·) followed,
        List.forall_mem_cons.mpr ⟨⟨rfl, rfl, finite⟩, tagged⟩⟩

/-- With valid settings and a finite rate the yields of tokens can be forecast from any
snapshot: one for each token, in their order and for the period and window that were
asked for.  Only an overflow prevents it. -/
theorem tokenYields_completes (settings : Settings) (valid : settings.Valid)
    (snapshot : Snapshot) (period window : Int) (rate : Decimal) (rateFinite : rate.isFinite)
    (tokens : List Token) (createdAt : Int) :
    match tokenYields settings snapshot period window rate tokens createdAt with
    | .ok yields => yields.map TokenYield.token = tokens ∧
        ∀ yield ∈ yields, yield.period = period ∧ yield.window = window ∧ yield.growth.IsFinite
    | .error failure => failure = .signal .overflow := by
  suffices settled : Completes
      (fun yields => yields.map TokenYield.token = tokens ∧
        ∀ yield ∈ yields, yield.period = period ∧ yield.window = window ∧ yield.growth.IsFinite)
      (tokenYields settings snapshot period window rate tokens createdAt) by
    cases result : tokenYields settings snapshot period window rate tokens createdAt with
    | ok yields => rwa [result] at settled
    | error failure => rwa [result] at settled
  unfold tokenYields
  split
  · next none =>
      rw [List.isEmpty_iff.mp none]
      exact ⟨rfl, by simp⟩
  have precision := valid.simulation.decimalPrecision
  have bounded : settings.simulation.decimalPrecision ≤ maxPrecision :=
    precision.2.trans (by decide)
  rw [Forecast.context, YieldFailure.context_eq (by omega) bounded]
  have precise : 0 < (Context.mk settings.simulation.decimalPrecision.toNat).precision := by
    change 0 < settings.simulation.decimalPrecision.toNat
    omega
  apply Settles.ite_bind
    (fun _ => (preGaugeGrowths_settles precise rateFinite).lift)
    (fun _ => gaugeGrowths_completes precise valid rateFinite)
  intro growths filled
  exact tagged_zipWith filled

/-- The standard settings with three simulated seasons. -/
def threeSeasons : Settings :=
  { Settings.standard with
    simulation := { SimulationSettings.standard with horizon := 3 } }

theorem threeSeasons_valid : threeSeasons.Valid :=
  { Settings.standard_valid with
    simulation := { SimulationSettings.standard_valid with horizon := by decide } }

/-- Yields are forecast from an empty silo, too. -/
theorem empty_silo_yields :
    ∃ yields, tokenYields threeSeasons (Ledger.empty none).snapshot 19628 24 .hundred
        [threeSeasons.reference, "0xt"] 0 = .ok yields ∧
      yields.map TokenYield.token = [threeSeasons.reference, "0xt"] ∧
      ∀ yield ∈ yields, yield.period = 19628 ∧ yield.window = 24 ∧ yield.growth.IsFinite := by
  have completes := tokenYields_completes threeSeasons threeSeasons_valid
    (Ledger.empty none).snapshot 19628 24 .hundred rfl [threeSeasons.reference, "0xt"] 0
  have settled : (tokenYields threeSeasons (Ledger.empty none).snapshot 19628 24 .hundred
      [threeSeasons.reference, "0xt"] 0).isOk = true := by decide +kernel
  cases result : tokenYields threeSeasons (Ledger.empty none).snapshot 19628 24 .hundred
      [threeSeasons.reference, "0xt"] 0 with
  | error failure =>
      rw [result] at settled
      contradiction
  | ok yields =>
      rw [result] at completes
      exact ⟨yields, rfl, completes⟩

end DepositYield.Forecast
