import DepositYield.Proofs.Yield.PreGauge
import DepositYield.Proofs.Yield.Silo

/-!
# Simulations under the seed gauge settle

Under a scenario that fits together, the depositors of all assets are followed through
every season, so a simulation gives one growth for each asset, in their order, or it
overflows.
-/

namespace DepositYield

open Decimal Decimal.Context

variable {context : Context}

theorem YieldFailure.context_eq {precision : Int} (positive : 1 ≤ precision)
    (bounded : precision ≤ maxPrecision) :
    YieldFailure.context precision = .ok { precision := precision.toNat } := by
  unfold YieldFailure.context ofPrecision?
  rw [if_pos ⟨positive, bounded⟩]

/-! ## Seasons of a depositor -/

namespace Depositor

variable {depositor : Depositor} {growth : SeasonGrowth} {count : Nat} {seedScale : Decimal}
  (precise : 0 < context.precision)

include precise

theorem tokenSeeds_completes (fits : depositor.Fits count) (growthFits : growth.Fits count)
    (scaleFinite : seedScale.isFinite) :
    Completes (fun seeds => seeds.isFinite = true)
      (depositor.tokenSeeds context seedScale growth) := by
  unfold tokenSeeds
  cases followed : depositor.asset with
  | reference => exact isFinite_zero
  | nonGauge =>
      obtain ⟨seeds, held, seedsFinite⟩ := fits.staticSeeds
      dsimp only
      rw [held]
      exact seedsFinite.settles.lift
  | gauge position =>
      apply (divOrZero_settles precise growthFits.grownStalk growthFits.pointTotal).lift.bind
      intro stalkPerPoint stalkPerPointFinite
      apply (GaugeScenario.entry_completes growthFits.pointsPerValue
        (fits.asset position followed)).bind
      intro pointsPerValue pointsPerValueFinite
      apply (mul_settles precise stalkPerPointFinite pointsPerValueFinite).lift.bind
      intro stalkPerValue stalkPerValueFinite
      exact (mul_settles precise stalkPerValueFinite scaleFinite).lift

theorem beanShare_settles (fits : depositor.Fits count) (growthFits : growth.Fits count)
    {earnedBeans : Decimal} (earnedFinite : earnedBeans.isFinite) (season : Nat) :
    SettlesFinite (depositor.beanShare context earnedBeans season growth) := by
  unfold beanShare
  split
  · exact isFinite_zero
  · apply (mul_settles precise earnedFinite fits.stalk).bind
    intro claimed claimedFinite
    exact divOrZero_settles precise claimedFinite growthFits.totalStalk

/-- A season of a depositor leads to a depositor of the same asset that fits again. -/
theorem seasonStep_completes (fits : depositor.Fits count) (growthFits : growth.Fits count)
    {earnedBeans : Decimal} (earnedFinite : earnedBeans.isFinite)
    (scaleFinite : seedScale.isFinite) (scaleNonzero : seedScale.toRat ≠ 0) (season : Nat) :
    Completes (fun next => next.asset = depositor.asset ∧ next.Fits count)
      (depositor.seasonStep context earnedBeans seedScale season growth) := by
  apply (tokenSeeds_completes precise fits growthFits scaleFinite).bind
  intro tokenSeeds tokenSeedsFinite
  apply (beanShare_settles precise fits growthFits earnedFinite season).lift.bind
  intro share shareFinite
  apply (add_settles precise fits.stalk shareFinite).lift.bind
  intro shared sharedFinite
  apply (mul_settles precise fits.beans growthFits.beanSeeds).lift.bind
  intro seedsOfBeans seedsOfBeansFinite
  apply (mul_settles precise fits.tokens tokenSeedsFinite).lift.bind
  intro seedsOfTokens seedsOfTokensFinite
  apply (add_settles precise seedsOfBeansFinite seedsOfTokensFinite).lift.bind
  intro seeds seedsFinite
  apply (div_settles precise seedsFinite scaleFinite scaleNonzero).lift.bind
  intro grown grownFinite
  apply (add_settles precise sharedFinite grownFinite).lift.bind
  intro stalk stalkFinite
  apply (add_settles precise fits.beans shareFinite).lift.bind
  intro beans beansFinite
  exact ⟨rfl, { fits with stalk := stalkFinite, beans := beansFinite }⟩

theorem assetGrowth_settles (fits : depositor.Fits count) :
    Settles (· = .overflow)
      (fun growth => growth.asset = depositor.asset ∧ growth.growth.IsFinite)
      (depositor.assetGrowth context) := by
  apply (add_settles precise fits.beans fits.tokens).bind
  intro value valueFinite
  apply (sub_settles precise valueFinite isFinite_one).bind
  intro gained gainedFinite
  apply (mul_settles precise gainedFinite (rfl : hundred.isFinite)).bind
  intro bean beanFinite
  apply (sub_settles precise fits.stalk isFinite_one).bind
  intro gainedStalk gainedStalkFinite
  apply (mul_settles precise gainedStalkFinite (rfl : hundred.isFinite)).bind
  intro stalk stalkFinite
  exact ⟨rfl, beanFinite, stalkFinite⟩

end Depositor

/-! ## Whole simulations -/

/-- Depositors of the given assets that fit together with a number of gauge tokens. -/
structure Followed (count : Nat) (assets : List Asset) (depositors : List Depositor) : Prop where
  assets : depositors.map Depositor.asset = assets
  each : ∀ depositor ∈ depositors, depositor.Fits count

namespace GaugeScenario

theorem ofIndex_completes {count : Nat} {index : Int} (above : -2 ≤ index)
    (below : index < count) :
    Completes (fun asset => asset.index = index ∧ asset.Within count)
      (Asset.ofIndex count index) := by
  unfold Asset.ofIndex
  rw [if_neg (by omega)]
  split
  · next isOther => exact ⟨isOther.symm, by rintro position ⟨⟩⟩
  split
  · next isBean => exact ⟨isBean.symm, by rintro position ⟨⟩⟩
  · next other reference =>
      refine ⟨Int.toNat_of_nonneg (by omega), ?_⟩
      rintro position same
      obtain rfl := Asset.gauge.inj same
      omega

variable {scenario : GaugeScenario} {assets : List Asset}

theorem resolveAssets_completes (fits : scenario.Fits) :
    Completes
      (fun assets => assets.map Asset.index = scenario.assets ∧
        ∀ asset ∈ assets, asset.Within scenario.tokenCount)
      scenario.resolveAssets := by
  have labelled := Settles.mapM_labelled fun index inside =>
    ofIndex_completes (fits.assets index inside).1 (fits.assets index inside).2
  rwa [List.map_id'] at labelled

theorem followed_depositors (fits : scenario.Fits)
    (within : ∀ asset ∈ assets, asset.Within scenario.tokenCount)
    (all : assets.length = scenario.assets.length) :
    Followed scenario.tokenCount assets (scenario.depositors assets) where
  assets := by
    refine List.ext_getElem? fun position => ?_
    rw [List.getElem?_map, depositors, List.getElem?_mapIdx, Option.map_map]
    exact Option.map_id'
  each := by
    intro depositor inside
    obtain ⟨position, isPosition, rfl⟩ := List.mem_mapIdx.mp inside
    obtain ⟨seeds, held, seedsFinite⟩ := fits.staticSeeds position (by omega)
    refine ⟨within _ (List.getElem_mem isPosition), ⟨seeds, held, seedsFinite⟩, ?_, ?_,
      isFinite_one⟩
    · dsimp only
      split
      · exact isFinite_one
      · exact isFinite_zero
    · dsimp only
      split
      · exact isFinite_zero
      · exact isFinite_one

variable (precise : 0 < context.precision) (fits : scenario.Fits) {drift : RatioDrift}
  (driftFinite : ∀ ratio season, (drift ratio season).isFinite)

include precise fits driftFinite

/-- All depositors are followed through any number of seasons in a row. -/
theorem run_completes {seedScale : Decimal} (scaleFinite : seedScale.isFinite)
    (scaleNonzero : seedScale.toRat ≠ 0) (season seasons : Nat) {state : SiloState}
    (stateFits : state.Fits scenario.tokenCount) {depositors : List Depositor}
    (followed : Followed scenario.tokenCount assets depositors) :
    Completes (Followed scenario.tokenCount assets)
      (run context scenario drift seedScale season seasons state depositors) := by
  induction seasons generalizing season state depositors with
  | zero => exact followed
  | succ seasons ih =>
      apply (seasonStep_completes precise fits stateFits driftFinite scaleFinite season).bind
      rintro ⟨next, growth⟩ ⟨nextFits, growthFits⟩
      have advanced := Settles.mapM_labelled fun depositor inside =>
        Depositor.seasonStep_completes precise (followed.each depositor inside) growthFits
          fits.earnedBeans scaleFinite scaleNonzero season
      apply advanced.bind
      rintro moved ⟨sameAssets, movedFit⟩
      exact ih (season + 1) nextFits ⟨sameAssets.trans followed.assets, movedFit⟩

/-- A simulation gives the growth of each asset, in their order, or overflows. -/
theorem simulateAssets_completes (within : ∀ asset ∈ assets, asset.Within scenario.tokenCount)
    (all : assets.length = scenario.assets.length) (seasons : Nat) {seedPrecision : Int}
    (nonzero : seedPrecision ≠ 0) :
    Completes
      (fun yields => yields.map AssetGrowth.asset = assets ∧
        ∀ yield ∈ yields, yield.growth.IsFinite)
      (simulateAssets context scenario assets drift seasons seedPrecision) := by
  have scaleNonzero : (ofInt seedPrecision).toRat ≠ 0 := by
    rw [toRat_ofInt]
    exact_mod_cast nonzero
  apply (initial_settles precise fits).lift.bind
  intro state stateFits
  apply (run_completes precise fits driftFinite (isFinite_ofInt seedPrecision) scaleNonzero 0
    seasons stateFits (followed_depositors fits within all)).bind
  intro final followed
  have measured := Settles.mapM_labelled fun depositor inside =>
    (Depositor.assetGrowth_settles precise (followed.each depositor inside)).lift
  rwa [followed.assets] at measured

omit precise in
/-- In a context of a valid precision a simulation gives the growth of each tracked
asset, in their order, or overflows. -/
theorem simulate_completes (seasons : Nat) {precision seedPrecision : Int}
    (positive : 1 ≤ precision) (bounded : precision ≤ maxPrecision) (nonzero : seedPrecision ≠ 0) :
    Completes
      (fun yields => yields.map (fun yield => yield.asset.index) = scenario.assets ∧
        ∀ yield ∈ yields, yield.growth.IsFinite)
      (scenario.simulate drift seasons precision seedPrecision) := by
  apply (resolveAssets_completes fits).bind
  rintro assets ⟨indices, within⟩
  have all : assets.length = scenario.assets.length := by
    rw [← indices, List.length_map]
  rw [YieldFailure.context_eq positive bounded]
  have precise : 0 < (Context.mk precision.toNat).precision := by
    change 0 < precision.toNat
    omega
  apply (simulateAssets_completes precise fits driftFinite within all seasons nonzero).mono
  rintro yields ⟨followed, finite⟩
  refine ⟨?_, finite⟩
  rw [← indices, ← followed, List.map_map]
  rfl

end GaugeScenario

end DepositYield
