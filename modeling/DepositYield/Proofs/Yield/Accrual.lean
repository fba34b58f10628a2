import DepositYield.Proofs.Yield.Cover
import DepositYield.Proofs.Yield.PreGauge

/-!
# Yields under the seed gauge accrue

While a silo grows amounts of stalk, its depositors only gain: a season adds an amount of
beans and two amounts of stalk to numbers that have been rounded before.  A simulation of
fewer seasons goes through the first seasons of a longer one, so in a silo that is covered
while value germinates no yield is a loss, and none shrinks over more seasons.
-/

namespace DepositYield

open Decimal Decimal.Context

variable {context : Context}

theorem hundred_nonneg : 0 ≤ hundred.toRat :=
  (isAmount_finite 100 0).nonneg

/-! ## Seasons of a depositor -/

namespace Depositor

/-- A depositor in amounts, rounded, who has at least the unit of value and the stalk of a
new deposit. -/
structure HasAmounts (context : Context) (depositor : Depositor) : Prop where
  staticSeeds : ∀ seeds, depositor.staticSeeds = some seeds → seeds.ReadsAmount
  beans : depositor.beans.IsAmount
  tokens : depositor.tokens.IsAmount
  stalk : depositor.stalk.IsAmount
  beansSettled : context.rounded depositor.beans.toRat = depositor.beans.toRat
  stalkSettled : context.rounded depositor.stalk.toRat = depositor.stalk.toRat
  wholeValue : 1 ≤ depositor.beans.toRat + depositor.tokens.toRat
  wholeStalk : 1 ≤ depositor.stalk.toRat

/-- The same depositor later on, with no fewer beans and no less stalk. -/
structure Gains (earlier later : Depositor) : Prop where
  asset : earlier.asset = later.asset
  tokens : earlier.tokens = later.tokens
  beans : earlier.beans.AtMost later.beans
  stalk : earlier.stalk.AtMost later.stalk

namespace Gains

theorem refl {depositor : Depositor} (holds : depositor.HasAmounts context) :
    depositor.Gains depositor :=
  ⟨rfl, rfl, .refl holds.beans.finite, .refl holds.stalk.finite⟩

theorem trans {first second third : Depositor} (before : first.Gains second)
    (after : second.Gains third) : first.Gains third where
  asset := before.asset.trans after.asset
  tokens := before.tokens.trans after.tokens
  beans := before.beans.trans after.beans
  stalk := before.stalk.trans after.stalk

end Gains

variable {depositor : Depositor} {growth : SeasonGrowth} {earnedBeans seedScale : Decimal}
  (precise : 0 < context.precision)

include precise

theorem opening_amounts (asset : Asset) {staticSeeds : Option Written}
    (seeds : ∀ written, staticSeeds = some written → written.ReadsAmount) :
    (opening asset staticSeeds).HasAmounts context := by
  by_cases isBean : asset = .reference
  · subst isBean
    exact {
      staticSeeds := seeds
      beans := isAmount_one
      tokens := isAmount_zero
      stalk := isAmount_one
      beansSettled := by simp [opening, rounded_one precise]
      stalkSettled := by simp [opening, rounded_one precise]
      wholeValue := by simp [opening]
      wholeStalk := by simp [opening] }
  · have beansZero : (opening asset staticSeeds).beans = zero := if_neg isBean
    have tokensOne : (opening asset staticSeeds).tokens = one := if_neg isBean
    exact {
      staticSeeds := seeds
      beans := beansZero ▸ isAmount_zero
      tokens := tokensOne ▸ isAmount_one
      stalk := isAmount_one
      beansSettled := by simp [beansZero]
      stalkSettled := by simp [opening, rounded_one precise]
      wholeValue := by simp [beansZero, tokensOne]
      wholeStalk := by simp [opening] }

section Season

variable (holds : depositor.HasAmounts context) (grown : growth.HasAmounts)

include holds grown

theorem tokenSeeds_amounts (scale : seedScale.IsAmount) :
    Gives IsAmount (depositor.tokenSeeds context seedScale growth) := by
  unfold tokenSeeds
  split
  · exact isAmount_zero
  · split
    · next seeds held => exact Gives.lift (holds.staticSeeds seeds held)
    · trivial
  · next position _ =>
      apply (divOrZero_amounts precise grown.grownStalk grown.pointTotal).lift.bind
      intro stalkPerPoint stalkPerPointAmount
      apply (GaugeScenario.entry_gives grown.pointsPerValue position).bind
      intro pointsPerValue pointsPerValueAmount
      apply (mul_amounts precise stalkPerPointAmount pointsPerValueAmount).lift.bind
      intro stalkPerValue stalkPerValueAmount
      exact (mul_amounts precise stalkPerValueAmount scale).lift

theorem beanShare_amounts (earned : earnedBeans.IsAmount) (season : Nat) :
    Gives IsAmount (depositor.beanShare context earnedBeans season growth) := by
  unfold beanShare
  split
  · exact isAmount_zero
  · apply (mul_amounts precise earned holds.stalk).bind
    intro claimed claimedAmount
    exact divOrZero_amounts precise claimedAmount grown.totalStalk

/-- A season takes nothing from a depositor. -/
theorem seasonStep_gains (earned : earnedBeans.IsAmount) (scale : seedScale.IsAmount)
    (positive : seedScale.IsPositive) (season : Nat) :
    Gives (fun next => next.HasAmounts context ∧ depositor.Gains next)
      (depositor.seasonStep context earnedBeans seedScale season growth) := by
  apply (tokenSeeds_amounts precise holds grown scale).bind
  intro tokenSeeds tokenSeedsAmount
  apply (beanShare_amounts precise holds grown earned season).lift.bind
  intro share shareAmount
  apply (add_amounts precise holds.stalk shareAmount).lift.bind
  rintro shared ⟨sharedAmount, isShared⟩
  apply (mul_amounts precise holds.beans grown.beanSeeds).lift.bind
  intro seedsOfBeans seedsOfBeansAmount
  apply (mul_amounts precise holds.tokens tokenSeedsAmount).lift.bind
  intro seedsOfTokens seedsOfTokensAmount
  apply (add_amounts precise seedsOfBeansAmount seedsOfTokensAmount).lift.bind
  rintro seeds ⟨seedsAmount, -⟩
  apply (div_amounts precise seedsAmount positive).lift.bind
  intro grownStalk grownStalkAmount
  apply (add_amounts precise sharedAmount grownStalkAmount).lift.bind
  rintro stalk ⟨stalkAmount, isStalk⟩
  apply (add_amounts precise holds.beans shareAmount).lift.bind
  rintro beans ⟨beansAmount, isBeans⟩
  have moreBeans : depositor.beans.toRat ≤ beans.toRat := by
    rw [isBeans]
    exact le_rounded_of_settled precise holds.beansSettled
      (le_add_of_nonneg_right shareAmount.nonneg)
  have moreShared : depositor.stalk.toRat ≤ shared.toRat := by
    rw [isShared]
    exact le_rounded_of_settled precise holds.stalkSettled
      (le_add_of_nonneg_right shareAmount.nonneg)
  have moreStalk : depositor.stalk.toRat ≤ stalk.toRat := by
    rw [isStalk]
    exact le_rounded_of_settled precise holds.stalkSettled
      (moreShared.trans (le_add_of_nonneg_right grownStalkAmount.nonneg))
  refine ⟨{ holds with
    beans := beansAmount
    stalk := stalkAmount
    beansSettled := settled_of_rounded precise isBeans
    stalkSettled := settled_of_rounded precise isStalk
    wholeValue := holds.wholeValue.trans (add_le_add_left moreBeans _)
    wholeStalk := holds.wholeStalk.trans moreStalk }, ?_⟩
  exact ⟨rfl, rfl, ⟨holds.beans.finite, beansAmount.finite, moreBeans⟩,
    ⟨holds.stalk.finite, stalkAmount.finite, moreStalk⟩⟩

end Season

/-- Nor do any number of seasons. -/
theorem follow_gains (holds : depositor.HasAmounts context) {growths : List SeasonGrowth}
    (grown : ∀ growth ∈ growths, growth.HasAmounts) (earned : earnedBeans.IsAmount)
    (scale : seedScale.IsAmount) (positive : seedScale.IsPositive) (season : Nat) :
    Gives (fun final => final.HasAmounts context ∧ depositor.Gains final)
      (depositor.follow context earnedBeans seedScale season growths) := by
  induction growths generalizing depositor season with
  | nil => exact ⟨holds, .refl holds⟩
  | cons growth later ih =>
      rw [List.forall_mem_cons] at grown
      apply (seasonStep_gains precise holds grown.1 earned scale positive season).bind
      rintro next ⟨nextHolds, gains⟩
      apply (ih nextHolds grown.2 (season + 1)).mono
      rintro final ⟨finalHolds, gainsLater⟩
      exact ⟨finalHolds, gains.trans gainsLater⟩

/-- Who is followed through more seasons gains from where fewer of them lead. -/
theorem gains_of_prefix (holds : depositor.HasAmounts context) {growths all : List SeasonGrowth}
    (begins : growths <+: all) (grown : ∀ growth ∈ all, growth.HasAmounts)
    (earned : earnedBeans.IsAmount) (scale : seedScale.IsAmount)
    (positive : seedScale.IsPositive) {season : Nat} {earlier later : Depositor}
    (before : depositor.follow context earnedBeans seedScale season growths = .ok earlier)
    (after : depositor.follow context earnedBeans seedScale season all = .ok later) :
    earlier.Gains later := by
  induction growths generalizing depositor season all with
  | nil =>
      obtain rfl := Except.ok.inj before
      exact (gives_iff.mp (follow_gains precise holds grown earned scale positive season) later
        after).2
  | cons growth growths ih =>
      obtain ⟨rest, rfl⟩ := begins
      rw [List.cons_append, List.forall_mem_cons] at grown
      obtain ⟨next, stepped, nextBefore⟩ := bind_eq_ok_iff.mp before
      obtain ⟨_, steppedAgain, nextAfter⟩ := bind_eq_ok_iff.mp after
      obtain rfl := Except.ok.inj (stepped.symm.trans steppedAgain)
      have nextHolds := (gives_iff.mp
        (seasonStep_gains precise holds grown.1 earned scale positive season) next stepped).1
      exact ih nextHolds (List.prefix_append _ _) grown.2 nextBefore nextAfter

/-- The yield of a depositor is what was gained, in percent and rounded three times. -/
theorem assetGrowth_figures (holds : depositor.HasAmounts context) :
    Gives
      (fun yield => yield.asset = depositor.asset ∧ yield.growth.IsAmount ∧
        yield.growth.bean.toRat =
          context.rounded (context.rounded
            (context.rounded (depositor.beans.toRat + depositor.tokens.toRat) - 1) *
              hundred.toRat) ∧
        yield.growth.stalk.toRat =
          context.rounded (context.rounded (depositor.stalk.toRat - 1) * hundred.toRat))
      (depositor.assetGrowth context) := by
  apply (add_amounts precise holds.beans holds.tokens).bind
  rintro value ⟨valueAmount, isValue⟩
  have whole : 1 ≤ value.toRat := by
    rw [isValue]
    exact le_rounded_of_settled precise (rounded_one precise) holds.wholeValue
  apply ((sub_calculates precise valueAmount.finite isFinite_one).gives_amount
    (by rw [toRat_one]; exact sub_nonneg.mpr whole)).bind
  rintro gained ⟨gainedAmount, isGained⟩
  apply ((mul_calculates precise gainedAmount.finite (rfl : hundred.isFinite)).gives_amount
    (mul_nonneg gainedAmount.nonneg hundred_nonneg)).bind
  rintro bean ⟨beanAmount, isBean⟩
  apply ((sub_calculates precise holds.stalk.finite isFinite_one).gives_amount
    (by rw [toRat_one]; exact sub_nonneg.mpr holds.wholeStalk)).bind
  rintro gainedStalk ⟨gainedStalkAmount, isGainedStalk⟩
  apply ((mul_calculates precise gainedStalkAmount.finite (rfl : hundred.isFinite)).gives_amount
    (mul_nonneg gainedStalkAmount.nonneg hundred_nonneg)).bind
  rintro stalk ⟨stalkAmount, isStalk⟩
  refine ⟨rfl, ⟨beanAmount, stalkAmount⟩, ?_, ?_⟩
  · rw [isBean, isGained, isValue, toRat_one]
  · rw [isStalk, isGainedStalk, toRat_one]

/-- Who has gained has no smaller yield. -/
theorem Gains.assetGrowth {earlier later : Depositor} (gains : earlier.Gains later)
    (earlierHolds : earlier.HasAmounts context) (laterHolds : later.HasAmounts context)
    {before after : AssetGrowth} (first : earlier.assetGrowth context = .ok before)
    (second : later.assetGrowth context = .ok after) :
    before.asset = after.asset ∧ before.growth.AtMost after.growth := by
  obtain ⟨isAsset, amounts, isBean, isStalk⟩ :=
    gives_iff.mp (assetGrowth_figures precise earlierHolds) before first
  obtain ⟨isLaterAsset, laterAmounts, isLaterBean, isLaterStalk⟩ :=
    gives_iff.mp (assetGrowth_figures precise laterHolds) after second
  refine ⟨by rw [isAsset, isLaterAsset, gains.asset],
    ⟨amounts.bean.finite, laterAmounts.bean.finite, ?_⟩,
    ⟨amounts.stalk.finite, laterAmounts.stalk.finite, ?_⟩⟩
  · have value : context.rounded (earlier.beans.toRat + earlier.tokens.toRat) ≤
        context.rounded (later.beans.toRat + later.tokens.toRat) := by
      rw [gains.tokens]
      exact rounded_mono precise (add_le_add_left gains.beans.le _)
    rw [isBean, isLaterBean]
    exact rounded_mono precise (mul_le_mul_of_nonneg_right
      (rounded_mono precise (sub_le_sub_right value 1)) hundred_nonneg)
  · rw [isStalk, isLaterStalk]
    exact rounded_mono precise (mul_le_mul_of_nonneg_right
      (rounded_mono precise (sub_le_sub_right gains.stalk.le 1)) hundred_nonneg)

end Depositor

/-! ## Simulations -/

namespace GaugeScenario

variable {scenario : GaugeScenario} {drift : RatioDrift} {seedPrecision : Int}
  {fewer seasons : Nat}

/-- Fewer seasons grow what the first seasons of more of them grow. -/
theorem growthsFrom_prefix {seedScale : Decimal} {season : Nat} {state : SiloState}
    {growths all : List SeasonGrowth} (le : fewer ≤ seasons)
    (before : growthsFrom context scenario drift seedScale season fewer state = .ok growths)
    (after : growthsFrom context scenario drift seedScale season seasons state = .ok all) :
    growths <+: all := by
  induction fewer generalizing seasons season state growths all with
  | zero =>
      obtain rfl := Except.ok.inj before
      exact List.nil_prefix
  | succ fewer ih =>
      cases seasons with
      | zero => exact absurd le (Nat.not_succ_le_zero fewer)
      | succ seasons =>
          simp only [growthsFrom, bind_eq_ok_iff] at before after
          obtain ⟨⟨next, growth⟩, stepped, rest, restGrown, made⟩ := before
          obtain ⟨_, steppedAgain, allRest, allGrown, allMade⟩ := after
          obtain rfl := Except.ok.inj made
          obtain rfl := Except.ok.inj allMade
          obtain rfl := Except.ok.inj (stepped.symm.trans steppedAgain)
          exact List.prefix_cons_inj growth |>.mpr
            (ih (Nat.le_of_succ_le_succ le) restGrown allGrown)

theorem growths_prefix {growths all : List SeasonGrowth} (le : fewer ≤ seasons)
    (before : scenario.growths context drift fewer seedPrecision = .ok growths)
    (after : scenario.growths context drift seasons seedPrecision = .ok all) :
    growths <+: all := by
  obtain ⟨state, started, grown⟩ := bind_eq_ok_iff.mp before
  obtain ⟨_, startedAgain, allGrown⟩ := bind_eq_ok_iff.mp after
  obtain rfl := Except.ok.inj (started.symm.trans startedAgain)
  exact growthsFrom_prefix le grown allGrown

section Covered

variable (precise : 0 < context.precision) (amounts : scenario.HasAmounts)
  (positive : 0 < seedPrecision)

include precise amounts

/-- Every depositor starts in amounts. -/
theorem depositors_amounts (assets : List Asset) :
    ∀ depositor ∈ scenario.depositors assets, depositor.HasAmounts context := by
  intro depositor inside
  obtain ⟨position, held⟩ := List.mem_iff_getElem?.mp inside
  rw [getElem?_depositors, Option.map_eq_some_iff] at held
  obtain ⟨asset, -, rfl⟩ := held
  exact Depositor.opening_amounts precise asset fun _ =>
    seedsAt_gives isAmount_zero amounts.staticSeeds

include positive

/-- Depositors are followed through seasons of amounts in amounts. -/
theorem follow_amounts {depositor : Depositor} (holds : depositor.HasAmounts context)
    {growths : List SeasonGrowth} (grown : ∀ growth ∈ growths, growth.HasAmounts) :
    Gives (Depositor.HasAmounts context)
      (depositor.follow context scenario.earnedBeans (.ofInt seedPrecision) 0 growths) :=
  (Depositor.follow_gains precise holds grown amounts.earnedBeans (isAmount_ofInt positive.le)
    (isPositive_ofInt positive) 0).mono fun _ => And.left

variable
  (covered : ∀ season < seasons, season < germinationSeasons →
    Gives SiloState.Covered (scenario.liveAt context drift seedPrecision season))

include covered

/-- From fewer seasons to more of them every depositor gains. -/
theorem run_gains (le : fewer ≤ seasons) (assets : List Asset) {state : SiloState}
    {earlier later : List Depositor} (started : scenario.initial context = .ok state)
    (before : run context scenario drift (.ofInt seedPrecision) 0 fewer state
      (scenario.depositors assets) = .ok earlier)
    (after : run context scenario drift (.ofInt seedPrecision) 0 seasons state
      (scenario.depositors assets) = .ok later) :
    List.Forall₂ Depositor.Gains earlier later := by
  obtain ⟨growths, grown, followed⟩ := run_eq_ok_iff.mp before
  obtain ⟨all, allGrown, allFollowed⟩ := run_eq_ok_iff.mp after
  have begins := growthsFrom_prefix le grown allGrown
  have allAmounts := gives_iff.mp (growths_amounts precise covered amounts positive) all
    (bind_eq_ok_iff.mpr ⟨state, liftM_eq_ok_iff.mpr started, allGrown⟩)
  refine forall₂_of_common followed allFollowed ?_
  intro depositor inside early late first second
  have holds := depositors_amounts precise amounts assets depositor inside
  exact Depositor.gains_of_prefix precise holds begins allAmounts amounts.earnedBeans
    (isAmount_ofInt positive.le) (isPositive_ofInt positive) first second

/-- No yield is a loss. -/
theorem simulateAssets_amounts (assets : List Asset) :
    Gives (fun yields => ∀ yield ∈ yields, yield.growth.IsAmount)
      (scenario.simulateAssets context assets drift seasons seedPrecision) := by
  rw [gives_iff]
  intro yields simulated yield inside
  obtain ⟨growths, grown, measured⟩ := simulateAssets_eq_ok_iff.mp simulated
  have grownAmounts :=
    gives_iff.mp (growths_amounts precise covered amounts positive) growths grown
  obtain ⟨position, held⟩ := List.mem_iff_getElem?.mp inside
  obtain ⟨depositor, isDepositor, measures⟩ := exists_getElem?_of_forall₂ measured.flip held
  have holds := depositors_amounts precise amounts assets depositor
    (List.mem_of_getElem? isDepositor)
  obtain ⟨final, followed, grows⟩ := bind_eq_ok_iff.mp measures
  have finalHolds :=
    gives_iff.mp (follow_amounts precise amounts positive holds grownAmounts) final followed
  exact (gives_iff.mp (Depositor.assetGrowth_figures precise finalHolds) yield
    (liftM_eq_ok_iff.mp grows)).2.1

/-- Yields do not shrink over more seasons. -/
theorem simulateAssets_mono (le : fewer ≤ seasons) (assets : List Asset)
    {earlier later : List AssetGrowth}
    (before : scenario.simulateAssets context assets drift fewer seedPrecision = .ok earlier)
    (after : scenario.simulateAssets context assets drift seasons seedPrecision = .ok later) :
    List.Forall₂
      (fun early late => early.asset = late.asset ∧ early.growth.AtMost late.growth)
      earlier later := by
  obtain ⟨growths, grown, measured⟩ := simulateAssets_eq_ok_iff.mp before
  obtain ⟨all, allGrown, allMeasured⟩ := simulateAssets_eq_ok_iff.mp after
  have begins := growths_prefix le grown allGrown
  have allAmounts :=
    gives_iff.mp (growths_amounts precise covered amounts positive) all allGrown
  have growthAmounts : ∀ growth ∈ growths, growth.HasAmounts :=
    fun growth inside => allAmounts growth (begins.subset inside)
  refine forall₂_of_common measured allMeasured ?_
  intro depositor inside early late first second
  have holds := depositors_amounts precise amounts assets depositor inside
  obtain ⟨final, followed, grows⟩ := bind_eq_ok_iff.mp first
  obtain ⟨lateFinal, lateFollowed, lateGrows⟩ := bind_eq_ok_iff.mp second
  have finalHolds :=
    gives_iff.mp (follow_amounts precise amounts positive holds growthAmounts) final followed
  have lateHolds :=
    gives_iff.mp (follow_amounts precise amounts positive holds allAmounts) lateFinal lateFollowed
  have gains := Depositor.gains_of_prefix precise holds begins allAmounts amounts.earnedBeans
    (isAmount_ofInt positive.le) (isPositive_ofInt positive) followed lateFollowed
  exact gains.assetGrowth precise finalHolds lateHolds (liftM_eq_ok_iff.mp grows)
    (liftM_eq_ok_iff.mp lateGrows)

end Covered

end GaugeScenario

/-! ## Scenarios as they are given -/

namespace WrittenScenario

variable {written : WrittenScenario} {drift : RatioDrift} {seasons : Nat}
  {precision seedPrecision : Int}

/-- A scenario that is given in amounts is read into amounts. -/
theorem read_amounts (amounts : written.HasAmounts) :
    Gives GaugeScenario.HasAmounts (written.read context) := by
  apply amounts.earnedBeans.bind
  intro earnedBeans earnedAmount
  apply amounts.catchUpRate.bind
  intro catchUpRate catchUpPositive
  apply (Gives.mapM amounts.gaugePoints).bind
  intro gaugePoints pointsAmounts
  apply (Gives.mapM amounts.gaugeValues).bind
  intro gaugeValues valuesAmounts
  apply (Settles.any _).bind
  intro _ _
  apply (Settles.any _).bind
  intro initialRatio _
  apply amounts.beanValue.bind
  intro beanValue beanAmount
  apply amounts.nonGaugeValue.bind
  intro nonGaugeValue nonGaugeAmount
  apply amounts.siloStalk.bind
  intro siloStalk stalkAmount
  exact { amounts with
    earnedBeans := earnedAmount
    catchUpRate := catchUpPositive
    gaugePoints := pointsAmounts
    gaugeValues := valuesAmounts
    beanValue := beanAmount
    nonGaugeValue := nonGaugeAmount
    siloStalk := stalkAmount }

/-- In the seasons in which value germinates, as far as they are simulated, the silo is covered
once that value is live. -/
def StartsCovered (written : WrittenScenario) (drift : RatioDrift) (seasons : Nat)
    (precision seedPrecision : Int) : Prop :=
  ∀ context scenario, YieldFailure.context precision = .ok context →
    written.read context = .ok scenario →
      ∀ season < seasons, season < GaugeScenario.germinationSeasons →
        Gives SiloState.Covered (scenario.liveAt context drift seedPrecision season)

/-- A silo of amounts that is covered while value germinates is covered in every season and
grows an amount of stalk in each; its depositors never have fewer beans or less stalk after
more seasons; and no yield is a loss or shrinks over more seasons. -/
theorem yields_accrue (amounts : written.HasAmounts) (positive : 0 < seedPrecision)
    (covered : written.StartsCovered drift seasons precision seedPrecision) :
    (∀ context scenario, YieldFailure.context precision = .ok context →
      written.read context = .ok scenario →
        (∀ season < seasons,
          Gives SiloState.Covered (scenario.liveAt context drift seedPrecision season)) ∧
        Gives (fun growths => ∀ growth ∈ growths, growth.grownStalk.IsAmount)
          (scenario.growths context drift seasons seedPrecision) ∧
        ∀ assets fewer state earlier later, fewer ≤ seasons →
          scenario.initial context = .ok state →
          scenario.run context drift (.ofInt seedPrecision) 0 fewer state
              (scenario.depositors assets) = .ok earlier →
          scenario.run context drift (.ofInt seedPrecision) 0 seasons state
              (scenario.depositors assets) = .ok later →
            List.Forall₂ Depositor.Gains earlier later) ∧
    ∀ yields, written.simulate drift seasons precision seedPrecision = .ok yields →
      (∀ yield ∈ yields, yield.growth.IsAmount) ∧
      ∀ fewer fewerYields, fewer ≤ seasons →
        written.simulate drift fewer precision seedPrecision = .ok fewerYields →
          List.Forall₂
            (fun early late => early.asset = late.asset ∧ early.growth.AtMost late.growth)
            fewerYields yields := by
  constructor
  · intro context scenario isContext isRead
    have precise := gives_iff.mp (YieldFailure.context_gives precision) context isContext
    have scenarioAmounts := gives_iff.mp (read_amounts amounts) scenario isRead
    have starts := covered context scenario isContext isRead
    refine ⟨fun season within => GaugeScenario.liveAt_covered precise starts scenarioAmounts
      positive within, ?_, ?_⟩
    · apply (GaugeScenario.growths_amounts precise starts scenarioAmounts positive).mono
      exact fun growths grown growth inside => (grown growth inside).grownStalk
    · intro assets fewer state earlier later le started before after
      exact GaugeScenario.run_gains precise scenarioAmounts positive starts le assets started
        before after
  · intro yields simulated
    simp only [simulate, bind_eq_ok_iff, liftM_eq_ok_iff] at simulated
    obtain ⟨assets, resolved, context, isContext, scenario, isRead, simulated⟩ := simulated
    have precise := gives_iff.mp (YieldFailure.context_gives precision) context isContext
    have scenarioAmounts := gives_iff.mp (read_amounts amounts) scenario isRead
    have starts := covered context scenario isContext isRead
    refine ⟨gives_iff.mp (GaugeScenario.simulateAssets_amounts precise scenarioAmounts positive
      starts assets) yields simulated, ?_⟩
    intro fewer fewerYields le before
    simp only [simulate, bind_eq_ok_iff, liftM_eq_ok_iff] at before
    obtain ⟨_, resolvedAgain, _, isContextAgain, _, isReadAgain, before⟩ := before
    obtain rfl := Except.ok.inj (resolved.symm.trans resolvedAgain)
    obtain rfl := Except.ok.inj (isContext.symm.trans isContextAgain)
    obtain rfl := Except.ok.inj (isRead.symm.trans isReadAgain)
    exact GaugeScenario.simulateAssets_mono precise scenarioAmounts positive starts le assets
      before simulated

end WrittenScenario

/-- A scenario that has been read is covered if it is so in the seasons in which value germinates. -/
theorem GaugeScenario.startsCovered_written {scenario : GaugeScenario} {drift : RatioDrift}
    {seasons : Nat} {precision seedPrecision : Int} {context : Context}
    (asked : YieldFailure.context precision = .ok context)
    (covers : ∀ season < germinationSeasons,
      Gives SiloState.Covered (scenario.liveAt context drift seedPrecision season)) :
    scenario.written.StartsCovered drift seasons precision seedPrecision := by
  intro other read isContext isRead season _ early
  obtain rfl := Except.ok.inj (asked.symm.trans isContext)
  rw [read_written] at isRead
  obtain ⟨_, -, isScenario⟩ := bind_eq_ok_iff.mp isRead
  obtain rfl := Except.ok.inj isScenario
  exact covers season early

/-- A silo with two gauge tokens, whose points move towards shares of which one is infinite.
Beans and the first token germinate. -/
def germinatingSilo : GaugeScenario where
  assets := [-1, 0, -2, 1]
  optimalPercents := [.value (.finite false 60 0), .value (.infinite false)]
  season := 3
  germinatingBean := [.value one, .value zero]
  germinatingGauge := [[.value (.finite false 5 0), .value zero], [.value zero, .value zero]]
  germinatingNonGauge := [.value zero, .value zero]
  staticSeeds := [none, none, some (.value (.finite false 25 (-1))), none]
  pointRules := [.default, .default]
  earnedBeans := .finite false 7 0
  catchUpRate := hundred
  gaugePoints := [hundred, .finite false 50 0]
  gaugeValues := [.finite false 30 0, zero]
  initialRatio := .finite false 5 (-1)
  beanValue := .finite false 20 0
  nonGaugeValue := .finite false 10 0
  siloStalk := .finite false 90 0

theorem germinatingSilo_amounts : germinatingSilo.written.HasAmounts where
  germinatingBean := by decide
  germinatingGauge := by decide
  germinatingNonGauge := by decide
  staticSeeds := by
    intro seeds inside
    obtain rfl : seeds = .value (.finite false 25 (-1)) := by
      simpa [germinatingSilo, GaugeScenario.written] using inside
    exact isAmount_finite 25 (-1)
  pointRules := by
    apply GaugeTerms.RulesKeepAmounts.of_forall
    intro rule inside
    obtain rfl : rule = .default := by
      simpa [germinatingSilo, GaugeScenario.written] using inside
    exact PointRule.default_keepsAmounts
  earnedBeans := isAmount_finite 7 0
  catchUpRate := by decide
  gaugePoints := by decide
  gaugeValues := by decide
  beanValue := isAmount_finite 20 0
  nonGaugeValue := isAmount_finite 10 0
  siloStalk := isAmount_finite 90 0

/-- With six digits the silo is covered while value germinates. -/
theorem germinatingSilo_covered :
    germinatingSilo.written.StartsCovered (.constant RatioDrift.defaultChange) 4 6 10000 :=
  GaugeScenario.startsCovered_written rfl (by decide +kernel)

/-- Over three seasons and over four its four assets gain amounts that do not shrink. -/
theorem germinatingSilo_accrues :
    ∃ yields fewerYields,
      germinatingSilo.written.simulate (.constant RatioDrift.defaultChange) 4 6 10000 =
        .ok yields ∧
      germinatingSilo.written.simulate (.constant RatioDrift.defaultChange) 3 6 10000 =
        .ok fewerYields ∧
      (∀ yield ∈ yields, yield.growth.IsAmount) ∧
      List.Forall₂
        (fun early late => early.asset = late.asset ∧ early.growth.AtMost late.growth)
        fewerYields yields := by
  obtain ⟨yields, simulated⟩ := exists_ok_of_isOk
    (show (germinatingSilo.written.simulate (.constant RatioDrift.defaultChange) 4 6 10000).isOk by
      decide +kernel)
  obtain ⟨fewerYields, before⟩ := exists_ok_of_isOk
    (show (germinatingSilo.written.simulate (.constant RatioDrift.defaultChange) 3 6 10000).isOk by
      decide +kernel)
  obtain ⟨amounts, accrue⟩ := (WrittenScenario.yields_accrue germinatingSilo_amounts (by decide)
    germinatingSilo_covered).2 yields simulated
  exact ⟨yields, fewerYields, simulated, before, amounts,
    accrue 3 fewerYields (by decide) before⟩

end DepositYield
