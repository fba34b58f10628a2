import DepositYield.Proofs.Decimal.Shift
import DepositYield.Proofs.Yield.Cover
import DepositYield.Proofs.Yield.Separation

/-!
# The scale of seeds

Seeds are multiplied by the seed precision and divided by it again, with roundings in between.
Two simulations under powers of ten are carried out side by side.  The silo goes through the
same seasons in both, only the seeds of beans are moved up by places, and so are the seeds of
gauge tokens.  The stalk that they grow is the same number, as is everything that is made of
it, unless a product of beans and their seeds loses digits below the least exponent.

Fixed seeds are not moved up, so the assets that have some are left out.
-/

namespace DepositYield

open Decimal Decimal.Context

variable {context : Context}

/-- The models give related values or stop for the same failure, unless one of them overflows. -/
abbrev ModelsAlikeWithin {First Second : Type} (related : First → Second → Prop) :
    Except YieldFailure First → Except YieldFailure Second → Prop :=
  Coincide (· = .signal .overflow) (· = .signal .overflow) related

/-- Overflow may be one of more failures that are excused. -/
theorem ModelsAlikeWithin.excuse {First Second : Type} {related : First → Second → Prop}
    {left : Except YieldFailure First} {right : Except YieldFailure Second}
    (alike : ModelsAlikeWithin related left right) {excused : YieldFailure → Prop}
    (isExcused : excused (.signal .overflow)) : Coincide excused excused related left right := by
  refine alike.allow ?_ ?_ <;> rintro _ rfl <;> exact isExcused

theorem Coincide.lift {First Second : Type} {related : First → Second → Prop}
    {left : Except Signal First} {right : Except Signal Second}
    (coincide : AlikeWithin related left right) :
    ModelsAlikeWithin related (liftM left : Except YieldFailure First) (liftM right) :=
  coincide.mapError (fun _ => congrArg YieldFailure.signal) fun _ =>
    congrArg YieldFailure.signal

/-! ## Seasons of the silo -/

/-- The right growth is the left one, with the seeds of beans moved up by places. -/
def SeasonGrowth.Shifted (places : ℕ) (left right : SeasonGrowth) : Prop :=
  ∃ beanSeeds, right = { left with beanSeeds } ∧
    Decimal.Shifted places left.beanSeeds beanSeeds

namespace GaugeScenario

variable {scenario : GaugeScenario} {drift : RatioDrift} {state : SiloState}
  (precise : 0 < context.precision) (power places : ℕ)

include precise

theorem grow_shifted (scaledRatio : Decimal) :
    AlikeWithin
      (fun left right => left.1 = right.1 ∧ left.2.Shifted places right.2)
      (grow context scenario (.ofInt (10 ^ power)) state scaledRatio)
      (grow context scenario (.ofInt (10 ^ (power + places))) state scaledRatio) := by
  apply Coincide.bind_same
  intro beanPoints
  apply Coincide.bind_same
  intro tokenPoints
  apply Coincide.bind_same
  intro allBeanPoints
  apply Coincide.bind_same
  intro pointTotal
  apply Coincide.bind_same
  intro average
  apply Coincide.bind_same
  intro averageGrowth
  apply Coincide.bind_same
  intro seasonGrowth
  apply Coincide.bind_same
  intro grownStalk
  apply Coincide.bind_same
  intro stalkPerPoint
  apply (Coincide.same_of_gives (mul_settled precise stalkPerPoint beanPoints)).bind
  rintro stalkPerBean _ ⟨rfl, settled⟩
  apply (mul_pow_shifted precise settled power places).bind
  rintro beanSeeds otherBeanSeeds ⟨shifted, -⟩
  apply Coincide.bind_same
  intro grownTotal
  apply Coincide.bind_same
  intro totalStalk
  apply Coincide.bind_same
  intro gaugeValue
  apply Coincide.bind_same
  intro totalValue
  apply Coincide.bind_same
  intro beanValue
  exact .values ⟨rfl, otherBeanSeeds, rfl, shifted⟩

/-- The silo goes through the same season whatever the scale of seeds is. -/
theorem seasonStep_shifted (season : Nat) :
    ModelsAlikeWithin
      (fun left right => left.1 = right.1 ∧ left.2.Shifted places right.2)
      (seasonStep context scenario drift (.ofInt (10 ^ power)) season state)
      (seasonStep context scenario drift (.ofInt (10 ^ (power + places))) season state) := by
  rw [seasonStep_eq, seasonStep_eq]
  apply Coincide.bind_same
  intro drifted
  apply Coincide.bind_same
  intro scaledRatio
  apply Coincide.bind_same
  intro matured
  apply Coincide.bind_same
  intro balanced
  exact (grow_shifted precise power places scaledRatio).lift

end GaugeScenario

/-- Yields of the same asset and of the same numbers, infinities included. -/
structure AssetGrowth.SameNumbers (left right : AssetGrowth) : Prop where
  asset : left.asset = right.asset
  bean : SameNumber left.growth.bean right.growth.bean
  stalk : SameNumber left.growth.stalk right.growth.stalk

theorem AssetGrowth.SameNumbers.symm {left right : AssetGrowth} (same : left.SameNumbers right) :
    right.SameNumbers left :=
  ⟨same.asset.symm, same.bean.symm, same.stalk.symm⟩

/-! ## Seasons of a depositor -/

namespace Depositor

/-- The depositor has no fixed seeds: they are those of its token, or zero. -/
def Unseeded (depositor : Depositor) : Prop :=
  depositor.asset = .nonGauge → ∀ seeds, depositor.staticSeeds = some seeds →
    Gives DenotesZero seeds.read

/-- Depositors of one asset, who have the same numbers if there are no fixed seeds.  With fixed
seeds they may go separate ways, so every failure has to be excused. -/
structure Linked (excused : YieldFailure → Prop) (left right : Depositor) : Prop where
  asset : left.asset = right.asset
  staticSeeds : left.staticSeeds = right.staticSeeds
  tokens : left.tokens = right.tokens
  unit : left.tokens = zero ∨ left.tokens = one
  seeds : left.Unseeded ∨ ∀ failure, excused failure
  beans : left.Unseeded → Decimal.Shifted 0 left.beans right.beans
  stalk : left.Unseeded → Decimal.Shifted 0 left.stalk right.stalk

variable {excused : YieldFailure → Prop} {left right : Depositor} {growth other : SeasonGrowth}
  {earnedBeans : Decimal} {power places : ℕ}

/-- A depositor before the first season. -/
theorem opening_linked {asset : Asset} {staticSeeds : Option Written}
    (seeds : (opening asset staticSeeds).Unseeded ∨ ∀ failure, excused failure) :
    Linked excused (opening asset staticSeeds) (opening asset staticSeeds) where
  asset := rfl
  staticSeeds := rfl
  tokens := rfl
  unit := by
    unfold opening
    dsimp only
    split
    · exact .inl rfl
    · exact .inr rfl
  seeds := seeds
  beans _ := .refl _
  stalk _ := .refl _

theorem Keeps.unseeded_iff (keeps : left.Keeps right) : right.Unseeded ↔ left.Unseeded := by
  unfold Unseeded
  rw [keeps.asset, keeps.staticSeeds]

variable (precise : 0 < context.precision) (linked : left.Linked excused right)

include precise linked

section Unseeded

variable (unseeded : left.Unseeded) (grown : growth.Shifted places other)

include unseeded grown

/-- The seeds of a gauge token are moved up, and no seeds are still none. -/
theorem tokenSeeds_shifted :
    ModelsAlikeWithin
      (fun seeds others => Decimal.Shifted places seeds others ∧ context.IsSettled seeds)
      (left.tokenSeeds context (.ofInt (10 ^ power)) growth)
      (right.tokenSeeds context (.ofInt (10 ^ (power + places))) other) := by
  obtain ⟨beanSeeds, rfl, -⟩ := grown
  have nothing : ∀ seeds : Decimal, seeds.DenotesZero →
      Decimal.Shifted places seeds seeds ∧ context.IsSettled seeds := by
    rintro seeds ⟨finite, isZero⟩
    exact ⟨.finite finite finite (by rw [isZero, zero_mul]), isSettled_of_zero isZero⟩
  unfold tokenSeeds
  rw [← linked.asset, ← linked.staticSeeds]
  cases holds : left.asset with
  | reference => exact .values (nothing zero ⟨isFinite_zero, toRat_zero⟩)
  | nonGauge =>
      cases held : left.staticSeeds with
      | none => exact .failures _
      | some seeds =>
          apply (Coincide.same_of_gives (Gives.lift (unseeded holds seeds held))).mono
          rintro read _ ⟨rfl, isZero⟩
          exact nothing read isZero
  | gauge position =>
      apply Coincide.bind_same
      intro stalkPerPoint
      apply Coincide.bind_same
      intro weight
      apply (Coincide.same_of_gives (mul_settled precise stalkPerPoint weight).lift).bind
      rintro stalkPerValue _ ⟨rfl, settled⟩
      exact (mul_pow_shifted precise settled power places).lift

theorem beanShare_shifted (season : Nat) :
    AlikeWithin (Decimal.Shifted 0)
      (left.beanShare context earnedBeans season growth)
      (right.beanShare context earnedBeans season other) := by
  obtain ⟨beanSeeds, rfl, -⟩ := grown
  unfold beanShare
  by_cases early : season < GaugeScenario.germinationSeasons
  · rw [if_pos early, if_pos early]
    exact .values (.refl zero)
  · rw [if_neg early, if_neg early]
    apply (mul_shifted precise (.refl earnedBeans) (linked.stalk unseeded)
      (scales_zero_places _)).bind
    intro claimed otherClaimed sameClaimed
    exact divOrZero_shifted precise sameClaimed growth.totalStalk

/-- The seeds of a season are moved up, and the stalk that they grow is not. -/
theorem seasonStep_shifted (keeps : context.KeepsProduct left.beans growth.beanSeeds)
    (season : Nat) :
    ModelsAlikeWithin (Linked excused)
      (left.seasonStep context earnedBeans (.ofInt (10 ^ power)) season growth)
      (right.seasonStep context earnedBeans (.ofInt (10 ^ (power + places))) season other) := by
  have nonzero : (Decimal.ofInt (10 ^ power)).toRat ≠ 0 := by
    rw [toRat_ofInt]
    positivity
  have beanSeedsShifted : Decimal.Shifted places growth.beanSeeds other.beanSeeds := by
    obtain ⟨beanSeeds, rfl, shifted⟩ := grown
    exact shifted
  apply (tokenSeeds_shifted precise linked unseeded grown).bind
  rintro tokenSeeds otherTokenSeeds ⟨tokenSeedsShifted, tokenSeedsSettled⟩
  apply (beanShare_shifted precise linked unseeded grown season).lift.bind
  intro share otherShare sameShare
  apply (add_shifted precise (linked.stalk unseeded) sameShare (scales_zero_places _)).lift.bind
  intro shared otherShared sameShared
  apply ((mul_shifted precise (linked.beans unseeded) beanSeedsShifted
    (keeps.scales places)).and_left (mul_settled precise _ _)).lift.bind
  rintro seedsOfBeans otherSeedsOfBeans ⟨seedsOfBeansShifted, seedsOfBeansSettled⟩
  -- the depositor has one token or none, so this product is exact
  have tokenScales : context.Scales places (left.tokens.toRat * tokenSeeds.toRat) := by
    rcases linked.unit with none | single
    · rw [none, toRat_zero, zero_mul]
      simp [Scales]
    · rw [single, toRat_one, one_mul]
      exact (isMultiple_of_settled precise tokenSeedsSettled).scales places
  have sameTokens : Decimal.Shifted 0 left.tokens right.tokens := linked.tokens ▸ .refl _
  apply ((mul_shifted precise sameTokens tokenSeedsShifted tokenScales).and_left
    (mul_settled precise _ _)).lift.bind
  rintro seedsOfTokens otherSeedsOfTokens ⟨seedsOfTokensShifted, seedsOfTokensSettled⟩
  apply (add_settled_shifted precise seedsOfBeansShifted seedsOfTokensShifted
    seedsOfBeansSettled seedsOfTokensSettled).lift.bind
  intro seeds otherSeeds seedsShifted
  apply (div_shifted precise seedsShifted (ofInt_pow_shifted power places) nonzero).lift.bind
  intro grown otherGrown sameGrown
  apply (add_shifted precise sameShared sameGrown (scales_zero_places _)).lift.bind
  intro stalk otherStalk sameStalk
  apply (add_shifted precise (linked.beans unseeded) sameShare (scales_zero_places _)).lift.bind
  intro beans otherBeans sameBeans
  exact .values { linked with
    beans := fun _ => sameBeans
    stalk := fun _ => sameStalk }

end Unseeded

omit precise in
/-- With fixed seeds the depositors keep their assets, if both get through the season. -/
theorem seasonStep_linked_of_excused (all : ∀ failure, excused failure)
    (seeded : ¬ left.Unseeded) {seedScale otherScale : Decimal} (season : Nat) :
    Coincide excused excused (Linked excused)
      (left.seasonStep context earnedBeans seedScale season growth)
      (right.seasonStep context earnedBeans otherScale season other) := by
  cases stepped : left.seasonStep context earnedBeans seedScale season growth with
  | error failure => exact .excuseLeft (all failure) _
  | ok next =>
  cases otherStepped : right.seasonStep context earnedBeans otherScale season other with
  | error failure => exact .excuseRight (all failure) _
  | ok otherNext =>
  have keeps := gives_iff.mp (seasonStep_keeps season growth) next stepped
  have otherKeeps := gives_iff.mp (seasonStep_keeps season other) otherNext otherStepped
  exact .values {
    asset := keeps.asset.trans (linked.asset.trans otherKeeps.asset.symm)
    staticSeeds := keeps.staticSeeds.trans (linked.staticSeeds.trans otherKeeps.staticSeeds.symm)
    tokens := keeps.tokens.trans (linked.tokens.trans otherKeeps.tokens.symm)
    unit := keeps.tokens ▸ linked.unit
    seeds := .inr all
    beans := fun unseeded => absurd (keeps.unseeded_iff.mp unseeded) seeded
    stalk := fun unseeded => absurd (keeps.unseeded_iff.mp unseeded) seeded }

theorem seasonStep_linked (isExcused : excused (.signal .overflow))
    (grown : growth.Shifted places other)
    (keeps : context.KeepsProduct left.beans growth.beanSeeds) (season : Nat) :
    Coincide excused excused (Linked excused)
      (left.seasonStep context earnedBeans (.ofInt (10 ^ power)) season growth)
      (right.seasonStep context earnedBeans (.ofInt (10 ^ (power + places))) season other) := by
  by_cases unseeded : left.Unseeded
  · exact (seasonStep_shifted precise linked unseeded grown keeps season).excuse isExcused
  · exact seasonStep_linked_of_excused linked (linked.seeds.resolve_left unseeded) unseeded season

/-- Yields of linked depositors without fixed seeds are the same. -/
theorem assetGrowth_same (unseeded : left.Unseeded) :
    AlikeWithin AssetGrowth.SameNumbers (left.assetGrowth context)
      (right.assetGrowth context) := by
  have sameTokens : Decimal.Shifted 0 left.tokens right.tokens := linked.tokens ▸ .refl _
  apply (add_shifted precise (linked.beans unseeded) sameTokens (scales_zero_places _)).bind
  intro value otherValue sameValue
  apply (sub_shifted precise sameValue one).bind
  intro gained otherGained sameGained
  apply (mul_shifted precise sameGained (.refl hundred) (scales_zero_places _)).bind
  intro bean otherBean sameBean
  apply (sub_shifted precise (linked.stalk unseeded) one).bind
  intro gainedStalk otherGainedStalk sameGainedStalk
  apply (mul_shifted precise sameGainedStalk (.refl hundred) (scales_zero_places _)).bind
  intro stalk otherStalk sameStalk
  exact .values ⟨linked.asset, sameBean.sameNumber, sameStalk.sameNumber⟩

end Depositor

/-! ## Whole simulations -/

namespace GaugeScenario

/-- In none of a number of seasons, counted from `season` on, does the product of the beans of a
depositor and the seeds of beans lose a digit below the least exponent. -/
def RunsClear (context : Context) (scenario : GaugeScenario) (drift : RatioDrift)
    (seedScale : Decimal) (season : Nat) : Nat → SiloState → List Depositor → Prop
  | 0, _, _ => True
  | seasons + 1, state, depositors =>
      Gives (fun (next, growth) =>
          (∀ depositor ∈ depositors, context.KeepsProduct depositor.beans growth.beanSeeds) ∧
          Gives (RunsClear context scenario drift seedScale (season + 1) seasons next)
            (depositors.mapM
              (Depositor.seasonStep context scenario.earnedBeans seedScale season growth)))
        (seasonStep context scenario drift seedScale season state)

instance decidableRunsClear (context : Context) (scenario : GaugeScenario) (drift : RatioDrift)
    (seedScale : Decimal) (season : Nat) : (seasons : Nat) → (state : SiloState) →
    DecidablePred (RunsClear context scenario drift seedScale season seasons state)
  | 0, _, _ => isTrue trivial
  | seasons + 1, state, depositors =>
      haveI := decidableRunsClear context scenario drift seedScale (season + 1) seasons
      inferInstanceAs (Decidable (Gives (fun (next, growth) =>
          (∀ depositor ∈ depositors, context.KeepsProduct depositor.beans growth.beanSeeds) ∧
          Gives (RunsClear context scenario drift seedScale (season + 1) seasons next)
            (depositors.mapM
              (Depositor.seasonStep context scenario.earnedBeans seedScale season growth)))
        (seasonStep context scenario drift seedScale season state)))

variable {scenario : GaugeScenario} {drift : RatioDrift} {state : SiloState} {season seasons : Nat}
  {power places : ℕ} {excused : YieldFailure → Prop}

/-- Depositors stay linked through seasons of the same silo. -/
theorem run_linked (precise : 0 < context.precision) {depositors others : List Depositor}
    (clear : RunsClear context scenario drift (.ofInt (10 ^ power)) season seasons state depositors)
    (each : List.Forall₂ (Depositor.Linked excused) depositors others)
    (isExcused : excused (.signal .overflow)) :
    Coincide excused excused (List.Forall₂ (Depositor.Linked excused))
      (run context scenario drift (.ofInt (10 ^ power)) season seasons state depositors)
      (run context scenario drift (.ofInt (10 ^ (power + places))) season seasons state others) := by
  induction seasons generalizing season state depositors others with
  | zero => exact .values each
  | succ seasons ih =>
      have silo : Coincide excused excused
          (fun left right => left.1 = right.1 ∧ left.2.Shifted places right.2)
          (seasonStep context scenario drift (.ofInt (10 ^ power)) season state)
          (seasonStep context scenario drift (.ofInt (10 ^ (power + places))) season state) :=
        (seasonStep_shifted precise power places season).excuse isExcused
      apply (silo.and_left clear).bind
      rintro ⟨next, growth⟩ ⟨_, otherGrowth⟩ ⟨⟨rfl, grown⟩, keeps, later⟩
      have moved : List.Forall₂
          (fun depositor other => Coincide excused excused (Depositor.Linked excused)
            (depositor.seasonStep context scenario.earnedBeans (.ofInt (10 ^ power)) season growth)
            (other.seasonStep context scenario.earnedBeans (.ofInt (10 ^ (power + places))) season
              otherGrowth))
          depositors others :=
        ((List.forall₂_and_left _ _).mpr ⟨keeps, each⟩).imp fun _ _ ⟨keepsProduct, linked⟩ =>
          Depositor.seasonStep_linked precise linked isExcused grown keepsProduct season
      apply ((Coincide.mapM moved).and_left later).bind
      rintro advanced otherAdvanced ⟨advancedEach, advancedClear⟩
      exact ih advancedClear advancedEach

/-- A run changes beans and stalk only. -/
theorem run_keeps {seedScale : Decimal} {depositors final : List Depositor}
    (ends : run context scenario drift seedScale season seasons state depositors = .ok final) :
    List.Forall₂ Depositor.Keeps depositors final := by
  obtain ⟨growths, -, followed⟩ := run_eq_ok_iff.mp ends
  exact followed.imp fun _ last follows =>
    gives_iff.mp (Depositor.follow_keeps season growths) last follows

/-- The depositors of both simulations are the same before the first season. -/
theorem depositors_linked {assets : List Asset}
    (seeds : ∀ depositor ∈ scenario.depositors assets,
      depositor.Unseeded ∨ ∀ failure, excused failure) :
    List.Forall₂ (Depositor.Linked excused) (scenario.depositors assets)
      (scenario.depositors assets) := by
  rw [List.forall₂_same]
  intro depositor inside
  have known := seeds depositor inside
  obtain ⟨position, isPosition, rfl⟩ := List.mem_mapIdx.mp inside
  exact Depositor.opening_linked known

/-- Without fixed seeds the simulations give the same numbers. -/
theorem simulateAssets_unseeded (precise : 0 < context.precision) {assets : List Asset}
    (clear : Gives (fun state => RunsClear context scenario drift (.ofInt (10 ^ power)) 0 seasons
      state (scenario.depositors assets)) (scenario.initial context))
    (unseeded : ∀ depositor ∈ scenario.depositors assets, depositor.Unseeded) :
    ModelsAlikeWithin (List.Forall₂ AssetGrowth.SameNumbers)
      (scenario.simulateAssets context assets drift seasons (10 ^ power))
      (scenario.simulateAssets context assets drift seasons (10 ^ (power + places))) := by
  apply (Coincide.same_of_gives clear.lift).bind
  rintro state _ ⟨rfl, runs⟩
  have openings : List.Forall₂ (Depositor.Linked (· = .signal .overflow))
      (scenario.depositors assets) (scenario.depositors assets) :=
    depositors_linked fun depositor inside => .inl (unseeded depositor inside)
  apply (run_linked precise runs openings rfl).bind
  intro final otherFinal each
  refine Coincide.mapM (each.imp fun last otherLast linked => ?_)
  have stays : last.Unseeded := linked.seeds.resolve_right fun all => by
    have missing := all .missingEntry
    contradiction
  exact (Depositor.assetGrowth_same precise linked stays).lift

/-- Where an asset has no fixed seeds, simulations that succeed give the same numbers. -/
theorem simulateAssets_at (precise : 0 < context.precision) {assets : List Asset}
    (clear : Gives (fun state => RunsClear context scenario drift (.ofInt (10 ^ power)) 0 seasons
      state (scenario.depositors assets)) (scenario.initial context))
    {yields others : List AssetGrowth}
    (simulated : scenario.simulateAssets context assets drift seasons (10 ^ power) = .ok yields)
    (simulatedOthers : scenario.simulateAssets context assets drift seasons
      (10 ^ (power + places)) = .ok others)
    {position : Nat}
    (unseeded : ∀ depositor, (scenario.depositors assets)[position]? = some depositor →
      depositor.Unseeded)
    {yield other : AssetGrowth} (held : yields[position]? = some yield) (otherHeld : others[position]? = some other) :
    yield.SameNumbers other := by
  simp only [simulateAssets, bind_eq_ok_iff, liftM_eq_ok_iff, mapM_eq_ok_iff]
    at simulated simulatedOthers
  obtain ⟨state, started, final, ends, measured⟩ := simulated
  obtain ⟨_, startedAgain, otherFinal, otherEnds, measuredOthers⟩ := simulatedOthers
  obtain rfl := Except.ok.inj (started.symm.trans startedAgain)
  have runs : Coincide (fun _ : YieldFailure => True) (fun _ => True)
      (List.Forall₂ (Depositor.Linked fun _ => True)) (.ok final) (.ok otherFinal) := by
    rw [← ends, ← otherEnds]
    exact run_linked precise (gives_iff.mp clear state started)
      (depositors_linked fun _ _ => .inr fun _ => trivial) trivial
  obtain ⟨last, isLast, grows⟩ := exists_getElem?_of_forall₂ measured.flip held
  obtain ⟨depositor, tracked, keeps⟩ := exists_getElem?_of_forall₂ (run_keeps ends).flip isLast
  obtain ⟨otherLast, isOtherLast, linked⟩ :=
    exists_getElem?_of_forall₂ runs.related_of_ok isLast
  obtain ⟨_, isOther, otherGrows⟩ := exists_getElem?_of_forall₂ measuredOthers isOtherLast
  obtain rfl := Option.some.inj (isOther.symm.trans otherHeld)
  have same := Depositor.assetGrowth_same precise linked
    (keeps.unseeded_iff.mpr (unseeded depositor tracked))
  rw [grows, otherGrows] at same
  exact same.related_of_ok

end GaugeScenario

/-! ## Scenarios as they are given -/

/-- The asset at a position has no fixed seeds: it has gauge points, or its seeds are left out or
zero. -/
def GaugeTerms.Unseeded (terms : GaugeTerms) (position : Nat) : Prop :=
  terms.assets[position]? = some Asset.nonGauge.index →
    ∀ seeds, terms.staticSeeds[position]? = some (some seeds) → Gives DenotesZero seeds.read

namespace WrittenScenario

/-- In no season of the simulation does a product of beans and the seeds of beans lose a digit
below the least exponent. -/
def StaysClear (written : WrittenScenario) (drift : RatioDrift) (seasons : Nat)
    (precision seedPrecision : Int) : Prop :=
  ∀ context scenario assets, YieldFailure.context precision = .ok context →
    written.read context = .ok scenario →
      written.assets.mapM (Asset.ofIndex written.gaugePoints.length) = .ok assets →
        Gives
          (fun state => scenario.RunsClear context drift (.ofInt seedPrecision) 0 seasons state
            (scenario.depositors assets))
          (scenario.initial context)

variable {written : WrittenScenario} {drift : RatioDrift} {seasons : Nat} {precision : Int}

/-- The number that names an asset is its own. -/
theorem index_of_ofIndex {count : Nat} {index : Int} {asset : Asset}
    (named : Asset.ofIndex count index = .ok asset) : asset.index = index := by
  unfold Asset.ofIndex at named
  grind [Asset.index]

/-- The depositor of an asset without fixed seeds has none. -/
theorem depositor_unseeded {context : Context} {scenario : GaugeScenario} {assets : List Asset}
    (isRead : written.read context = .ok scenario)
    (resolved : written.assets.mapM (Asset.ofIndex written.gaugePoints.length) = .ok assets)
    {position : Nat} {depositor : Depositor}
    (tracked : (scenario.depositors assets)[position]? = some depositor)
    (unseeded : written.Unseeded position) : depositor.Unseeded := by
  have sameSeeds : written.staticSeeds = scenario.staticSeeds :=
    congrArg (·.staticSeeds) (following_of_read isRead)
  rw [GaugeScenario.getElem?_depositors] at tracked
  obtain ⟨asset, isAsset, rfl⟩ := Option.map_eq_some_iff.mp tracked
  obtain ⟨index, isIndex, named⟩ :=
    exists_getElem?_of_forall₂ (mapM_eq_ok_iff.mp resolved).flip isAsset
  rintro (rfl : asset = .nonGauge) seeds (held : scenario.seedsAt position = some seeds)
  rw [← index_of_ofIndex named] at isIndex
  unfold GaugeScenario.seedsAt at held
  split at held
  · cases held
    exact ⟨isFinite_zero, toRat_zero⟩
  · obtain ⟨given, isGiven, rfl⟩ := Option.map_eq_some_iff.mp held
    cases given with
    | none => exact ⟨isFinite_zero, toRat_zero⟩
    | some seeds => exact unseeded isIndex seeds (sameSeeds ▸ isGiven)

/-- What the scales of seeds have in common, if the second one is the greater one. -/
theorem simulate_of_greater_scale {power places : ℕ}
    (clear : written.StaysClear drift seasons precision (10 ^ power)) :
    (∀ yields others,
      written.simulate drift seasons precision (10 ^ power) = .ok yields →
      written.simulate drift seasons precision (10 ^ (power + places)) = .ok others →
        ∀ position, written.Unseeded position → ∀ yield other, yields[position]? = some yield →
          others[position]? = some other → yield.SameNumbers other) ∧
    ((∀ position, written.Unseeded position) →
      ModelsAlikeWithin (List.Forall₂ AssetGrowth.SameNumbers)
        (written.simulate drift seasons precision (10 ^ power))
        (written.simulate drift seasons precision (10 ^ (power + places)))) := by
  constructor
  · intro yields others simulated simulatedOthers position unseeded yield other held otherHeld
    simp only [simulate, bind_eq_ok_iff, liftM_eq_ok_iff] at simulated simulatedOthers
    obtain ⟨assets, resolved, context, isContext, scenario, isRead, simulated⟩ := simulated
    obtain ⟨_, resolvedAgain, _, isContextAgain, _, isReadAgain, simulatedOthers⟩ :=
      simulatedOthers
    obtain rfl := Except.ok.inj (resolved.symm.trans resolvedAgain)
    obtain rfl := Except.ok.inj (isContext.symm.trans isContextAgain)
    obtain rfl := Except.ok.inj (isRead.symm.trans isReadAgain)
    have precise := gives_iff.mp (YieldFailure.context_gives precision) context isContext
    have runs := clear context scenario assets isContext isRead resolved
    exact GaugeScenario.simulateAssets_at precise runs simulated simulatedOthers
      (fun _ tracked => depositor_unseeded isRead resolved tracked unseeded) held otherHeld
  · intro unseeded
    apply (Coincide.same_of_gives (gives_iff.mpr fun _ given => given)).bind
    rintro assets _ ⟨rfl, resolved⟩
    apply (Coincide.same_of_gives (gives_iff.mpr fun _ given => given)).bind
    rintro context _ ⟨rfl, isContext⟩
    apply (Coincide.same_of_gives (gives_iff.mpr fun _ given => given)).bind
    rintro scenario _ ⟨rfl, isRead⟩
    have precise := gives_iff.mp (YieldFailure.context_gives precision) context isContext
    have runs := clear context scenario assets isContext (liftM_eq_ok_iff.mp isRead) resolved
    refine GaugeScenario.simulateAssets_unseeded precise runs fun depositor inside => ?_
    obtain ⟨position, tracked⟩ := List.mem_iff_getElem?.mp inside
    exact depositor_unseeded (liftM_eq_ok_iff.mp isRead) resolved tracked (unseeded position)

/-- By whatever rules the ratio drifts and the gauge points move, the yields of assets without
fixed seeds are the same numbers under any two powers of ten as the seed precision, unless a
product of beans and their seeds loses digits below the least exponent under the lesser one.  If
no asset has fixed seeds, both simulations succeed, or they stop for the same failure, or one of
them overflows. -/
theorem yields_of_seed_scales (left right : ℕ)
    (clear : written.StaysClear drift seasons precision (10 ^ min left right)) :
    (∀ yields others,
      written.simulate drift seasons precision (10 ^ left) = .ok yields →
      written.simulate drift seasons precision (10 ^ right) = .ok others →
        ∀ position, written.Unseeded position → ∀ yield other, yields[position]? = some yield →
          others[position]? = some other → yield.SameNumbers other) ∧
    ((∀ position, written.Unseeded position) →
      ModelsAlikeWithin (List.Forall₂ AssetGrowth.SameNumbers)
        (written.simulate drift seasons precision (10 ^ left))
        (written.simulate drift seasons precision (10 ^ right))) := by
  rcases le_total left right with le | le
  · obtain ⟨places, rfl⟩ := Nat.exists_eq_add_of_le le
    rw [min_eq_left le] at clear
    exact simulate_of_greater_scale clear
  · obtain ⟨places, rfl⟩ := Nat.exists_eq_add_of_le le
    rw [min_eq_right le] at clear
    obtain ⟨same, coincide⟩ := simulate_of_greater_scale clear
    refine ⟨?_, fun unseeded => ?_⟩
    · intro yields others simulated simulatedOthers position unseeded yield other held otherHeld
      exact (same others yields simulatedOthers simulated position unseeded other yield otherHeld
        held).symm
    · apply (coincide unseeded).flip.mono
      intro yields others related
      exact related.flip.imp fun _ _ => AssetGrowth.SameNumbers.symm

/-- Under the seed precision one no product of the silo comes near the least exponent. -/
theorem mixedAssets_staysClear :
    mixedAssets.StaysClear (.constant RatioDrift.defaultChange) 4 20 (10 ^ min 4 0) := by
  intro context scenario assets isContext isRead resolved
  obtain rfl : { precision := 20 } = context := Except.ok.inj isContext
  have clear : Gives
      (fun scenario => Gives
        (fun assets => Gives
          (fun state => scenario.RunsClear { precision := 20 }
            (.constant RatioDrift.defaultChange) (.ofInt (10 ^ min 4 0)) 0 4 state
            (scenario.depositors assets))
          (scenario.initial { precision := 20 }))
        (mixedAssets.assets.mapM (Asset.ofIndex mixedAssets.gaugePoints.length)))
      (mixedAssets.read { precision := 20 }) := by
    decide +kernel
  exact gives_iff.mp (gives_iff.mp clear scenario isRead) assets resolved

/-- All of its assets but the third one, which has fixed seeds, gain the same under the seed
precisions ten thousand and one. -/
theorem mixedAssets_other_scale :
    ∃ yields others,
      mixedAssets.simulate (.constant RatioDrift.defaultChange) 4 20 (10 ^ 4) = .ok yields ∧
      mixedAssets.simulate (.constant RatioDrift.defaultChange) 4 20 (10 ^ 0) = .ok others ∧
      ∀ position, position ≠ 2 → ∀ yield other, yields[position]? = some yield →
        others[position]? = some other → yield.SameNumbers other := by
  obtain ⟨yields, simulated⟩ := exists_ok_of_isOk
    (show (mixedAssets.simulate (.constant RatioDrift.defaultChange) 4 20 (10 ^ 4)).isOk by
      decide +kernel)
  obtain ⟨others, simulatedOthers⟩ := exists_ok_of_isOk
    (show (mixedAssets.simulate (.constant RatioDrift.defaultChange) 4 20 (10 ^ 0)).isOk by
      decide +kernel)
  refine ⟨yields, others, simulated, simulatedOthers, fun position elsewhere => ?_⟩
  have unseeded : mixedAssets.Unseeded position := by
    intro _ seeds held
    rcases position with _ | _ | _ | _ | position <;> simp [mixedAssets] at held elsewhere
  exact (yields_of_seed_scales 4 0 mixedAssets_staysClear).1 yields others simulated
    simulatedOthers position unseeded

end WrittenScenario

end DepositYield
