import DepositYield.Proofs.Decimal.Amount
import DepositYield.Proofs.Yield.PreGauge

/-!
# Simulations before the seed gauge in numbers

What a simulation gives from finite decimals depends on the numbers that they denote.  A
season is a function of four numbers that rounds after each operation, and the growth is
read off the numbers before the first season and after the last.
-/

namespace DepositYield.PreGauge

open Decimal Decimal.Context

/-- The numbers of the silo and the depositor at the start of a season. -/
structure Figures where
  seeds : ℚ
  stalk : ℚ
  depositorValue : ℚ
  depositorStalk : ℚ

def State.figures (state : State) : Figures where
  seeds := state.seeds.toRat
  stalk := state.stalk.toRat
  depositorValue := state.depositorValue.toRat
  depositorStalk := state.depositorStalk.toRat

/-- The beans that are earned in a season: the share of the minted ones that the depositor has
in the stalk, or none if there is no stalk. -/
def Figures.earned (context : Context) (scenario : Scenario) (figures : Figures) : ℚ :=
  context.rounded
    (scenario.minted.toRat * context.rounded (figures.depositorStalk / figures.stalk))

/-- The stalk that the seeds of a bean grow per season. -/
def Scenario.beanGrowth (context : Context) (scenario : Scenario) : ℚ :=
  context.rounded (scenario.seedsPerBean.toRat / seedsPerStalk.toRat)

/-- A season, in numbers. -/
def Figures.season (context : Context) (scenario : Scenario) (figures : Figures) : Figures where
  seeds := context.rounded
    (figures.seeds + context.rounded (scenario.minted.toRat * scenario.seedsPerBean.toRat))
  stalk := context.rounded
    (context.rounded (figures.stalk + scenario.minted.toRat) +
      context.rounded (stalkPerSeed.toRat * figures.seeds))
  depositorValue := context.rounded (figures.depositorValue + figures.earned context scenario)
  depositorStalk := context.rounded
    (context.rounded (figures.depositorStalk + figures.earned context scenario) +
      context.rounded (scenario.beanGrowth context * figures.depositorValue))

/-- The numbers before the first season. -/
def Scenario.opening (context : Context) (scenario : Scenario) : Figures where
  seeds := context.rounded (scenario.seeds / 10 ^ seedPlaces)
  stalk := context.rounded (scenario.stalk / 10 ^ stalkPlaces)
  depositorValue :=
    context.rounded (scenario.seedsPerValue.toRat / scenario.seedsPerBean.toRat)
  depositorStalk := 1

/-- The numbers after a number of seasons. -/
def Scenario.closing (context : Context) (scenario : Scenario) (seasons : Nat) : Figures :=
  (Figures.season context scenario)^[seasons] (scenario.opening context)

theorem Scenario.closing_succ (context : Context) (scenario : Scenario) (seasons : Nat) :
    scenario.closing context (seasons + 1) =
      (scenario.closing context seasons).season context scenario :=
  Function.iterate_succ_apply' _ _ _

variable {context : Context} {scenario : Scenario} {state : State} {stalkPerBean : Decimal}
  (precise : 0 < context.precision) (finite : scenario.IsFinite)

include precise finite

theorem Scenario.initial_figures :
    Gives
      (fun initial => initial.IsFinite ∧ initial.figures = scenario.opening context ∧
        initial.depositorStalk = one)
      (scenario.initial context) := by
  apply (ofScaled_calculates precise scenario.seeds (by decide) (by decide)).gives.bind
  rintro seeds ⟨seedsFinite, isSeeds⟩
  apply (ofScaled_calculates precise scenario.stalk (by decide) (by decide)).gives.bind
  rintro stalk ⟨stalkFinite, isStalk⟩
  apply (divOrZero_calculates precise finite.seedsPerValue finite.seedsPerBean).bind
  rintro depositorValue ⟨valueFinite, isValue⟩
  refine ⟨⟨seedsFinite, stalkFinite, valueFinite, rfl⟩, ?_, rfl⟩
  simp only [State.figures, Scenario.opening, isSeeds, isStalk, isValue, toRat_one]

/-- A season of finite decimals is a season of the numbers that they denote. -/
theorem State.season_figures (stalkPerBeanFinite : stalkPerBean.isFinite)
    (isStalkPerBean : stalkPerBean.toRat = scenario.beanGrowth context)
    (stateFinite : state.IsFinite) :
    Gives
      (fun next => next.IsFinite ∧ next.figures = state.figures.season context scenario)
      (state.season context scenario stalkPerBean) := by
  apply (divOrZero_calculates precise stateFinite.depositorStalk stateFinite.stalk).bind
  rintro ownership ⟨ownershipFinite, isOwnership⟩
  apply (mul_calculates precise finite.minted ownershipFinite).gives.bind
  rintro earned ⟨earnedFinite, isEarned⟩
  apply (mul_calculates precise finite.minted finite.seedsPerBean).gives.bind
  rintro mintedSeeds ⟨mintedSeedsFinite, isMintedSeeds⟩
  apply (add_calculates precise stateFinite.seeds mintedSeedsFinite).gives.bind
  rintro seeds ⟨seedsFinite, isSeeds⟩
  apply (add_calculates precise stateFinite.stalk finite.minted).gives.bind
  rintro mintedStalk ⟨mintedStalkFinite, isMintedStalk⟩
  apply (mul_calculates precise (rfl : stalkPerSeed.isFinite) stateFinite.seeds).gives.bind
  rintro grownStalk ⟨grownStalkFinite, isGrownStalk⟩
  apply (add_calculates precise mintedStalkFinite grownStalkFinite).gives.bind
  rintro stalk ⟨stalkFinite, isStalk⟩
  apply (add_calculates precise stateFinite.depositorValue earnedFinite).gives.bind
  rintro depositorValue ⟨valueFinite, isValue⟩
  apply (add_calculates precise stateFinite.depositorStalk earnedFinite).gives.bind
  rintro earnedStalk ⟨earnedStalkFinite, isEarnedStalk⟩
  apply (mul_calculates precise stalkPerBeanFinite stateFinite.depositorValue).gives.bind
  rintro depositorGrowth ⟨depositorGrowthFinite, isDepositorGrowth⟩
  apply (add_calculates precise earnedStalkFinite depositorGrowthFinite).gives.bind
  rintro depositorStalk ⟨depositorStalkFinite, isDepositorStalk⟩
  refine ⟨⟨seedsFinite, stalkFinite, valueFinite, depositorStalkFinite⟩, ?_⟩
  simp only [State.figures, Figures.season, Figures.earned, isSeeds, isMintedSeeds, isStalk,
    isMintedStalk, isGrownStalk, isValue, isDepositorStalk, isEarnedStalk, isDepositorGrowth,
    isEarned, isOwnership, isStalkPerBean]

theorem State.run_figures (stalkPerBeanFinite : stalkPerBean.isFinite)
    (isStalkPerBean : stalkPerBean.toRat = scenario.beanGrowth context) (seasons : Nat)
    (stateFinite : state.IsFinite) :
    Gives
      (fun final => final.IsFinite ∧
        final.figures = (Figures.season context scenario)^[seasons] state.figures)
      (state.run context scenario stalkPerBean seasons) := by
  induction seasons generalizing state with
  | zero => exact ⟨stateFinite, rfl⟩
  | succ seasons ih =>
      apply (State.season_figures precise finite stalkPerBeanFinite isStalkPerBean
        stateFinite).bind
      rintro next ⟨nextFinite, isNext⟩
      rw [Function.iterate_succ_apply, ← isNext]
      exact ih nextFinite

/-- The growth that a simulation gives is the difference of the numbers after the last season
and before the first one. -/
theorem Scenario.simulate_figures (seasons : Nat) :
    Gives
      (fun growth => growth.IsFinite ∧
        growth.bean.toRat =
          context.rounded ((scenario.closing context seasons).depositorValue -
            (scenario.opening context).depositorValue) ∧
        growth.stalk.toRat =
          context.rounded ((scenario.closing context seasons).depositorStalk - 1))
      (scenario.simulate context seasons) := by
  apply (Scenario.initial_figures precise finite).bind
  rintro initial ⟨initialFinite, isInitial, isOne⟩
  apply (div_calculates precise finite.seedsPerBean (rfl : seedsPerStalk.isFinite)
    seedsPerStalk_ne_zero).gives.bind
  rintro stalkPerBean ⟨stalkPerBeanFinite, isStalkPerBean⟩
  apply (State.run_figures precise finite stalkPerBeanFinite isStalkPerBean seasons
    initialFinite).bind
  rintro final ⟨finalFinite, isFinal⟩
  have closes : final.figures = scenario.closing context seasons := by rw [isFinal, isInitial]; rfl
  have opened : initial.depositorValue.toRat = (scenario.opening context).depositorValue :=
    congrArg Figures.depositorValue isInitial
  have closedValue :
      final.depositorValue.toRat = (scenario.closing context seasons).depositorValue :=
    congrArg Figures.depositorValue closes
  have closedStalk :
      final.depositorStalk.toRat = (scenario.closing context seasons).depositorStalk :=
    congrArg Figures.depositorStalk closes
  apply (sub_calculates precise finalFinite.depositorValue
    initialFinite.depositorValue).gives.bind
  rintro bean ⟨beanFinite, isBean⟩
  apply (sub_calculates precise finalFinite.depositorStalk
    initialFinite.depositorStalk).gives.bind
  rintro stalk ⟨stalkFinite, isStalk⟩
  refine ⟨⟨beanFinite, stalkFinite⟩, ?_, ?_⟩
  · rw [isBean, closedValue, opened]
  · rw [isStalk, closedStalk, isOne, toRat_one]

end DepositYield.PreGauge
