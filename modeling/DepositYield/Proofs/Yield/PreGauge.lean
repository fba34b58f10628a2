import DepositYield.Proofs.Decimal.Amount
import DepositYield.Yield.PreGauge

/-!
# Simulations before the seed gauge settle

From finite decimals a simulation goes through all of its seasons and gives a finite
growth, or it overflows.  An empty silo shares nothing out.
-/

namespace DepositYield

open Decimal Decimal.Context

/-- A growth in finite decimals. -/
structure Growth.IsFinite (growth : Growth) : Prop where
  bean : growth.bean.isFinite
  stalk : growth.stalk.isFinite

/-- A growth that is no loss. -/
structure Growth.IsAmount (growth : Growth) : Prop where
  bean : growth.bean.IsAmount
  stalk : growth.stalk.IsAmount

/-- Of two growths, the first one is not the greater one in beans or in stalk. -/
structure Growth.AtMost (left right : Growth) : Prop where
  bean : left.bean.AtMost right.bean
  stalk : left.stalk.AtMost right.stalk

namespace PreGauge

/-- A scenario in finite decimals. -/
structure Scenario.IsFinite (scenario : Scenario) : Prop where
  minted : scenario.minted.isFinite
  seedsPerValue : scenario.seedsPerValue.isFinite
  seedsPerBean : scenario.seedsPerBean.isFinite

/-- A state in finite decimals. -/
structure State.IsFinite (state : State) : Prop where
  seeds : state.seeds.isFinite
  stalk : state.stalk.isFinite
  depositorValue : state.depositorValue.isFinite
  depositorStalk : state.depositorStalk.isFinite

theorem seedsPerStalk_ne_zero : seedsPerStalk.toRat ≠ 0 := by
  simp [seedsPerStalk, sign]

variable {context : Context} {scenario : Scenario} {state : State} {stalkPerBean : Decimal}
  (precise : 0 < context.precision) (finite : scenario.IsFinite)

include precise finite

theorem Scenario.initial_settles :
    Settles (· = .overflow) State.IsFinite (scenario.initial context) := by
  apply (ofScaled_settles precise scenario.seeds (by decide) (by decide)).bind
  intro seeds seedsFinite
  apply (ofScaled_settles precise scenario.stalk (by decide) (by decide)).bind
  intro stalk stalkFinite
  apply (divOrZero_settles precise finite.seedsPerValue finite.seedsPerBean).bind
  intro depositorValue valueFinite
  exact ⟨seedsFinite, stalkFinite, valueFinite, rfl⟩

/-- A season of finite decimals ends in finite decimals. -/
theorem State.season_settles (stalkPerBeanFinite : stalkPerBean.isFinite)
    (stateFinite : state.IsFinite) :
    Settles (· = .overflow) State.IsFinite (state.season context scenario stalkPerBean) := by
  apply (divOrZero_settles precise stateFinite.depositorStalk stateFinite.stalk).bind
  intro ownership ownershipFinite
  apply (mul_settles precise finite.minted ownershipFinite).bind
  intro earned earnedFinite
  apply (mul_settles precise finite.minted finite.seedsPerBean).bind
  intro mintedSeeds mintedSeedsFinite
  apply (add_settles precise stateFinite.seeds mintedSeedsFinite).bind
  intro seeds seedsFinite
  apply (add_settles precise stateFinite.stalk finite.minted).bind
  intro mintedStalk mintedStalkFinite
  apply (mul_settles precise (rfl : stalkPerSeed.isFinite) stateFinite.seeds).bind
  intro grownStalk grownStalkFinite
  apply (add_settles precise mintedStalkFinite grownStalkFinite).bind
  intro stalk stalkFinite
  apply (add_settles precise stateFinite.depositorValue earnedFinite).bind
  intro depositorValue depositorValueFinite
  apply (add_settles precise stateFinite.depositorStalk earnedFinite).bind
  intro earnedStalk earnedStalkFinite
  apply (mul_settles precise stalkPerBeanFinite stateFinite.depositorValue).bind
  intro depositorGrowth depositorGrowthFinite
  apply (add_settles precise earnedStalkFinite depositorGrowthFinite).bind
  intro depositorStalk depositorStalkFinite
  exact ⟨seedsFinite, stalkFinite, depositorValueFinite, depositorStalkFinite⟩

/-- So does any number of seasons in a row. -/
theorem State.run_settles (stalkPerBeanFinite : stalkPerBean.isFinite) (seasons : Nat)
    (stateFinite : state.IsFinite) :
    Settles (· = .overflow) State.IsFinite
      (state.run context scenario stalkPerBean seasons) := by
  induction seasons generalizing state with
  | zero => exact stateFinite
  | succ seasons ih =>
      apply (State.season_settles precise finite stalkPerBeanFinite stateFinite).bind
      intro next nextFinite
      exact ih nextFinite

theorem Scenario.simulate_settles (seasons : Nat) :
    Settles (· = .overflow) Growth.IsFinite (scenario.simulate context seasons) := by
  apply (Scenario.initial_settles precise finite).bind
  intro initial initialFinite
  apply (div_settles precise finite.seedsPerBean (rfl : seedsPerStalk.isFinite)
    seedsPerStalk_ne_zero).bind
  intro stalkPerBean stalkPerBeanFinite
  apply (State.run_settles precise finite stalkPerBeanFinite seasons initialFinite).bind
  intro final finalFinite
  apply (sub_settles precise finalFinite.depositorValue initialFinite.depositorValue).bind
  intro bean beanFinite
  apply (sub_settles precise finalFinite.depositorStalk initialFinite.depositorStalk).bind
  intro stalk stalkFinite
  exact ⟨beanFinite, stalkFinite⟩

end PreGauge

end DepositYield
