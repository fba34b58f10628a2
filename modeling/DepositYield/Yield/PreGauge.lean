import DepositYield.Decimal.Scaled
import DepositYield.Yield.Failure

/-!
# Yields before the seed gauge

A depositor of one unit of value is followed through the seasons against the
whole silo.  Each season the silo mints a fixed number of beans, which are
shared by stalk.  Every minted bean adds one stalk and the seeds of a bean to
the totals, and every seed grows `0.0001` stalk per season.
-/

namespace DepositYield.PreGauge

open Decimal

/-- What a simulation starts from. -/
structure Scenario where
  /-- Beans minted to the silo per season. -/
  minted : Decimal
  /-- Seeds per unit of value of the deposited token. -/
  seedsPerValue : Decimal
  /-- Seeds per unit of value of the bean. -/
  seedsPerBean : Decimal
  /-- All stalk of the silo, in small units. -/
  stalk : Int
  /-- All seeds of the silo, in small units. -/
  seeds : Int
  deriving DecidableEq, Repr

/-- The silo and the depositor at the start of a season. -/
structure State where
  seeds : Decimal
  stalk : Decimal
  depositorValue : Decimal
  depositorStalk : Decimal
  deriving DecidableEq, Repr

/-- The stalk that one seed grows per season. -/
def stalkPerSeed : Decimal := .finite false 1 (-4)

/-- The number of seeds that grow one stalk per season. -/
def seedsPerStalk : Decimal := .finite false 10000 0

/-- The state before the first season. -/
def Scenario.initial (context : Context) (scenario : Scenario) : Except Signal State := do
  let seeds ← context.ofScaled scenario.seeds seedPlaces
  let stalk ← context.ofScaled scenario.stalk stalkPlaces
  let depositorValue ← context.divOrZero scenario.seedsPerValue scenario.seedsPerBean
  return { seeds, stalk, depositorValue, depositorStalk := one }

/-- One season.  All totals and the depositor move at once, from the values at
the start of the season. -/
def State.season (context : Context) (scenario : Scenario) (stalkPerBean : Decimal)
    (state : State) : Except Signal State := do
  let ownership ← context.divOrZero state.depositorStalk state.stalk
  let earned ← context.mul scenario.minted ownership
  let seeds ← context.add state.seeds (← context.mul scenario.minted scenario.seedsPerBean)
  let stalk ← context.add (← context.add state.stalk scenario.minted)
    (← context.mul stalkPerSeed state.seeds)
  let depositorValue ← context.add state.depositorValue earned
  let depositorStalk ← context.add (← context.add state.depositorStalk earned)
    (← context.mul stalkPerBean state.depositorValue)
  return { seeds, stalk, depositorValue, depositorStalk }

/-- A number of seasons in a row. -/
def State.run (context : Context) (scenario : Scenario) (stalkPerBean : Decimal) :
    Nat → State → Except Signal State
  | 0, state => .ok state
  | seasons + 1, state => do
      let next ← state.season context scenario stalkPerBean
      State.run context scenario stalkPerBean seasons next

/-- The growth of a deposit over a number of seasons, as fractions. -/
def Scenario.simulate (context : Context) (scenario : Scenario) (seasons : Nat) :
    Except Signal Growth := do
  let initial ← scenario.initial context
  let stalkPerBean ← context.div scenario.seedsPerBean seedsPerStalk
  let final ← initial.run context scenario stalkPerBean seasons
  return {
    bean := ← context.sub final.depositorValue initial.depositorValue
    stalk := ← context.sub final.depositorStalk initial.depositorStalk }

end DepositYield.PreGauge
