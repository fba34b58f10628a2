import DepositYield.Ledger.Snapshot
import DepositYield.Settings.Basic
import DepositYield.Yield.Gauge

/-!
# Gauge scenarios from a snapshot

Every token of a simulation is the bean, a gauge token or neither.  Each amount
of a snapshot goes into exactly one place of the scenario: what is deposited as
neither bean nor gauge token is the protocol's total less the other two, so
that it includes tokens that are not simulated.
-/

namespace DepositYield

open Decimal

namespace Forecast

/-- The gauge tokens among the tokens of a simulation. -/
def gaugeTokens (settings : Settings) (snapshot : Snapshot) (tokens : List Token) : List Token :=
  tokens.filter fun token => token ≠ settings.reference && (snapshot.setting token).isGauge

/-- The position of a gauge token, the last one if it occurs repeatedly. -/
def gaugePosition? (gaugeTokens : List Token) (token : Token) : Option Nat :=
  if token ∈ gaugeTokens then
    some (gaugeTokens.length - 1 - gaugeTokens.reverse.idxOf token)
  else
    none

/-- What a token is in a simulation. -/
def assetOf (settings : Settings) (gaugeTokens : List Token) (token : Token) : Asset :=
  if token = settings.reference then
    .reference
  else
    match gaugePosition? gaugeTokens token with
    | some position => .gauge position
    | none => .nonGauge

/-- The fixed seeds of a token; only non-gauge tokens have any. -/
def fixedSeeds (context : Context) (snapshot : Snapshot) (asset : Asset) (token : Token) :
    Except Signal (Option Decimal) := do
  match asset with
  | .nonGauge =>
      return some (← context.ofScaled (snapshot.setting token).stalkEarnedPerSeason seedPlaces)
  | _ => return none

/-- The deposited value of a token over the whole protocol. -/
def depositedValue (snapshot : Snapshot) (token : Token) : Int :=
  (snapshot.balance protocolScope token).depositedValue

/-- The deposited value of the protocol that is neither bean nor gauge token. -/
def otherValue (settings : Settings) (snapshot : Snapshot) (gaugeTokens : List Token) : Int :=
  (snapshot.totals protocolScope).depositedValue - depositedValue snapshot settings.reference -
    gaugeTokens.foldl (fun total token => total + depositedValue snapshot token) 0

/-- The germinating value of the protocol that is neither bean nor gauge
token. -/
def otherGermination (settings : Settings) (snapshot : Snapshot) (gaugeTokens : List Token) :
    Germination :=
  snapshot.germinating.entries.foldl
    (fun total entry =>
      if entry.1 = settings.reference ∨ entry.1 ∈ gaugeTokens then
        total
      else
        { even := total.even + entry.2.even, odd := total.odd + entry.2.odd })
    .none

/-- The selector of the point rule of a token.  Tokens that are left on identity
follow the settings. -/
def ruleSelector (settings : Settings) (setting : TokenSetting) : String :=
  if setting.pointRule = "identity" then settings.gauge.pointRule else setting.pointRule

/-- Decimals as they are given to a simulation. -/
def given (decimals : List Decimal) : List Written :=
  decimals.map .value

/-- Amounts of value as decimals. -/
def valuesOf (context : Context) (amounts : List Int) : Except Signal (List Decimal) :=
  amounts.mapM fun amount => context.ofScaled amount valuePlaces

/-- The scenario of the given tokens under the seed gauge. -/
def gaugeScenario (context : Context) (settings : Settings) (snapshot : Snapshot)
    (tokens : List Token) (earnedBeans : Decimal) : Except Signal GaugeScenario := do
  let gaugeTokens := gaugeTokens settings snapshot tokens
  let assets := tokens.map (assetOf settings gaugeTokens)
  let staticSeeds ← (assets.zip tokens).mapM fun (asset, token) =>
    fixedSeeds context snapshot asset token
  let gaugePoints ← gaugeTokens.mapM fun token =>
    context.ofScaled ((snapshot.setting token).gaugePoints.getD 0) gaugePointPlaces
  let gaugeValues ← valuesOf context (gaugeTokens.map (depositedValue snapshot))
  let nonGaugeValue ←
    context.ofScaled (otherValue settings snapshot gaugeTokens) valuePlaces
  let optimalPercents ← gaugeTokens.mapM fun token =>
    context.ofScaled ((snapshot.setting token).optimalPercent.getD 0) percentPlaces
  let initialRatio ←
    context.div (.ofInt snapshot.pointRatio) (.ofInt settings.gauge.ratioPrecision)
  let beanValue ← context.ofScaled (depositedValue snapshot settings.reference) valuePlaces
  let siloStalk ← context.ofScaled (snapshot.totals protocolScope).stalk stalkPlaces
  let bean := snapshot.germination settings.reference
  let germinatingBean ← valuesOf context [bean.even, bean.odd]
  let germinations := gaugeTokens.map snapshot.germination
  let germinatingEven ← valuesOf context (germinations.map Germination.even)
  let germinatingOdd ← valuesOf context (germinations.map Germination.odd)
  let other := otherGermination settings snapshot gaugeTokens
  let germinatingNonGauge ← valuesOf context [other.even, other.odd]
  return {
    assets := assets.map Asset.index
    earnedBeans
    gaugePoints
    gaugeValues
    nonGaugeValue
    optimalPercents := given optimalPercents
    initialRatio
    beanValue
    siloStalk
    catchUpRate := .ofInt settings.gauge.catchUpRate
    season := snapshot.period
    germinatingBean := given germinatingBean
    germinatingGauge := [given germinatingEven, given germinatingOdd]
    germinatingNonGauge := given germinatingNonGauge
    staticSeeds := staticSeeds.map fun seeds => seeds.map .value
    pointRules := gaugeTokens.map fun token =>
      .ofSelector (some (ruleSelector settings (snapshot.setting token))) }

end Forecast

end DepositYield
