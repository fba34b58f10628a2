import DepositYield.Forecast.Scenario
import DepositYield.Mint.Rate
import DepositYield.Yield.Fertilizer
import DepositYield.Yield.PreGauge

/-!
# Forecasts of a window

A forecast of a period and window smooths the mint rate, simulates the yields
of all whitelisted tokens at that rate, and estimates the yield of fertilizer.
Periods before the activation of the seed gauge use the older model.
-/

namespace DepositYield

open Decimal

/-- The yield of a token for one period and window, in percent. -/
structure TokenYield where
  token : Token
  period : Int
  window : Int
  growth : Growth
  createdAt : Int
  deriving DecidableEq, Repr

/-- Everything that is forecast for one period and window. -/
structure WindowForecast where
  rate : RateRecord
  tokenYields : List TokenYield
  fertilizer : FertilizerRecord
  deriving DecidableEq, Repr

/-- What a forecast reads besides the ledger. -/
structure ForecastSource where
  settings : Settings
  history : MintHistory
  reader : StateReader
  /-- The supply of fertilizer, if it is known. -/
  supply : Option Int

namespace Forecast

/-- The context that settings ask for. -/
def context (settings : Settings) : Except YieldFailure Context :=
  YieldFailure.context settings.simulation.decimalPrecision

/-- The seeds of a token per unit of value. -/
def seedsPerValue (context : Context) (snapshot : Snapshot) (token : Token) :
    Except Signal Decimal :=
  context.ofScaled (snapshot.setting token).stalkEarnedPerSeason seedPlaces

/-- The yield of a token before the seed gauge, in percent. -/
def preGaugeGrowth (context : Context) (settings : Settings) (snapshot : Snapshot)
    (rate seedsPerBean : Decimal) (token : Token) : Except Signal Growth := do
  let totals := snapshot.totals protocolScope
  let scenario : PreGauge.Scenario :=
    { minted := rate
      seedsPerValue := ← seedsPerValue context snapshot token
      seedsPerBean
      stalk := totals.stalk
      seeds := totals.seeds }
  let growth ← scenario.simulate context settings.simulation.horizon.toNat
  return {
    bean := ← context.mul growth.bean hundred
    stalk := ← context.mul growth.stalk hundred }

/-- The yields of tokens before the seed gauge, in percent. -/
def preGaugeGrowths (context : Context) (settings : Settings) (snapshot : Snapshot)
    (rate : Decimal) (tokens : List Token) : Except Signal (List Growth) := do
  let seedsPerBean ← seedsPerValue context snapshot settings.reference
  tokens.mapM (preGaugeGrowth context settings snapshot rate seedsPerBean)

/-- The yields of tokens under the seed gauge, in percent. -/
def gaugeGrowths (context : Context) (settings : Settings) (snapshot : Snapshot)
    (rate : Decimal) (tokens : List Token) : Except YieldFailure (List Growth) := do
  let scenario ← gaugeScenario context settings snapshot tokens rate
  let yields ← scenario.simulate (.constant settings.gauge.ratioDrift)
    settings.simulation.horizon.toNat settings.simulation.decimalPrecision
    settings.simulation.seedPrecision
  return yields.map AssetGrowth.growth

/-- The yields of tokens at a mint rate, in percent and in their order. -/
def tokenYields (settings : Settings) (snapshot : Snapshot) (period window : Int)
    (rate : Decimal) (tokens : List Token) (createdAt : Int) :
    Except YieldFailure (List TokenYield) := do
  if tokens.isEmpty then
    return []
  else
    let context ← context settings
    let growths ←
      if period < settings.gauge.activationPeriod then
        liftM (preGaugeGrowths context settings snapshot rate tokens)
      else
        gaugeGrowths context settings snapshot rate tokens
    return List.zipWith (fun token growth => { token, period, window, growth, createdAt })
      tokens growths

end Forecast

namespace ForecastSource

/-- The estimator of mint rates. -/
def rateEstimator (source : ForecastSource) (context : Context) : RateEstimator where
  history := source.history
  origin := source.settings.rates.originPeriod
  windows := source.settings.rates.windows
  context := context

/-- The estimator of fertilizer yields. -/
def fertilizerEstimator (source : ForecastSource) : FertilizerEstimator where
  reader := source.reader
  defaultHumidity := source.settings.fertilizer.defaultHumidity
  humidityPrecision := source.settings.fertilizer.humidityPrecision
  precision := source.settings.simulation.decimalPrecision

/-- The forecast of a period and window. -/
def forecast (source : ForecastSource) (snapshot : Snapshot) (period window createdAt : Int) :
    Except YieldFailure WindowForecast := do
  let context ← Forecast.context source.settings
  let rate ← (source.rateEstimator context).compute period window snapshot.whitelistedTokens
    createdAt
  let tokenYields ← Forecast.tokenYields source.settings snapshot period window rate.rate
    rate.whitelistedTokens createdAt
  let fertilizer ← source.fertilizerEstimator.estimate period window (.value rate.rate)
    source.supply createdAt
  return { rate, tokenYields, fertilizer }

end ForecastSource

end DepositYield
