import DepositYield.Proofs.Forecast.Store
import DepositYield.Proofs.Yield.Shape

/-!
# Why there is no forecast

The lists of a scenario are as long as they should be, whatever the settings and the
snapshot are.  So a forecast that fails does so for a fault of arithmetic or of a value, or
because a reader of live state does not answer.
-/

namespace DepositYield

open Decimal Decimal.Context

/-! ## Yields of tokens -/

namespace Forecast

variable {context : Context} {settings : Settings} {snapshot : Snapshot} {tokens : List Token}
  {rate : Decimal}

/-- The lists of the scenario of a snapshot have the lengths that they should have. -/
theorem gaugeScenario_hasShape (context : Context) (settings : Settings) (snapshot : Snapshot)
    (tokens : List Token) (rate : Decimal) :
    Gives GaugeScenario.HasShape (gaugeScenario context settings snapshot tokens rate) := by
  apply (Settles.length_mapM fun _ _ => Settles.any _).bind
  intro staticSeeds seedCount
  apply (Settles.length_mapM fun _ _ => Settles.any _).bind
  intro gaugePoints pointCount
  apply (Settles.length_mapM fun _ _ => Settles.any _).bind
  intro gaugeValues valueCount
  refine (Settles.any _).bind fun nonGaugeValue _ => ?_
  apply (Settles.length_mapM fun _ _ => Settles.any _).bind
  intro optimalPercents percentCount
  iterate 3 refine (Settles.any _).bind fun _ _ => ?_
  apply (Settles.length_mapM fun _ _ => Settles.any _).bind
  intro germinatingBean beanCount
  apply (Settles.length_mapM fun _ _ => Settles.any _).bind
  intro germinatingEven evenCount
  apply (Settles.length_mapM fun _ _ => Settles.any _).bind
  intro germinatingOdd oddCount
  apply (Settles.length_mapM fun _ _ => Settles.any _).bind
  intro germinatingNonGauge otherCount
  simp only [List.length_map, List.length_zip, min_self] at seedCount valueCount evenCount oddCount
  have buckets : Filled (fun bucket => bucket.length = gaugePoints.length) 2
      [given germinatingEven, given germinatingOdd] := by
    refine ⟨rfl, ?_⟩
    simp [given, evenCount, oddCount, pointCount]
  exact {
    gaugeValues := valueCount.trans pointCount.symm
    optimalPercents := (List.length_map _).trans (percentCount.trans pointCount.symm)
    germinatingBean := (List.length_map _).trans beanCount
    germinatingTokens := buckets
    germinatingNonGauge := (List.length_map _).trans otherCount
    staticSeeds := by
      intro position inside
      apply GaugeScenario.isSome_seedsAt
      simpa [seedCount] using inside
    rules := GaugeScenario.length_rules ((List.length_map _).trans pointCount.symm) }

theorem gaugeGrowths_reports :
    Reports (fun _ => True) (gaugeGrowths context settings snapshot rate tokens) := by
  apply (gaugeScenario_hasShape context settings snapshot tokens rate).report.bind
  intro scenario shape
  apply (scenario.simulate_reports shape (.constant settings.gauge.ratioDrift) _ _ _).bind
  intro yields _
  trivial

theorem tokenYields_reports (settings : Settings) (snapshot : Snapshot) (period window : Int)
    (rate : Decimal) (tokens : List Token) (createdAt : Int) :
    Reports (fun _ => True)
      (tokenYields settings snapshot period window rate tokens createdAt) := by
  unfold tokenYields
  split
  · trivial
  apply (YieldFailure.context_reports settings.simulation.decimalPrecision).bind
  intro context _
  apply Settles.ite_bind
    (fun _ => Reports.arithmetic (preGaugeGrowths context settings snapshot rate tokens))
    (fun _ => gaugeGrowths_reports)
  intro growths _
  trivial

end Forecast

/-! ## Forecasts -/

/-- The reader answers at once, if only that a reading failed. -/
structure StateReader.Answers (reader : StateReader) : Prop where
  humidity : reader.humidity ≠ .silent
  supply : reader.supply ≠ .silent

/-- A fault that is reported, or no answer of a reader that does not answer. -/
def YieldFailure.IsExpected (reader : StateReader) (failure : YieldFailure) : Prop :=
  failure.IsReported ∨ failure = .noAnswer ∧ ¬reader.Answers

theorem Reports.expected {Value : Type} {good : Value → Prop} {model : Except YieldFailure Value}
    (reports : Reports good model) (reader : StateReader) :
    Settles (YieldFailure.IsExpected reader) good model :=
  reports.allow fun _ => .inl

theorem Reading.amountOr_expected {reader : StateReader} {reading : Reading}
    (own : reading = .silent → ¬reader.Answers) (fallback : Int) :
    Settles (YieldFailure.IsExpected reader) (fun _ => True) (reading.amountOr fallback) := by
  cases reading with
  | value amount => trivial
  | unavailable => trivial
  | silent => exact .inr ⟨rfl, own rfl⟩

theorem FertilizerEstimator.estimate_expected (estimator : FertilizerEstimator)
    (period window : Int) (given : Written) (supply : Option Int) (createdAt : Int) :
    Settles (YieldFailure.IsExpected estimator.reader) (fun _ => True)
      (estimator.estimate period window given supply createdAt) := by
  have arithmetic {Value : Type} (calculation : Except Signal Value) :
      Settles (YieldFailure.IsExpected estimator.reader) (fun _ => True)
        (liftM calculation : Except YieldFailure Value) :=
    (Reports.arithmetic calculation).expected _
  have asked := (YieldFailure.context_reports estimator.precision).expected estimator.reader
  have humidity : Settles (YieldFailure.IsExpected estimator.reader) (fun _ => True)
      estimator.humidityFraction := by
    apply (Reading.amountOr_expected (fun silent answers => answers.humidity silent) _).bind
    intro raw _
    apply asked.bind
    intro context _
    exact arithmetic _
  apply humidity.bind
  intro humidity _
  cases supply with
  | some amount =>
      apply asked.bind
      intro context _
      iterate 3 refine (arithmetic _).bind fun _ _ => ?_
      trivial
  | none =>
      apply (Reading.amountOr_expected (fun silent answers => answers.supply silent) 0).bind
      intro outstandingSupply _
      apply asked.bind
      intro context _
      iterate 3 refine (arithmetic _).bind fun _ _ => ?_
      trivial

/-- A forecast is about its period and window.  Nothing prevents it but faults of arithmetic
and of values, and a reader that does not answer. -/
theorem ForecastSource.forecast_expected (source : ForecastSource) (snapshot : Snapshot)
    (period window createdAt : Int) :
    Settles (YieldFailure.IsExpected source.reader) (WindowForecast.IsAbout ⟨period, window⟩)
      (source.forecast snapshot period window createdAt) := by
  have settles : Settles (YieldFailure.IsExpected source.reader) (fun _ => True)
      (source.forecast snapshot period window createdAt) := by
    apply ((YieldFailure.context_reports _).expected source.reader).bind
    intro context _
    apply ((Reports.arithmetic ((source.rateEstimator context).compute period window
      snapshot.whitelistedTokens createdAt)).expected source.reader).bind
    intro rate _
    apply ((Forecast.tokenYields_reports source.settings snapshot period window rate.rate
      rate.whitelistedTokens createdAt).expected source.reader).bind
    intro tokenYields _
    apply (source.fertilizerEstimator.estimate_expected period window (.value rate.rate)
      source.supply createdAt).bind
    intro fertilizer _
    trivial
  cases made : source.forecast snapshot period window createdAt with
  | ok forecast => exact isAbout_of_forecast made
  | error failure => exact settles.stops_of_error made

end DepositYield
