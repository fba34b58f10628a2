import DepositYield.Forecast.Store

/-!
# Workbenches

A workbench forecasts from snapshots of a ledger and keeps the records.  What a
failed refresh leaves in the store is part of its result.
-/

namespace DepositYield

open Decimal

/-- The result of a refresh that may fail, and the store after it. -/
structure Refresh (α : Type) where
  result : Except YieldFailure α
  store : ForecastStore

namespace ForecastSource

/-- Forecast a period and window and keep the records. -/
def refreshWindow (source : ForecastSource) (store : ForecastStore) (snapshot : Snapshot)
    (period window createdAt : Int) : Refresh WindowForecast :=
  match source.forecast snapshot period window createdAt with
  | .error failure => { result := .error failure, store }
  | .ok forecast => { result := .ok forecast, store := store.keepForecast forecast }

/-- Forecast a period for windows in a row, up to the first that fails. -/
def refreshWindows (source : ForecastSource) (snapshot : Snapshot) (period createdAt : Int)
    (store : ForecastStore) : List Int → Refresh (List WindowForecast)
  | [] => { result := .ok [], store }
  | window :: windows =>
      let first := source.refreshWindow store snapshot period window createdAt
      match first.result with
      | .error failure => { result := .error failure, store := first.store }
      | .ok forecast =>
          let rest := source.refreshWindows snapshot period createdAt first.store windows
          { result := rest.result.map (forecast :: ·), store := rest.store }

/-- Forecast a period for all windows of the settings. -/
def refresh (source : ForecastSource) (store : ForecastStore) (snapshot : Snapshot)
    (period createdAt : Int) : Refresh (List WindowForecast) :=
  source.refreshWindows snapshot period createdAt store source.settings.rates.windows

/-- The record of a mint rate that was given rather than smoothed. -/
def givenRate (source : ForecastSource) (period window : Int) (rate : Decimal)
    (whitelistedTokens : List Token) (createdAt : Int) : Except YieldFailure RateRecord := do
  let context ← Forecast.context source.settings
  let samples := sampleCount period window source.settings.rates.originPeriod
  let factor ← smoothingFactor context samples
  return { period, window, samples, factor, rate, whitelistedTokens, createdAt }

/-- The tokens to simulate: those of the stored mint rate if it has any, or else
the whitelisted ones. -/
def tokensFor (stored : Option RateRecord) (snapshot : Snapshot) : List Token :=
  match stored with
  | some record =>
      if record.whitelistedTokens.isEmpty then snapshot.whitelistedTokens
      else record.whitelistedTokens
  | none => snapshot.whitelistedTokens

/-- Forecast the yields of tokens at a given mint rate.  The rate is kept as the
mint rate of the period and window if there is none, before the yields are
simulated. -/
def refreshTokenYields (source : ForecastSource) (store : ForecastStore) (snapshot : Snapshot)
    (period window : Int) (rate : Decimal) (createdAt : Int) : Refresh (List TokenYield) :=
  let stored := store.rate? period window
  let tokens := tokensFor stored snapshot
  let noted : Except YieldFailure ForecastStore :=
    match stored with
    | some _ => .ok store
    | none => (source.givenRate period window rate tokens createdAt).map store.keepRate
  match noted with
  | .error failure => { result := .error failure, store }
  | .ok noted =>
      match Forecast.tokenYields source.settings snapshot period window rate tokens createdAt with
      | .error failure => { result := .error failure, store := noted }
      | .ok yields => { result := .ok yields, store := noted.keepTokenYields yields }

end ForecastSource

end DepositYield
