import DepositYield.Mint.History

/-!
# Smoothed mint rates

The mint rate of a period is an exponential moving average of the history.  At
period `t` with window `w` there are `u = min (t - origin, w)` samples, at
least none, and the smoothing factor is `2 / (u + 1)`.  While `u` is below the
window the factor changes from period to period, so the average runs over the
whole history; later it runs over the last `w` periods only.
-/

namespace DepositYield

open Decimal

/-- The number of samples behind an average. -/
def sampleCount (period window origin : Int) : Int :=
  max 0 (min (period - origin) window)

/-- The smoothing factor of an average over `samples` samples. -/
def smoothingFactor (context : Context) (samples : Int) : Except Signal Decimal :=
  context.div (.ofInt 2) (.ofInt (samples + 1))

/-- One step of the average: the value moves towards the sample by the
smoothing factor. -/
def smoothingStep (context : Context) (factor sample average : Decimal) :
    Except Signal Decimal := do
  context.add (← context.mul (← context.sub sample average) factor) average

/-- The average over `count` periods from `first` on, continued from a given
value. -/
def smoothFrom (context : Context) (history : MintHistory) (factor : Decimal) (first : Int) :
    Nat → Decimal → Except Signal Decimal
  | 0, average => .ok average
  | count + 1, average => do
      let next ← smoothingStep context factor (history.minted first) average
      smoothFrom context history factor (first + 1) count next

/-- The average over the periods `first … last`, starting from zero. -/
def smooth (context : Context) (history : MintHistory) (first last : Int) (factor : Decimal) :
    Except Signal Decimal :=
  smoothFrom context history factor first (last + 1 - first).toNat zero

/-- The smoothed mint rate of one period and window. -/
structure RateRecord where
  period : Int
  window : Int
  samples : Int
  factor : Decimal
  rate : Decimal
  whitelistedTokens : List String
  createdAt : Int
  deriving DecidableEq, Repr

/-- Averages of one history. -/
structure RateEstimator where
  history : MintHistory
  /-- The period after which the history starts. -/
  origin : Int
  windows : List Int
  context : Context

namespace RateEstimator

/-- The origin of estimators that are given none. -/
def defaultOrigin : Int := 6074

/-- A day, a week and a month of seasons. -/
def defaultWindows : List Int := [24, 168, 720]

/-- The smoothing factor and the smoothed rate of a period and window. -/
def factorAndRate (estimator : RateEstimator) (period window : Int) :
    Except Signal (Decimal × Decimal) := do
  let context := estimator.context
  let samples := sampleCount period window estimator.origin
  if samples = 0 then
    return (← smoothingFactor context 0, zero)
  else if samples < window then
    let factor ← smoothingFactor context samples
    return (factor, ← smooth context estimator.history (estimator.origin + 1) period factor)
  else
    let factor ← smoothingFactor context window
    return (factor, ← smooth context estimator.history (period - window + 1) period factor)

/-- The smoothed mint rate of a period and window. -/
def compute (estimator : RateEstimator) (period window : Int) (whitelistedTokens : List String)
    (createdAt : Int) : Except Signal RateRecord := do
  let (factor, rate) ← estimator.factorAndRate period window
  return {
    period
    window
    samples := sampleCount period window estimator.origin
    factor
    rate
    whitelistedTokens
    createdAt }

/-- The average over the whole history with the smoothing factor that applies
at the period. -/
def fullHistory (estimator : RateEstimator) (period window : Int) : Except Signal Decimal := do
  let samples := sampleCount period window estimator.origin
  let factor ← smoothingFactor estimator.context samples
  smooth estimator.context estimator.history (estimator.origin + 1) period factor

/-- The smoothed mint rates of a period for all windows of the estimator. -/
def computeWindows (estimator : RateEstimator) (period : Int) (whitelistedTokens : List String)
    (createdAt : Int) : Except Signal (List RateRecord) :=
  estimator.windows.mapM fun window =>
    estimator.compute period window whitelistedTokens createdAt

end RateEstimator

end DepositYield
