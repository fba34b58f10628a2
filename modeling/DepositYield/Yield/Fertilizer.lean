import DepositYield.Decimal.Scaled
import DepositYield.Decimal.Written
import DepositYield.Yield.Failure

/-!
# Yields of fertilizer

Fertilizer earns a fixed premium, the humidity, over a time that depends on the
mint rate.  With the mint rate per unit of supply, `delta`, the yearly yield is
`humidity / ((1 + humidity) / delta / 8760)`.

Humidity and supply are read from live state.  A failed reading of the humidity
falls back to a default, one of the supply to zero.
-/

namespace DepositYield

open Decimal

/-- What comes back from a reading of live state. -/
inductive Reading where
  | value (amount : Int)
  /-- The reading failed. -/
  | unavailable
  /-- There is no answer in time. -/
  | silent
  deriving DecidableEq, Repr

/-- A reader of live state. -/
structure StateReader where
  humidity : Reading
  supply : Reading
  deriving DecidableEq, Repr

namespace StateReader

/-- The reader over fixed values; a missing humidity cannot be read. -/
def fixed (humidity : Option Int) (supply : Int) : StateReader where
  humidity := humidity.elim .unavailable .value
  supply := .value supply

end StateReader

/-- The amount of a reading, or the given one when it failed. -/
def Reading.amountOr (reading : Reading) (fallback : Int) : Except YieldFailure Int :=
  match reading with
  | .value amount => .ok amount
  | .unavailable => .ok fallback
  | .silent => .error .noAnswer

/-- The yield of fertilizer for one period and window. -/
structure FertilizerRecord where
  period : Int
  window : Int
  humidity : Decimal
  outstandingSupply : Int
  rate : Decimal
  ratePerUnit : Decimal
  simpleYield : Decimal
  createdAt : Int
  deriving DecidableEq, Repr

/-- An estimator of fertilizer yields. -/
structure FertilizerEstimator where
  reader : StateReader
  /-- The humidity, in small units, where none can be read. -/
  defaultHumidity : Int
  /-- The small units of humidity in one whole. -/
  humidityPrecision : Int
  precision : Int
  deriving DecidableEq, Repr

namespace FertilizerEstimator

/-- The default humidity of estimators that are given none. -/
def standardHumidity : Int := 500

/-- The humidity precision of estimators that are given none. -/
def standardPrecision : Int := 1000

/-- The humidity as a fraction. -/
def humidityFraction (estimator : FertilizerEstimator) : Except YieldFailure Decimal := do
  let raw ← estimator.reader.humidity.amountOr estimator.defaultHumidity
  let context ← YieldFailure.context estimator.precision
  context.div (.ofInt raw) (.ofInt estimator.humidityPrecision)

/-- The yearly yield for a humidity and a mint rate per unit of supply; zero
when nothing is minted. -/
def simpleYield (context : Context) (humidity ratePerUnit : Decimal) : Except Signal Decimal := do
  if ← isZero? ratePerUnit then
    return zero
  else
    let seasons ← context.div (← context.add one humidity) ratePerUnit
    context.div humidity (← context.div seasons (.ofInt yearOfSeasons))

/-- The yield for a smoothed mint rate.  The supply is read where it is not
given, and the rate is needed after both readings only. -/
def estimate (estimator : FertilizerEstimator) (period window : Int) (given : Written)
    (supply : Option Int) (createdAt : Int) : Except YieldFailure FertilizerRecord := do
  let humidity ← estimator.humidityFraction
  let outstandingSupply ←
    match supply with
    | some amount => pure amount
    | none => estimator.reader.supply.amountOr 0
  let context ← YieldFailure.context estimator.precision
  let rate ← given.read
  let ratePerUnit ← context.divOrZero rate (.ofInt outstandingSupply)
  let simpleYield ← simpleYield context humidity ratePerUnit
  return {
    period
    window
    humidity
    outstandingSupply
    rate
    ratePerUnit
    simpleYield
    createdAt }

end FertilizerEstimator

end DepositYield
