import DepositYield.Forecast.Window
import DepositYield.Table
import DepositYield.Text.Surrogate

/-!
# Stores of forecasts

A store keeps the latest record of every period and window, and of every token
among them.
-/

namespace DepositYield

/-- A period and a window. -/
structure WindowKey where
  period : Int
  window : Int
  deriving DecidableEq, Repr

/-- A token with a period and a window. -/
structure TokenKey where
  token : Token
  window : WindowKey
  deriving DecidableEq, Repr

namespace WindowKey

/-- Keys are ordered by period, then by window. -/
def le (left right : WindowKey) : Bool :=
  if left.period ≠ right.period then left.period < right.period else left.window ≤ right.window

end WindowKey

namespace TokenKey

/-- Keys are ordered by token, then by period, then by window; tokens are compared
by code points. -/
def le (left right : TokenKey) : Bool :=
  if left.token ≠ right.token then
    Text.Surrogate.codes left.token < Text.Surrogate.codes right.token
  else
    left.window.le right.window

end TokenKey

/-- The latest records by key. -/
structure ForecastStore where
  rates : Table WindowKey RateRecord
  tokenYields : Table TokenKey TokenYield
  fertilizer : Table WindowKey FertilizerRecord

namespace ForecastStore

/-- The store without records. -/
def empty : ForecastStore where
  rates := ∅
  tokenYields := ∅
  fertilizer := ∅

/-- Keep a smoothed mint rate. -/
def keepRate (store : ForecastStore) (record : RateRecord) : ForecastStore :=
  { store with rates := store.rates.set ⟨record.period, record.window⟩ record }

/-- Keep the yield of a token. -/
def keepTokenYield (store : ForecastStore) (record : TokenYield) : ForecastStore :=
  { store with
    tokenYields :=
      store.tokenYields.set ⟨record.token, ⟨record.period, record.window⟩⟩ record }

/-- Keep the yields of tokens. -/
def keepTokenYields (store : ForecastStore) (records : List TokenYield) : ForecastStore :=
  records.foldl keepTokenYield store

/-- Keep the yield of fertilizer. -/
def keepFertilizer (store : ForecastStore) (record : FertilizerRecord) : ForecastStore :=
  { store with fertilizer := store.fertilizer.set ⟨record.period, record.window⟩ record }

/-- Keep everything that was forecast for a window. -/
def keepForecast (store : ForecastStore) (forecast : WindowForecast) : ForecastStore :=
  ((store.keepRate forecast.rate).keepTokenYields forecast.tokenYields).keepFertilizer
    forecast.fertilizer

/-- The smoothed mint rate of a period and window. -/
def rate? (store : ForecastStore) (period window : Int) : Option RateRecord :=
  store.rates.get? ⟨period, window⟩

/-- The yield of a token for a period and window. -/
def tokenYield? (store : ForecastStore) (token : Token) (period window : Int) :
    Option TokenYield :=
  store.tokenYields.get? ⟨token, ⟨period, window⟩⟩

/-- The yield of fertilizer for a period and window. -/
def fertilizer? (store : ForecastStore) (period window : Int) : Option FertilizerRecord :=
  store.fertilizer.get? ⟨period, window⟩

/-! ## Records in order -/

/-- The records of a table in the order of their keys. -/
def sortedRecords {Key Record : Type} (le : Key → Key → Bool) (table : Table Key Record) :
    List Record :=
  (table.entries.mergeSort fun left right => le left.1 right.1).map Prod.snd

/-- The smoothed mint rates in the order of their keys. -/
def sortedRates (store : ForecastStore) : List RateRecord :=
  sortedRecords WindowKey.le store.rates

/-- The yields of tokens in the order of their keys. -/
def sortedTokenYields (store : ForecastStore) : List TokenYield :=
  sortedRecords TokenKey.le store.tokenYields

/-- The yields of fertilizer in the order of their keys. -/
def sortedFertilizer (store : ForecastStore) : List FertilizerRecord :=
  sortedRecords WindowKey.le store.fertilizer

end ForecastStore

end DepositYield
