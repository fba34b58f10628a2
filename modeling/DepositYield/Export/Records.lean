import DepositYield.Document.Json
import DepositYield.Forecast.Store
import DepositYield.Ledger.Rollup
import DepositYield.Settings.Writer
import DepositYield.Text.Csv
import DepositYield.Text.Quoted

/-!
# Exports

Forecasts are written as JSON or as comma-separated values, the journal and
their rollup as comma-separated values.  Decimals are written as texts, so that
no digit is lost.
-/

namespace DepositYield

/-! ## Records as documents -/

/-- A smoothed mint rate as a document. -/
def RateRecord.toDocument (record : RateRecord) : Document :=
  .object [
    ("period", .int record.period),
    ("window", .int record.window),
    ("u", .int record.samples),
    ("beta", .text record.factor.toText),
    ("smoothed_rate", .text record.rate.toText),
    ("whitelisted_tokens", .list (record.whitelistedTokens.map .text)),
    ("created_at", .int record.createdAt)]

/-- The yield of a token as a document. -/
def TokenYield.toDocument (record : TokenYield) : Document :=
  .object [
    ("token", .text record.token),
    ("period", .int record.period),
    ("window", .int record.window),
    ("bean_apy", .text record.growth.bean.toText),
    ("stalk_apy", .text record.growth.stalk.toText),
    ("created_at", .int record.createdAt)]

/-- The yield of fertilizer as a document. -/
def FertilizerRecord.toDocument (record : FertilizerRecord) : Document :=
  .object [
    ("period", .int record.period),
    ("window", .int record.window),
    ("humidity", .text record.humidity.toText),
    ("outstanding_supply", .int record.outstandingSupply),
    ("rate_ema", .text record.rate.toText),
    ("delta_rate_per_unit", .text record.ratePerUnit.toText),
    ("simple_apy", .text record.simpleYield.toText),
    ("created_at", .int record.createdAt)]

namespace Export

/-- A store as a document, with the settings and the beginning of their digest if
they are given. -/
def document (store : ForecastStore) (settings : Option Settings) : Document :=
  let records := [
    ("token_yields", Document.list (store.sortedTokenYields.map TokenYield.toDocument)),
    ("ema", .list (store.sortedRates.map RateRecord.toDocument)),
    ("fertilizer", .list (store.sortedFertilizer.map FertilizerRecord.toDocument))]
  match settings with
  | none => .object records
  | some settings =>
      .object (records ++ [
        ("config", settings.toDocument),
        ("config_hash", .text settings.digest)])

/-- A store as JSON. -/
def json (store : ForecastStore) (settings : Option Settings) : String :=
  (document store settings).render .indented

/-- What is written of a store as JSON. -/
def write (store : ForecastStore) (settings : Option Settings) : Except Text.Unwritable String :=
  Text.written (document store settings).wholes (json store settings)

/-! ## Tables of forecasts -/

/-- A family of records that is exported as a table. -/
inductive Family where
  | yields
  | rates
  | fertilizer
  deriving DecidableEq, Repr

namespace Family

/-- The name of a family. -/
def name : Family → String
  | .yields => "yields"
  | .rates => "ema"
  | .fertilizer => "fertilizer"

/-- The family of a name. -/
def ofName? (name : String) : Option Family :=
  [Family.yields, .rates, .fertilizer].find? (·.name = name)

end Family

/-- A value in the place of a name, as messages show it. -/
def shownName : Document → Text.Piece
  | .text name => Text.quoted name
  | .int value => .whole value
  | .float value => value.toText
  | .bool value => if value then "True" else "False"
  | _ => "None"

/-- The message about a value that names no family. -/
def unknownFamilyMessage (name : Document) : Text.Line :=
  ["Unknown export kind ", shownName name, ", expected one of ['ema', 'fertilizer', 'yields']"]

/-- The table of the yields of tokens. -/
def yieldsCsv (records : List TokenYield) : Except Text.Unwritable String :=
  Text.Csv.tableText
    ["token", "period", "window", "bean_apy", "stalk_apy", "created_at"]
    (records.map fun record =>
      [record.token, .whole record.period, .whole record.window, record.growth.bean.toText,
        record.growth.stalk.toText, .whole record.createdAt])

/-- The table of smoothed mint rates. -/
def ratesCsv (records : List RateRecord) : Except Text.Unwritable String :=
  Text.Csv.tableText
    ["period", "window", "u", "beta", "smoothed_rate", "whitelisted_tokens", "created_at"]
    (records.map fun record =>
      [.whole record.period, .whole record.window, .whole record.samples, record.factor.toText,
        record.rate.toText, ",".intercalate record.whitelistedTokens, .whole record.createdAt])

/-- The table of yields of fertilizer. -/
def fertilizerCsv (records : List FertilizerRecord) : Except Text.Unwritable String :=
  Text.Csv.tableText
    ["period", "window", "humidity", "outstanding_supply", "rate_ema", "delta_rate_per_unit",
      "simple_apy", "created_at"]
    (records.map fun record =>
      [.whole record.period, .whole record.window, record.humidity.toText,
        .whole record.outstandingSupply, record.rate.toText, record.ratePerUnit.toText,
        record.simpleYield.toText, .whole record.createdAt])

/-- The table of a family of records. -/
def familyCsv (store : ForecastStore) : Family → Except Text.Unwritable String
  | .yields => yieldsCsv store.sortedTokenYields
  | .rates => ratesCsv store.sortedRates
  | .fertilizer => fertilizerCsv store.sortedFertilizer

/-! ## Tables of the journal -/

/-- The columns of a change. -/
def changeColumns : List String :=
  ["delta_deposited_bdv", "delta_deposited_amount", "delta_withdrawn_amount", "delta_stalk",
    "delta_seeds", "delta_roots"]

/-- The cells of a change. -/
def changeCells (change : Amounts) : Text.Line :=
  [change.depositedValue, change.depositedAmount, change.withdrawnAmount, change.stalk,
    change.seeds, change.roots].map .whole

/-- The cells of the balance that results from a change. -/
def balanceCells (balance : Amounts) : Text.Line :=
  [balance.depositedValue, balance.depositedAmount, balance.stalk, balance.seeds,
    balance.roots].map .whole

/-- The table of a journal, one row per write. -/
def journalCsv (journal : List JournalEntry) : Except Text.Unwritable String :=
  Text.Csv.tableText
    (["scope", "token", "period", "timestamp"] ++ changeColumns ++
      ["deposited_bdv", "deposited_amount", "stalk", "seeds", "roots"])
    (journal.map fun entry =>
      entry.scope :: entry.token :: .whole entry.period :: .whole entry.timestamp ::
        (changeCells entry.change).append (balanceCells entry.balance))

/-- The table of the rollup of a journal. -/
def rollupCsv (journal : List JournalEntry) : Except Text.Unwritable String :=
  Text.Csv.tableText
    (["scope", "token", "period"] ++ changeColumns)
    ((rollup journal).map fun row =>
      row.key.scope :: row.key.token :: .whole row.key.period :: changeCells row.change)

end Export

end DepositYield
