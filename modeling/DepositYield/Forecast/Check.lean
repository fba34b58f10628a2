import DepositYield.Decimal.Text
import DepositYield.Forecast.Window
import DepositYield.Text.Surrogate

/-!
# Sanity checks

Settings, snapshots and forecasts are checked for values that are implausible
or cannot be.  A check of forecasts stops where a NaN would have to be compared, and
every check stops at a finding that cannot be written.
-/

namespace DepositYield

open Decimal

/-- How bad a finding is. -/
inductive Severity where
  | warning
  | error
  deriving DecidableEq, Repr

/-- What a finding is about. -/
inductive FindingCategory where
  | input
  | bounds
  | conservation
  deriving DecidableEq, Repr

/-- The result of a check that did not pass. -/
structure Finding where
  severity : Severity
  category : FindingCategory
  message : Text.Line
  details : Text.Line
  deriving DecidableEq, Repr

/-- The whole numbers that the texts of a finding show. -/
def Finding.wholes (finding : Finding) : List Int :=
  finding.message.wholes ++ finding.details.wholes

/-- Why a check stops. -/
inductive CheckFailure where
  | signal (signal : Signal)
  | unwritable (reason : Text.Unwritable)
  deriving DecidableEq, Repr

namespace Severity

/-- The name of a severity. -/
def name : Severity → String
  | .warning => "warning"
  | .error => "error"

end Severity

namespace FindingCategory

/-- The name of a category. -/
def name : FindingCategory → String
  | .input => "input"
  | .bounds => "bounds"
  | .conservation => "conservation"

end FindingCategory

namespace Check

/-- A finding, if a condition holds. -/
def findingIf (condition : Bool) (finding : Finding) : List Finding :=
  if condition then [finding] else []

/-- Findings, unless one of their texts cannot be written. -/
def report (findings : List Finding) : Except CheckFailure (List Finding) :=
  (Text.written (findings.flatMap Finding.wholes) findings).mapError .unwritable

/-! ## Settings -/

/-- The precision below which a full horizon loses accuracy. -/
def advisedPrecision : Int := 28

/-- The longest window of settings. -/
def longestWindow (windows : List Int) : Int :=
  windows.max?.getD 0

/-- Implausible settings. -/
def settings (settings : Settings) : List Finding :=
  let simulation := settings.simulation
  let history := settings.gauge.activationPeriod - settings.rates.originPeriod
  let longest := longestWindow settings.rates.windows
  findingIf (simulation.horizon ≠ yearOfSeasons)
      { severity := .warning
        category := .input
        message := ["Horizon is not one year of seasons; APYs are not annualized"]
        details := ["Current horizon: ", .whole simulation.horizon] } ++
    findingIf (simulation.decimalPrecision < advisedPrecision)
      { severity := .warning
        category := .input
        message := ["Decimal precision below 28 digits loses accuracy over a full horizon"]
        details := ["Current precision: ", .whole simulation.decimalPrecision] } ++
    findingIf (history < longest)
      { severity := .warning
        category := .input
        message := ["Longest EMA window is not saturated when the gauge activates"]
        details := [.whole history, " periods of history vs window ", .whole longest] }

/-! ## Snapshots -/

/-- The finding of a balance whose deposited value or amount is below zero. -/
def negativeBalance (scope : Scope) (token : Token) (balance : Amounts) : Finding where
  severity := .error
  category := .bounds
  message := ["Negative balance for ", scope, "/", token]
  details := ["bdv=", .whole balance.depositedValue, ", amount=", .whole balance.depositedAmount]

/-- The finding of a token whose protocol balance is not the sum of its
accounts. -/
def unreconciled (token : Token) (protocol accounts : Amounts) : Finding where
  severity := .error
  category := .conservation
  message := ["Protocol balance of ", token, " does not reconcile with accounts"]
  details :=
    ["protocol bdv=", .whole protocol.depositedValue, " amount=", .whole protocol.depositedAmount,
      ", accounts bdv=", .whole accounts.depositedValue, " amount=",
      .whole accounts.depositedAmount]

/-- The balances of a token, summed over all scopes but the protocol. -/
def accountSum (balances : Table (Scope × Token) Amounts) (token : Token) : Amounts :=
  balances.entries.foldl
    (fun total entry =>
      if entry.1.1 ≠ protocolScope ∧ entry.1.2 = token then total + entry.2 else total) 0

/-- The tokens of all balances in the order of code points, without
repetition. -/
def balanceTokens (balances : Table (Scope × Token) Amounts) : List Token :=
  (balances.keys.map Prod.snd).eraseDups.mergeSort fun left right =>
    ¬Text.Surrogate.codes right < Text.Surrogate.codes left

/-- Balances that cannot be: the ones below zero, in their order, and then the
tokens whose protocol balance differs from the sum of their accounts. -/
def snapshot (snapshot : Snapshot) : List Finding :=
  let balances := snapshot.balances
  let negative := balances.entries.flatMap fun ((scope, token), balance) =>
    findingIf (balance.depositedValue < 0 || balance.depositedAmount < 0)
      (negativeBalance scope token balance)
  let unbalanced := (balanceTokens balances).flatMap fun token =>
    let protocol := snapshot.balance protocolScope token
    let accounts := accountSum balances token
    findingIf (protocol.depositedValue ≠ accounts.depositedValue ||
        protocol.depositedAmount ≠ accounts.depositedAmount)
      (unreconciled token protocol accounts)
  negative ++ unbalanced

/-! ## Forecasts -/

/-- The yield, in percent, above which a bean yield is suspicious. -/
def suspiciousYield : Decimal := .finite false 10000 0

/-- Whether one of the components of a growth is below zero. -/
def isNegative (growth : Growth) : Except Signal Bool := do
  if ← lt? growth.bean zero then return true else lt? growth.stalk zero

/-- What is wrong with the yield of a token. -/
def tokenYield (record : TokenYield) : Except CheckFailure (List Finding) := do
  let { bean, stalk } := record.growth
  if ← (isNegative record.growth).mapError .signal then
    report [
      { severity := .error
        category := .bounds
        message := ["Negative yield for ", record.token, " at period ", .whole record.period]
        details :=
          ["bean=", bean.toText, ", stalk=", stalk.toText, ", window=", .whole record.window] }]
  else if ← (lt? suspiciousYield bean).mapError .signal then
    report [
      { severity := .warning
        category := .bounds
        message := ["Bean vAPY above 10000% for ", record.token]
        details := ["bean=", bean.toText, ", window=", .whole record.window] }]
  else
    return []

/-- What is wrong with yields of tokens. -/
def tokenYields (records : List TokenYield) : Except CheckFailure (List Finding) := do
  return (← records.mapM tokenYield).flatten

/-- What is wrong with a smoothed mint rate. -/
def rate (record : RateRecord) : Except CheckFailure (List Finding) := do
  let samples ← report <| findingIf (record.window < record.samples)
    { severity := .error
      category := .bounds
      message := ["EMA sample count exceeds window at period ", .whole record.period]
      details := ["u=", .whole record.samples, ", window=", .whole record.window] }
  let negative ← (lt? record.rate zero).mapError .signal
  let below ← report <| findingIf negative
    { severity := .warning
      category := .bounds
      message := ["Negative smoothed mint rate at period ", .whole record.period]
      details := ["rate=", record.rate.toText, ", window=", .whole record.window] }
  return samples ++ below

/-- What is wrong with smoothed mint rates. -/
def rates (records : List RateRecord) : Except CheckFailure (List Finding) := do
  return (← records.mapM rate).flatten

/-- All findings: of settings, of a snapshot, of mint rates and of yields. -/
def all (current : Settings) (ledger : Snapshot) (yields : List TokenYield)
    (smoothed : List RateRecord) : Except CheckFailure (List Finding) := do
  let settingsFindings ← report (settings current)
  let ledgerFindings ← report (snapshot ledger)
  let rateFindings ← rates smoothed
  let yieldFindings ← tokenYields yields
  return settingsFindings ++ ledgerFindings ++ rateFindings ++ yieldFindings

end Check

end DepositYield
