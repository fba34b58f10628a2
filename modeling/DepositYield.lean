import DepositYield.Export.Records
import DepositYield.Forecast.Batch
import DepositYield.Forecast.Check
import DepositYield.Forecast.Workbench
import DepositYield.Mint.Record
import DepositYield.Proofs.Event.Interleaving
import DepositYield.Proofs.Ledger.Refusal
import DepositYield.Settings.Reader
import DepositYield.Proofs.Decimal.Nearest
import DepositYield.Proofs.Ledger.Journal
import DepositYield.Proofs.Decimal.Rounding
import DepositYield.Proofs.Decimal.Arithmetic
import DepositYield.Proofs.Decimal.Order
import DepositYield.Proofs.Decimal.Scaled
import DepositYield.Proofs.Decimal.Agreement
import DepositYield.Proofs.Mint.Smoothing
import DepositYield.Proofs.Decimal.Finite
import DepositYield.Proofs.Yield.PreGauge
import DepositYield.Proofs.Yield.Gauge
import DepositYield.Proofs.Settings.Valid
import DepositYield.Proofs.Forecast.Partition
import DepositYield.Proofs.Forecast.Scenario
import DepositYield.Proofs.Forecast.Safety
import DepositYield.Proofs.Yield.Separation
import DepositYield.Proofs.Ledger.Whitelist
import DepositYield.Proofs.Forecast.Selection
import DepositYield.Proofs.Coincidence
import DepositYield.Proofs.Forecast.Germination
import DepositYield.Proofs.Forecast.Store
import DepositYield.Proofs.Forecast.Batch
import DepositYield.Proofs.Forecast.GivenRate
import DepositYield.Proofs.Ledger.GrownStalk
import DepositYield.Proofs.Ledger.Rollup
import DepositYield.Proofs.Ledger.Era
import DepositYield.Proofs.Ledger.Activity
import DepositYield.Proofs.Event.Order
import DepositYield.Proofs.Event.Periods
import DepositYield.Proofs.Decimal.Monotone
import DepositYield.Proofs.Yield.WithoutMints
import DepositYield.Proofs.Forecast.Listing
import DepositYield.Proofs.Mint.Bounds
import DepositYield.Proofs.Decimal.Numeral
import DepositYield.Proofs.Settings.Drift
import DepositYield.Proofs.Text.Case
import DepositYield.Proofs.Settings.Reading
import DepositYield.Proofs.Settings.Normal
import DepositYield.Proofs.Settings.Spelling
import DepositYield.Proofs.Settings.Bounds
import DepositYield.Proofs.Text.Surrogate
import DepositYield.Proofs.Document.Literal
import DepositYield.Proofs.Document.Json
import DepositYield.Proofs.Export.Family
import DepositYield.Proofs.Export.Listing
import DepositYield.Proofs.Export.Content
import DepositYield.Proofs.Export.Rebuilt
import DepositYield.Proofs.Decimal.Amount
import DepositYield.Proofs.Yield.Figures
import DepositYield.Proofs.Yield.Compounding
import DepositYield.Proofs.Yield.Cover
import DepositYield.Proofs.Yield.Accrual
import DepositYield.Proofs.Decimal.Alike
import DepositYield.Proofs.Yield.Widening
import DepositYield.Proofs.Yield.SingleToken
import DepositYield.Proofs.Yield.EmptyToken
import DepositYield.Proofs.Ledger.RoundTrip
import DepositYield.Proofs.Ledger.PartialTakes
import DepositYield.Proofs.Yield.StaticSeeds
import DepositYield.Proofs.Decimal.Shift
import DepositYield.Proofs.Yield.SeedScale
import DepositYield.Proofs.Ledger.Migration
import DepositYield.Proofs.Ledger.Withdrawals
import DepositYield.Proofs.Forecast.Reconciliation
import DepositYield.Proofs.Ledger.Truncation
import DepositYield.Proofs.Ledger.RollupTotals
import DepositYield.Proofs.Mint.Samples
import DepositYield.Proofs.Mint.Records
import DepositYield.Proofs.Yield.Fertilizer
import DepositYield.Proofs.Decimal.RoundTrip
import DepositYield.Proofs.Event.Calls
import DepositYield.Proofs.Event.Versions
import DepositYield.Proofs.Ledger.TokenLists
import DepositYield.Proofs.Forecast.TokenLists
import DepositYield.Proofs.Yield.Limits
