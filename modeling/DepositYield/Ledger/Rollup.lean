import DepositYield.ColumnWidth
import DepositYield.Ledger.Record
import DepositYield.Text.Surrogate

/-!
# Rollup of the journal

The rollup sums the changes of all entries per scope, token and period.  Every
component is a column of integers, and a column is summed in the narrowest
width that holds all of its values.  Sums of a bounded width wrap around.
-/

namespace DepositYield

/-- What the entries of a row have in common. -/
structure RollupKey where
  scope : Scope
  token : Token
  period : Int
  deriving DecidableEq, Repr

namespace RollupKey

open Text.Surrogate in
/-- Rows are ordered by scope, then by token, then by period; names are compared
by code points. -/
def le (left right : RollupKey) : Bool :=
  if left.scope ≠ right.scope then codes left.scope < codes right.scope
  else if left.token ≠ right.token then codes left.token < codes right.token
  else left.period ≤ right.period

end RollupKey

/-- The row that an entry belongs to. -/
def JournalEntry.rollupKey (entry : JournalEntry) : RollupKey where
  scope := entry.scope
  token := entry.token
  period := entry.period

/-- A row of the rollup. -/
structure RollupRow where
  key : RollupKey
  change : Amounts
  deriving DecidableEq, Repr

/-- The widths of the components of changes. -/
structure RollupWidths where
  depositedValue : ColumnWidth
  depositedAmount : ColumnWidth
  withdrawnAmount : ColumnWidth
  stalk : ColumnWidth
  seeds : ColumnWidth
  roots : ColumnWidth
  deriving DecidableEq, Repr

/-- The widths that hold all of the given changes. -/
def RollupWidths.ofChanges (changes : List Amounts) : RollupWidths where
  depositedValue := .ofValues (changes.map Amounts.depositedValue)
  depositedAmount := .ofValues (changes.map Amounts.depositedAmount)
  withdrawnAmount := .ofValues (changes.map Amounts.withdrawnAmount)
  stalk := .ofValues (changes.map Amounts.stalk)
  seeds := .ofValues (changes.map Amounts.seeds)
  roots := .ofValues (changes.map Amounts.roots)

/-- Amounts as the widths hold them. -/
def RollupWidths.wrap (widths : RollupWidths) (amounts : Amounts) : Amounts where
  depositedValue := widths.depositedValue.wrap amounts.depositedValue
  depositedAmount := widths.depositedAmount.wrap amounts.depositedAmount
  withdrawnAmount := widths.withdrawnAmount.wrap amounts.withdrawnAmount
  stalk := widths.stalk.wrap amounts.stalk
  seeds := widths.seeds.wrap amounts.seeds
  roots := widths.roots.wrap amounts.roots

/-- The exact sum of the changes of all entries of a row. -/
def rollupSum (journal : List JournalEntry) (key : RollupKey) : Amounts :=
  journal.foldl
    (fun total entry => if entry.rollupKey = key then total + entry.change else total) 0

/-- The rows that occur in a journal, in order and without repetition. -/
def rollupKeys (journal : List JournalEntry) : List RollupKey :=
  (journal.map JournalEntry.rollupKey).eraseDups.mergeSort RollupKey.le

/-- The changes of a journal, summed per scope, token and period. -/
def rollup (journal : List JournalEntry) : List RollupRow :=
  let widths := RollupWidths.ofChanges (journal.map JournalEntry.change)
  (rollupKeys journal).map fun key => { key, change := widths.wrap (rollupSum journal key) }

end DepositYield
