import DepositYield.Decimal.Scaled
import DepositYield.Ledger.Failure
import DepositYield.Table

/-!
# The ledger

The ledger holds balances, deposits, withdrawals and token settings.  A change
of an account is applied to the account and then to the protocol, so that for
each token the protocol holds what its accounts hold together.  Every write to
a balance is entered in the journal.

An operation that is refused returns the reason together with the ledger it
leaves behind, since some operations write records before the balances are
asked.
-/

namespace DepositYield

/-- The state of all balances, deposits, withdrawals and token settings. -/
structure Ledger where
  /-- The first period whose stem deposits have version `v31`. -/
  v31Period : Option Int
  period : Int
  balances : Table (Scope × Token) Amounts
  deposits : Table DepositId Deposit
  withdrawals : Table WithdrawalId Withdrawal
  settings : Table Token TokenSetting
  /-- The key scheme of each token that has one. -/
  eras : Table Token KeyScheme
  germinating : Table Token Germination
  whitelistedTokens : List Token
  dewhitelistedTokens : List Token
  activeAccounts : List Scope
  grownStalkPerSeason : Int
  pointRatio : Int
  /-- All writes to balances so far, in order. -/
  journal : List JournalEntry

/-- The result of an operation that may be refused, and the ledger after it. -/
structure Outcome (α : Type) where
  result : Except LedgerFailure α
  ledger : Ledger

namespace Ledger

/-- The ledger before the first operation. -/
def empty (v31Period : Option Int) : Ledger where
  v31Period := v31Period
  period := 0
  balances := ∅
  deposits := ∅
  withdrawals := ∅
  settings := ∅
  eras := ∅
  germinating := ∅
  whitelistedTokens := []
  dewhitelistedTokens := []
  activeAccounts := []
  grownStalkPerSeason := 0
  pointRatio := 0
  journal := []

/-! ## Balances -/

/-- The sum of the amounts that a table of balances holds for a scope. -/
def scopeAmounts (balances : Table (Scope × Token) Amounts) (scope : Scope) : Amounts :=
  balances.entries.foldl
    (fun total entry => if entry.1.1 = scope then total + entry.2 else total) 0

/-- The totals of a scope in a table of balances. -/
def scopeTotals (balances : Table (Scope × Token) Amounts) (scope : Scope) : ScopeSum :=
  let total := scopeAmounts balances scope
  { scope
    depositedValue := total.depositedValue
    stalk := total.stalk
    seeds := total.seeds
    roots := total.roots }

/-- The balance of a scope and token, zero if it was never touched. -/
def balance (ledger : Ledger) (scope : Scope) (token : Token) : Amounts :=
  ledger.balances.getD (scope, token) 0

/-- The balances of a scope, summed over its tokens. -/
def totals (ledger : Ledger) (scope : Scope) : ScopeSum :=
  scopeTotals ledger.balances scope

/-- The balance after a change; refused if the deposited value or amount would
fall below zero. -/
def changedBalance (ledger : Ledger) (scope : Scope) (token : Token) (change : Amounts) :
    Except LedgerFailure Amounts :=
  let changed := ledger.balance scope token + change
  if changed.depositedValue < 0 ∨ changed.depositedAmount < 0 then
    .error (.negativeBalance scope token changed.depositedValue changed.depositedAmount)
  else
    .ok changed

/-- Write a balance and enter it in the journal. -/
def writeBalance (ledger : Ledger) (scope : Scope) (token : Token) (change changed : Amounts)
    (timestamp : Int) : Ledger :=
  { ledger with
    balances := ledger.balances.set (scope, token) changed
    journal := ledger.journal ++
      [{ scope, token, period := ledger.period, timestamp, change, balance := changed }] }

/-- Change a balance, and with an account also the protocol.  All changes are
checked before the first is written. -/
def change (ledger : Ledger) (scope : Scope) (token : Token) (change : Amounts)
    (timestamp : Int) : Except LedgerFailure Ledger :=
  if scope = protocolScope then do
    let changed ← ledger.changedBalance scope token change
    return ledger.writeBalance scope token change changed timestamp
  else do
    let changed ← ledger.changedBalance scope token change
    let protocolChanged ← ledger.changedBalance protocolScope token change
    return (ledger.writeBalance scope token change changed timestamp).writeBalance
      protocolScope token change protocolChanged timestamp

/-- The outcome of an operation that changes balances and nothing else. -/
def changeOnly (ledger : Ledger) (scope : Scope) (token : Token) (amounts : Amounts)
    (timestamp : Int) : Outcome Unit :=
  match ledger.change scope token amounts timestamp with
  | .ok changed => { result := .ok (), ledger := changed }
  | .error failure => { result := .error failure, ledger }

/-- Add to a balance. -/
def credit (ledger : Ledger) (scope : Scope) (token : Token) (movement : Movement)
    (timestamp : Int) : Outcome Unit :=
  ledger.changeOnly scope token movement.amounts timestamp

/-- Subtract from a balance. -/
def debit (ledger : Ledger) (scope : Scope) (token : Token) (movement : Movement)
    (timestamp : Int) : Outcome Unit :=
  ledger.changeOnly scope token (-movement.amounts) timestamp

/-! ## Settings -/

/-- The settings of a token. -/
def setting (ledger : Ledger) (token : Token) : TokenSetting :=
  ledger.settings.getD token .unregistered

/-- The small units of stalk earned per season in one whole. -/
def stalkPerSeasonPrecision : Int := 1000000

/-- The stalk that a value of a token grows per season. -/
def grownStalkOf (ledger : Ledger) (token : Token) (value : Int) : Int :=
  proportion value (ledger.setting token).stalkEarnedPerSeason stalkPerSeasonPrecision

end Ledger

end DepositYield
