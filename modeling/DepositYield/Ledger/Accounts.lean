import DepositYield.Ledger.Basic

/-!
# Stalk, seeds and withdrawals of accounts

An account is active while its stalk over all tokens is above zero.
-/

namespace DepositYield.Ledger

/-- The set of active accounts after the stalk of an account has changed. -/
def refreshActive (ledger : Ledger) (account : Scope) : Ledger :=
  let others := ledger.activeAccounts.filter (· ≠ account)
  if 0 < (ledger.totals account).stalk then
    { ledger with activeAccounts := others ++ [account] }
  else
    { ledger with activeAccounts := others }

/-- Change the stalk and the roots of an account. -/
def moveStalk (ledger : Ledger) (account : Scope) (token : Token) (stalk roots : Int)
    (timestamp : Int) : Outcome Unit :=
  match ledger.change account token { Amounts.zero with stalk, roots } timestamp with
  | .error failure => { result := .error failure, ledger }
  | .ok changed =>
      { result := .ok ()
        ledger := if account = protocolScope then changed else changed.refreshActive account }

/-- Change the seeds of an account. -/
def moveSeeds (ledger : Ledger) (account : Scope) (token : Token) (seeds : Int)
    (timestamp : Int) : Outcome Unit :=
  ledger.changeOnly account token { Amounts.zero with seeds } timestamp

/-- Write the record of a withdrawal. -/
def writeWithdrawal (ledger : Ledger) (id : WithdrawalId) (withdrawal : Withdrawal) : Ledger :=
  { ledger with withdrawals := ledger.withdrawals.set id withdrawal }

/-- The record of a withdrawal, or a fresh one. -/
def withdrawalAt (ledger : Ledger) (id : WithdrawalId) (createdAt : Int) : Withdrawal :=
  ledger.withdrawals.getD id { amount := 0, claimed := false, createdAt }

/-- Add to a withdrawal of the season era.  Of the balances only the withdrawn
amount moves. -/
def queueWithdrawal (ledger : Ledger) (id : WithdrawalId) (amount timestamp : Int) :
    Outcome Withdrawal :=
  let held := ledger.withdrawalAt id timestamp
  let withdrawal := { held with amount := held.amount + amount }
  let recorded := ledger.writeWithdrawal id withdrawal
  match recorded.change id.account id.token { Amounts.zero with withdrawnAmount := amount }
      timestamp with
  | .error failure => { result := .error failure, ledger := recorded }
  | .ok changed => { result := .ok withdrawal, ledger := changed }

/-- Mark a withdrawal as claimed. -/
def markClaimed (ledger : Ledger) (id : WithdrawalId) : Ledger :=
  ledger.writeWithdrawal id { ledger.withdrawalAt id 0 with claimed := true }

/-- The record of a withdrawal. -/
def withdrawal (ledger : Ledger) (id : WithdrawalId) : Option Withdrawal :=
  ledger.withdrawals.get? id

end DepositYield.Ledger
