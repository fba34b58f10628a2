import DepositYield.Ledger.Basic

/-!
# Deposits

Deposits are put in and taken out under a key.  The first key used for a token
sets its era, and a key of the other scheme is refused; a token moves from the
season era to the stem era once and never back.

Deposits write their record first and the balances second.  A refusal by the
balances therefore leaves the record changed.
-/

namespace DepositYield.Ledger

/-- Refuse a key of the other scheme than the one that the token uses. -/
def requireEra (ledger : Ledger) (token : Token) (key : DepositKey) : Except LedgerFailure Unit :=
  match ledger.eras.get? token with
  | some era => if era = key.scheme then .ok () else .error (.versionMismatch token era key)
  | none => .ok ()

/-- The version of a record that is created now. -/
def versionOf (ledger : Ledger) : DepositKey → DepositVersion
  | .season _ => .season
  | .stem _ =>
      match ledger.v31Period with
      | some first => if first ≤ ledger.period then .v31 else .v3
      | none => .v3

/-- The record of a deposit, or an unused one that is created now. -/
def depositAt (ledger : Ledger) (id : DepositId) (createdAt : Int) : Deposit :=
  ledger.deposits.getD id (.unused (ledger.versionOf id.key) createdAt)

/-- A deposit; it reads as unused if it does not exist. -/
def deposit (ledger : Ledger) (id : DepositId) : Except LedgerFailure Deposit := do
  ledger.requireEra id.token id.key
  return ledger.depositAt id 0

/-- The deposits of an account, of one token if it is given, in the order of
their creation. -/
def accountDeposits (ledger : Ledger) (account : Scope) (token : Option Token) :
    List (DepositId × Deposit) :=
  ledger.deposits.entries.filter fun (id, _) =>
    id.account = account && (token.isNone || token = some id.token)

/-- The key scheme of a token, if a deposit or a migration has set it. -/
def era? (ledger : Ledger) (token : Token) : Option KeyScheme :=
  ledger.eras.get? token

/-- Move a token to the stem era. -/
def adoptStems (ledger : Ledger) (token : Token) : Ledger :=
  { ledger with eras := ledger.eras.set token .stem }

/-- Set the era of a token that has none. -/
def openEra (ledger : Ledger) (token : Token) (scheme : KeyScheme) : Ledger :=
  match ledger.eras.get? token with
  | some _ => ledger
  | none => { ledger with eras := ledger.eras.set token scheme }

/-- Write the record of a deposit. -/
def writeDeposit (ledger : Ledger) (id : DepositId) (deposit : Deposit) : Ledger :=
  { ledger with deposits := ledger.deposits.set id deposit }

/-- Add to the stalk grown per season. -/
def addGrownStalk (ledger : Ledger) (stalk : Int) : Ledger :=
  { ledger with grownStalkPerSeason := ledger.grownStalkPerSeason + stalk }

/-- The change of a balance by deposited value and amount. -/
def depositChange (amount value : Int) : Amounts :=
  { Amounts.zero with depositedValue := value, depositedAmount := amount }

/-- Put an amount and its value into a deposit. -/
def putDeposit (ledger : Ledger) (id : DepositId) (amount value timestamp : Int) :
    Outcome Deposit :=
  match ledger.requireEra id.token id.key with
  | .error failure => { result := .error failure, ledger }
  | .ok () =>
      let held := ledger.depositAt id timestamp
      let deposit :=
        { held with
          amount := held.amount + amount
          value := held.value + value
          updatedAt := timestamp }
      let recorded := (ledger.openEra id.token id.key.scheme).writeDeposit id deposit
      match recorded.change id.account id.token (depositChange amount value) timestamp with
      | .error failure => { result := .error failure, ledger := recorded }
      | .ok credited =>
          { result := .ok deposit
            ledger := credited.addGrownStalk (credited.grownStalkOf id.token value) }

/-- The value that goes with an amount taken out of a deposit: the given one,
or else the share of the deposit's value. -/
def removedValue (deposit : Deposit) (amount : Int) (value : Option Int) : Int :=
  value.getD (proportion amount deposit.value deposit.amount)

/-- Take an amount and its value out of a deposit.  The result is the value
taken out. -/
def takeDeposit (ledger : Ledger) (id : DepositId) (amount : Int) (value : Option Int)
    (timestamp : Int) : Outcome Int :=
  match ledger.requireEra id.token id.key with
  | .error failure => { result := .error failure, ledger }
  | .ok () =>
      let held := ledger.depositAt id 0
      let removed := removedValue held amount value
      if held.amount < amount ∨ held.value < removed then
        { result := .error (.withdrawalExceedsDeposit id held.amount held.value amount removed)
          ledger }
      else
        let deposit :=
          { held with
            amount := held.amount - amount
            value := held.value - removed
            withdrawnAmount := held.withdrawnAmount + amount
            withdrawnValue := held.withdrawnValue + removed
            updatedAt := timestamp }
        let recorded := ledger.writeDeposit id deposit
        match recorded.change id.account id.token (-depositChange amount removed) timestamp with
        | .error failure => { result := .error failure, ledger := recorded }
        | .ok debited =>
            { result := .ok removed
              ledger := debited.addGrownStalk (-debited.grownStalkOf id.token removed) }

end DepositYield.Ledger
