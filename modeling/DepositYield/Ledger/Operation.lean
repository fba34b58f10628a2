import DepositYield.Ledger.Accounts
import DepositYield.Ledger.Deposits
import DepositYield.Ledger.Tokens

/-!
# Operations as data

Everything that can be asked of a ledger, apart from plain reading, is an
operation.  Performing it gives a reply or a refusal, and the ledger after it;
a run performs operations one after the other and goes on after refusals.
-/

namespace DepositYield

/-- Something that is asked of a ledger. -/
inductive Operation where
  | credit (scope : Scope) (token : Token) (movement : Movement) (timestamp : Int)
  | debit (scope : Scope) (token : Token) (movement : Movement) (timestamp : Int)
  | readDeposit (id : DepositId)
  | putDeposit (id : DepositId) (amount value timestamp : Int)
  | takeDeposit (id : DepositId) (amount : Int) (value : Option Int) (timestamp : Int)
  | adoptStems (token : Token)
  | moveStalk (account : Scope) (token : Token) (stalk roots timestamp : Int)
  | moveSeeds (account : Scope) (token : Token) (seeds timestamp : Int)
  | queueWithdrawal (id : WithdrawalId) (amount timestamp : Int)
  | markClaimed (id : WithdrawalId)
  | whitelist (token : Token) (setting : TokenSetting) (timestamp : Int)
  | dewhitelist (token : Token)
  | setStalkPerSeason (token : Token) (season stalkEarnedPerSeason timestamp : Int)
  | configureGauge (token : Token) (gaugePoints optimalPercent : Option Int) (pointRule : String)
      (timestamp : Int)
  | setPointRatio (ratio : Int)
  | germinate (token : Token) (period value : Int)
  | finishGermination (token : Token) (period : Int)
  | advanceTo (period : Int)
  deriving DecidableEq, Repr

/-- What a ledger answers to an operation. -/
inductive Reply where
  | done
  | amount (amount : Int)
  | deposit (id : DepositId) (deposit : Deposit)
  | withdrawal (id : WithdrawalId) (withdrawal : Withdrawal)
  deriving DecidableEq, Repr

namespace Outcome

/-- The outcome with another result where there is one. -/
def map {α β : Type} (f : α → β) (outcome : Outcome α) : Outcome β where
  result := outcome.result.map f
  ledger := outcome.ledger

/-- The outcome of an operation that is never refused. -/
def accepted (ledger : Ledger) : Outcome Reply where
  result := .ok .done
  ledger := ledger

end Outcome

namespace Operation

/-- Perform an operation. -/
def perform (ledger : Ledger) : Operation → Outcome Reply
  | .credit scope token movement timestamp =>
      (ledger.credit scope token movement timestamp).map fun _ => .done
  | .debit scope token movement timestamp =>
      (ledger.debit scope token movement timestamp).map fun _ => .done
  | .readDeposit id => { result := (ledger.deposit id).map (.deposit id), ledger }
  | .putDeposit id amount value timestamp =>
      (ledger.putDeposit id amount value timestamp).map (.deposit id)
  | .takeDeposit id amount value timestamp =>
      (ledger.takeDeposit id amount value timestamp).map .amount
  | .adoptStems token => .accepted (ledger.adoptStems token)
  | .moveStalk account token stalk roots timestamp =>
      (ledger.moveStalk account token stalk roots timestamp).map fun _ => .done
  | .moveSeeds account token seeds timestamp =>
      (ledger.moveSeeds account token seeds timestamp).map fun _ => .done
  | .queueWithdrawal id amount timestamp =>
      (ledger.queueWithdrawal id amount timestamp).map (.withdrawal id)
  | .markClaimed id => .accepted (ledger.markClaimed id)
  | .whitelist token setting timestamp =>
      .accepted (ledger.whitelist token setting timestamp)
  | .dewhitelist token => .accepted (ledger.dewhitelist token)
  | .setStalkPerSeason token season stalkEarnedPerSeason timestamp =>
      .accepted (ledger.setStalkPerSeason token season stalkEarnedPerSeason timestamp)
  | .configureGauge token gaugePoints optimalPercent pointRule timestamp =>
      .accepted (ledger.configureGauge token gaugePoints optimalPercent pointRule timestamp)
  | .setPointRatio ratio => .accepted (ledger.setPointRatio ratio)
  | .germinate token period value => .accepted (ledger.germinate token period value)
  | .finishGermination token period =>
      let (finished, emptied) := ledger.finishGermination token period
      { result := .ok (.amount finished), ledger := emptied }
  | .advanceTo period => (ledger.advanceTo period).map fun _ => .done

end Operation

namespace Ledger

/-- The ledger after operations in a row; a refused operation leaves behind
what its outcome says. -/
def run (ledger : Ledger) (operations : List Operation) : Ledger :=
  operations.foldl (fun current operation => (operation.perform current).ledger) ledger

end Ledger

end DepositYield
