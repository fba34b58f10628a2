import DepositYield.Ledger.Record

/-!
# Refused ledger operations

Every refusal has a short code, a reason and sometimes details.  Its message
joins them with colons.
-/

namespace DepositYield

/-- The place of an event in the order of the chain. -/
structure ChainPosition where
  period : Int
  timestamp : Int
  deriving DecidableEq, Repr

namespace ChainPosition

/-- Positions are ordered by period first and by timestamp second. -/
def before (left right : ChainPosition) : Bool :=
  left.period < right.period ||
    (left.period = right.period && left.timestamp < right.timestamp)

/-- A position as it stands in messages. -/
def toLine (position : ChainPosition) : Text.Line :=
  ["(", .whole position.period, ", ", .whole position.timestamp, ")"]

end ChainPosition

/-- Why an operation on the ledger is refused. -/
inductive LedgerFailure where
  /-- A key of the other scheme than the one its token uses. -/
  | versionMismatch (token : Token) (era : KeyScheme) (key : DepositKey)
  /-- A deposited value or amount would fall below zero, to the given ones. -/
  | negativeBalance (scope : Scope) (token : Token) (value amount : Int)
  /-- More is withdrawn than the deposit holds. -/
  | withdrawalExceedsDeposit (id : DepositId) (heldAmount heldValue amount value : Int)
  /-- The period would move back. -/
  | periodRegression (period current : Int)
  /-- An event comes before one that was already applied. -/
  | outOfOrder (account : Scope) (token : Token) (position last : ChainPosition)
  deriving DecidableEq, Repr

namespace LedgerFailure

/-- The code of a refusal. -/
def code : LedgerFailure → String
  | .versionMismatch .. => "deposit_version_mismatch"
  | .negativeBalance .. => "negative_balance"
  | .withdrawalExceedsDeposit .. => "withdraw_exceeds_deposit"
  | .periodRegression .. => "period_regression"
  | .outOfOrder .. => "out_of_order"

/-- The reason of a refusal. -/
def reason : LedgerFailure → Text.Line
  | .versionMismatch token era key =>
      ["token ", token, " uses ", era.name, " keys, got ", key.scheme.name]
  | .negativeBalance scope token _ _ => [scope, "/", token, " would go negative"]
  | .withdrawalExceedsDeposit id heldAmount heldValue _ _ =>
      id.account :: "/" :: id.token :: "/" :: id.key.toLine.append
        [" holds ", .whole heldAmount, " (", .whole heldValue, " bdv)"]
  | .periodRegression period current => ["period ", .whole period, " precedes ", .whole current]
  | .outOfOrder account token position last =>
      "event for " :: account :: "/" :: token :: " at " :: position.toLine.append
        (" precedes " :: last.toLine)

/-- Two named amounts as they stand in details. -/
def amountPair (first : String) (amount : Int) (second : String) (value : Int) : Text.Line :=
  ["\x7b'", first, "': ", .whole amount, ", '", second, "': ", .whole value, "\x7d"]

/-- The details of a refusal, if it has any. -/
def details? : LedgerFailure → Option Text.Line
  | .versionMismatch _ _ key => some key.toLine
  | .negativeBalance _ _ value amount =>
      some (amountPair "deposited_bdv" value "deposited_amount" amount)
  | .withdrawalExceedsDeposit _ _ _ amount value => some (amountPair "amount" amount "bdv" value)
  | .periodRegression .. => none
  | .outOfOrder .. => none

/-- The message of a refusal. -/
def message (failure : LedgerFailure) : Text.Line :=
  let stated : Text.Line := failure.code :: ":" :: failure.reason
  match failure.details? with
  | none => stated
  | some details => stated ++ .words ":" :: details

end LedgerFailure

end DepositYield
