import DepositYield.Ledger.Key

/-!
# Ledger records

All amounts are whole numbers of small units.  Balances are held per scope and
token; a scope is an account or the protocol as a whole, which has a name of
its own among them.
-/

namespace DepositYield

/-- An account, or `protocolScope`. -/
abbrev Scope := String

/-- The address of a token. -/
abbrev Token := String

/-- The scope of protocol-wide balances. -/
def protocolScope : Scope := "protocol"

/-- The amounts that make up a balance, or a change of a balance. -/
structure Amounts where
  depositedValue : Int
  depositedAmount : Int
  withdrawnAmount : Int
  stalk : Int
  seeds : Int
  roots : Int
  deriving DecidableEq, Repr

namespace Amounts

/-- Nothing. -/
def zero : Amounts where
  depositedValue := 0
  depositedAmount := 0
  withdrawnAmount := 0
  stalk := 0
  seeds := 0
  roots := 0

/-- Amounts are added component by component. -/
def add (left right : Amounts) : Amounts where
  depositedValue := left.depositedValue + right.depositedValue
  depositedAmount := left.depositedAmount + right.depositedAmount
  withdrawnAmount := left.withdrawnAmount + right.withdrawnAmount
  stalk := left.stalk + right.stalk
  seeds := left.seeds + right.seeds
  roots := left.roots + right.roots

/-- The opposite amounts. -/
def neg (amounts : Amounts) : Amounts where
  depositedValue := -amounts.depositedValue
  depositedAmount := -amounts.depositedAmount
  withdrawnAmount := -amounts.withdrawnAmount
  stalk := -amounts.stalk
  seeds := -amounts.seeds
  roots := -amounts.roots

instance : Zero Amounts := ⟨zero⟩
instance : Add Amounts := ⟨add⟩
instance : Neg Amounts := ⟨neg⟩
instance : Inhabited Amounts := ⟨zero⟩

end Amounts

/-- What can be credited or debited: all of a balance but its withdrawn amount,
which only withdrawals move. -/
structure Movement where
  depositedValue : Int
  depositedAmount : Int
  stalk : Int
  seeds : Int
  roots : Int
  deriving DecidableEq, Repr

/-- A movement as a change of a balance. -/
def Movement.amounts (movement : Movement) : Amounts where
  depositedValue := movement.depositedValue
  depositedAmount := movement.depositedAmount
  withdrawnAmount := 0
  stalk := movement.stalk
  seeds := movement.seeds
  roots := movement.roots

/-- The balances of a scope, summed over its tokens. -/
structure ScopeSum where
  scope : Scope
  depositedValue : Int
  stalk : Int
  seeds : Int
  roots : Int
  deriving DecidableEq, Repr

/-- What identifies a deposit. -/
structure DepositId where
  account : Scope
  token : Token
  key : DepositKey
  deriving DecidableEq, Repr

/-- A deposit: what is left of it and what was withdrawn from it. -/
structure Deposit where
  version : DepositVersion
  amount : Int
  value : Int
  withdrawnAmount : Int
  withdrawnValue : Int
  createdAt : Int
  updatedAt : Int
  deriving DecidableEq, Repr

/-- The deposit of a version before anything was put in. -/
def Deposit.unused (version : DepositVersion) (createdAt : Int) : Deposit where
  version := version
  amount := 0
  value := 0
  withdrawnAmount := 0
  withdrawnValue := 0
  createdAt := createdAt
  updatedAt := 0

/-- What identifies a withdrawal. -/
structure WithdrawalId where
  account : Scope
  token : Token
  season : Int
  deriving DecidableEq, Repr

/-- A withdrawal of the season era, which waits to be claimed. -/
structure Withdrawal where
  amount : Int
  claimed : Bool
  createdAt : Int
  deriving DecidableEq, Repr

/-- The settings of a token.  A token is a gauge token when it has gauge
points. -/
structure TokenSetting where
  stalkIssuedPerValue : Int
  stalkEarnedPerSeason : Int
  gaugePoints : Option Int
  optimalPercent : Option Int
  milestoneSeason : Int
  /-- The selector of the point rule. -/
  pointRule : String
  updatedAt : Int
  deriving DecidableEq, Repr

namespace TokenSetting

/-- The settings of a token that was never registered. -/
def unregistered : TokenSetting where
  stalkIssuedPerValue := 0
  stalkEarnedPerSeason := 0
  gaugePoints := none
  optimalPercent := none
  milestoneSeason := 0
  pointRule := "identity"
  updatedAt := 0

instance : Inhabited TokenSetting := ⟨unregistered⟩

/-- Whether a token has gauge points. -/
def isGauge (setting : TokenSetting) : Bool :=
  setting.gaugePoints.isSome

end TokenSetting

/-- A write to a balance: the change and the balance that results from it. -/
structure JournalEntry where
  scope : Scope
  token : Token
  period : Int
  timestamp : Int
  change : Amounts
  balance : Amounts
  deriving DecidableEq, Repr

/-- The value of a token that germinates, by the parity of the season in which
it began to. -/
structure Germination where
  even : Int
  odd : Int
  deriving DecidableEq, Repr, Inhabited

namespace Germination

/-- Nothing germinates. -/
def none : Germination where
  even := 0
  odd := 0

/-- The value of the parity of a period. -/
def bucket (germination : Germination) (period : Int) : Int :=
  if period % 2 = 0 then germination.even else germination.odd

/-- Replace the value of the parity of a period. -/
def setBucket (germination : Germination) (period value : Int) : Germination :=
  if period % 2 = 0 then { germination with even := value } else { germination with odd := value }

end Germination

end DepositYield
