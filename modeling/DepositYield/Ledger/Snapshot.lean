import DepositYield.Ledger.Tokens

/-!
# Snapshots

A snapshot is all of the ledger that the yield models read.
-/

namespace DepositYield

/-- What the yield models read of a ledger. -/
structure Snapshot where
  period : Int
  balances : Table (Scope × Token) Amounts
  settings : Table Token TokenSetting
  whitelistedTokens : List Token
  dewhitelistedTokens : List Token
  germinating : Table Token Germination
  pointRatio : Int
  grownStalkPerSeason : Int

/-- The snapshot of a ledger as it stands. -/
def Ledger.snapshot (ledger : Ledger) : Snapshot where
  period := ledger.period
  balances := ledger.balances
  settings := ledger.settings
  whitelistedTokens := ledger.whitelistedTokens
  dewhitelistedTokens := ledger.dewhitelistedTokens
  germinating := ledger.germinating
  pointRatio := ledger.pointRatio
  grownStalkPerSeason := ledger.grownStalkPerSeason

namespace Snapshot

/-- The balance of a scope and token, zero if it was never touched. -/
def balance (snapshot : Snapshot) (scope : Scope) (token : Token) : Amounts :=
  snapshot.balances.getD (scope, token) 0

/-- The balances of a scope, summed over its tokens. -/
def totals (snapshot : Snapshot) (scope : Scope) : ScopeSum :=
  Ledger.scopeTotals snapshot.balances scope

/-- The settings of a token. -/
def setting (snapshot : Snapshot) (token : Token) : TokenSetting :=
  snapshot.settings.getD token .unregistered

/-- The germinating value of a token. -/
def germination (snapshot : Snapshot) (token : Token) : Germination :=
  snapshot.germinating.getD token .none

end Snapshot

end DepositYield
