import DepositYield.Text.Line

/-!
# Deposit keys

Deposits of a token are told apart by a key.  Early deposits are keyed by the
season they were made in, later ones by the stem, the grown stalk per value
that the token had reached.  A token uses one scheme at a time.
-/

namespace DepositYield

/-- The scheme by which deposits of a token are keyed. -/
inductive KeyScheme where
  | season
  | stem
  deriving DecidableEq, Repr

namespace KeyScheme

/-- The name of a scheme. -/
def name : KeyScheme → String
  | .season => "season"
  | .stem => "stem"

end KeyScheme

/-- The key of a deposit. -/
inductive DepositKey where
  | season (number : Int)
  | stem (height : Int)
  deriving DecidableEq, Repr

namespace DepositKey

/-- The scheme that a key belongs to. -/
def scheme : DepositKey → KeyScheme
  | .season _ => .season
  | .stem _ => .stem

/-- A key as it stands in messages. -/
def toLine : DepositKey → Text.Line
  | .season number => ["Season(season=", .whole number, ")"]
  | .stem height => ["Stem(stem=", .whole height, ")"]

end DepositKey

/-- The version of a deposit record. -/
inductive DepositVersion where
  | season
  | v3
  | v31
  deriving DecidableEq, Repr

namespace DepositVersion

/-- The name of a version. -/
def name : DepositVersion → String
  | .season => "season"
  | .v3 => "v3"
  | .v31 => "v3.1"

end DepositVersion

end DepositYield
