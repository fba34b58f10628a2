import DepositYield.Decimal.Context

/-!
# Failures of yield models

A yield model stops where the arithmetic stops, and where the lists of its
scenario do not fit together.
-/

namespace DepositYield

open Decimal

/-- Why a yield model has no result. -/
inductive YieldFailure where
  | signal (signal : Signal)
  /-- The requested precision is not the precision of any context. -/
  | precisionOutOfRange
  /-- A tracked asset is no asset of a silo with `count` gauge tokens. -/
  | unknownAsset (index : Int) (count : Nat)
  /-- A list of a scenario is shorter than it has to be. -/
  | missingEntry
  /-- A reader of live state has not answered. -/
  | noAnswer
  deriving DecidableEq, Repr

namespace YieldFailure

/-- Arithmetic inside a model stops the model. -/
instance : MonadLift (Except Signal) (Except YieldFailure) where
  monadLift result := result.mapError .signal

/-- The context of the requested precision. -/
def context (precision : Int) : Except YieldFailure Context :=
  match Context.ofPrecision? precision with
  | some context => .ok context
  | none => .error .precisionOutOfRange

end YieldFailure

/-- The season count over which a yield is simulated, one year. -/
def yearOfSeasons : Nat := 8760

/-- The yield of a deposit: the growth of its beans and of its stalk. -/
structure Growth where
  bean : Decimal
  stalk : Decimal
  deriving DecidableEq, Repr

end DepositYield
