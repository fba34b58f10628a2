import Std.Data.TreeMap
import DepositYield.Decimal.Context

/-!
# Mint histories

A mint history holds the value minted in each period.  Periods without an entry
count as zero.  Entries of one period can be replaced or added up; adding up
happens in the ambient precision.
-/

namespace DepositYield

/-- The value minted in each period. -/
structure MintHistory where
  values : Std.TreeMap Int Decimal

namespace MintHistory

open Decimal

/-- The history without entries. -/
def empty : MintHistory where
  values := ∅

/-- The value minted in a period. -/
def minted (history : MintHistory) (period : Int) : Decimal :=
  history.values.getD period zero

/-- Replace the value minted in a period. -/
def set (history : MintHistory) (period : Int) (amount : Decimal) : MintHistory where
  values := history.values.insert period amount

/-- Add to the value minted in a period. -/
def accumulate (history : MintHistory) (period : Int) (amount : Decimal) :
    Except Signal MintHistory := do
  return history.set period (← Context.ambient.add (history.minted period) amount)

/-- The history that holds the given values; the last value of a period counts. -/
def ofMapping (entries : List (Int × Decimal)) : MintHistory :=
  entries.foldl (fun history entry => history.set entry.1 entry.2) empty

/-- The entries in the order of their periods. -/
def entries (history : MintHistory) : List (Int × Decimal) :=
  history.values.toList

/-- The periods that have an entry, in ascending order. -/
def periods (history : MintHistory) : List Int :=
  history.values.keys

/-- The number of periods that have an entry. -/
def size (history : MintHistory) : Nat :=
  history.values.size

end MintHistory

end DepositYield
