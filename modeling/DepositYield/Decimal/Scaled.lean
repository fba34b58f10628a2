import DepositYield.Decimal.Order
import DepositYield.Decimal.Context

/-!
# Scaled integers and guarded operations

Ledgers hold amounts as whole numbers of a small unit, `10 ^ -places` of the
whole one.  This file converts between such amounts and decimals, and supplies
the sums, maxima and guarded quotients that the yield models are made of.
-/

namespace DepositYield

namespace Decimal

/-- Decimal places of deposited value. -/
def valuePlaces : Int := 6

/-- Decimal places of stalk. -/
def stalkPlaces : Int := 10

/-- Decimal places of seeds. -/
def seedPlaces : Int := 6

/-- Decimal places of gauge points. -/
def gaugePointPlaces : Int := 18

/-- Decimal places of percentages of deposited value. -/
def percentPlaces : Int := 6

/-- Why a decimal has no amount in small units. -/
inductive ScalingError where
  | signal (signal : Signal)
  | notANumber
  | infinite
  deriving DecidableEq, Repr

/-- The whole part of `coefficient * 10 ^ exponent`. -/
def wholePart (coefficient : Nat) (exponent : Int) : Nat :=
  if 0 ≤ exponent then
    coefficient * Nat.pow 10 exponent.toNat
  else if (digitCount coefficient : Int) < -exponent then
    0
  else
    coefficient / Nat.pow 10 (-exponent).toNat

/-- The whole part of a decimal; the fraction is dropped. -/
def truncate : Decimal → Except ScalingError Int
  | .finite negative coefficient exponent =>
      let magnitude : Int := wholePart coefficient exponent
      .ok (if negative then -magnitude else magnitude)
  | .infinite _ => .error .infinite
  | .nan _ true _ => .error (.signal .invalidOperation)
  | .nan _ false _ => .error .notANumber

/-- The greatest of a list of decimals, zero for the empty list. -/
def greatest : List Decimal → Except Signal Decimal
  | [] => .ok zero
  | first :: rest =>
      rest.foldlM (fun largest value => do return if ← lt? largest value then value else largest)
        first

namespace Context

/-- The decimal of an amount in small units. -/
def ofScaled (context : Context) (amount places : Int) : Except Signal Decimal := do
  context.div (.ofInt amount) (← context.tenTo places)

/-- The amount in small units of a decimal; what is left below one unit is
dropped. -/
def toScaled (context : Context) (value : Decimal) (places : Int) : Except ScalingError Int := do
  let scaled ← (do context.mul value (← context.tenTo places)).mapError ScalingError.signal
  truncate scaled

/-- The quotient, or `fallback` when the divisor is zero. -/
def divOr (context : Context) (dividend divisor fallback : Decimal) : Except Signal Decimal := do
  if ← isZero? divisor then
    return fallback
  else
    context.div dividend divisor

/-- The quotient, or zero when the divisor is zero. -/
def divOrZero (context : Context) (dividend divisor : Decimal) : Except Signal Decimal :=
  context.divOr dividend divisor zero

/-- The sum from left to right, rounded after each term. -/
def sum (context : Context) (values : List Decimal) : Except Signal Decimal :=
  values.foldlM context.add zero

end Context

end Decimal

/-- `value * numerator / denominator` for amounts, with the fraction dropped;
zero when the denominator is zero. -/
def proportion (value numerator denominator : Int) : Int :=
  (value * numerator).tdiv denominator

/-- A liquidity pool: the price it shows and the liquidity behind it. -/
structure Pool where
  price : Decimal
  liquidity : Decimal
  deriving DecidableEq, Repr

/-- The price over all pools, weighted by liquidity; one when there is no
liquidity at all. -/
def weightedPrice (context : Decimal.Context) (pools : List Pool) :
    Except Decimal.Signal Decimal := do
  let (weighted, liquidity) ← pools.foldlM
    (fun (weighted, liquidity) pool => do
      let weighted ← context.add weighted (← context.mul pool.price pool.liquidity)
      return (weighted, ← context.add liquidity pool.liquidity))
    (Decimal.zero, Decimal.zero)
  context.divOr weighted liquidity .one

end DepositYield
