import DepositYield.Decimal.Basic

/-!
# Arithmetic under a precision

A context carries the number of significant digits that results may have.
Every operation is the exact result followed by one rounding: exact results
that fit keep the exponent that the operation prefers, all others are rounded
half to even.  Exponents are limited to `-999999 … 999999`; a result above the
limit stops the calculation, a result below it is rounded to the least
exponent that a subnormal number may have.

An operation stops with a `Signal` where no result exists.  Quiet NaNs do not
stop anything: they are passed on.
-/

namespace DepositYield.Decimal

/-- The number of significant digits that results are rounded to. -/
structure Context where
  precision : Nat
  deriving DecidableEq, Repr

/-- The largest adjusted exponent of a result. -/
def maxExponent : Int := 999999

/-- The least adjusted exponent of a normal result. -/
def minExponent : Int := -999999

/-- The largest precision that a context may have. -/
def maxPrecision : Nat := 999999999999999999

namespace Context

/-- The context of calculations that ask for no precision of their own. -/
def ambient : Context where
  precision := 28

/-- A context of the given precision, which lies between one and
`maxPrecision`. -/
def ofPrecision? (precision : Int) : Option Context :=
  if 1 ≤ precision ∧ precision ≤ maxPrecision then
    some { precision := precision.toNat }
  else
    none

/-- The least exponent of a result, subnormal numbers included. -/
def tiny (context : Context) : Int :=
  minExponent - context.precision + 1

/-! ## Rounding -/

/-- The decimal of this context nearest to `coefficient * 10 ^ exponent`, with
the given sign. -/
def round (context : Context) (negative : Bool) (coefficient : Nat) (exponent : Int) :
    Except Signal Decimal :=
  if coefficient = 0 then
    .ok (.finite negative 0 (max context.tiny (min exponent maxExponent)))
  else
    let digits := digitCount coefficient
    let adjusted := exponent + digits - 1
    if maxExponent < adjusted then
      .error .overflow
    else if adjusted < minExponent ∧ exponent < context.tiny then
      let places := (context.tiny - exponent).toNat
      let rounded := if digits < places then 0 else roundHalfEven coefficient places
      .ok (.finite negative rounded context.tiny)
    else if context.precision < digits then
      let places := digits - context.precision
      let rounded := roundHalfEven coefficient places
      if rounded < Nat.pow 10 context.precision then
        .ok (.finite negative rounded (exponent + places))
      else if maxExponent < adjusted + 1 then
        .error .overflow
      else
        .ok (.finite negative (rounded / 10) (exponent + places + 1))
    else
      .ok (.finite negative coefficient exponent)

/-- The result of an operation that has a NaN among its operands, `none` when
there is none.  A signaling NaN stops the calculation; otherwise the first NaN
is passed on, its payload cut to the last digits that fit. -/
def passNaN? (context : Context) (left right : Decimal) : Option (Except Signal Decimal) :=
  let passed (negative : Bool) (payload : Nat) : Decimal :=
    .nan negative false (payload % Nat.pow 10 context.precision)
  match left, right with
  | .nan _ true _, _ => some (.error .invalidOperation)
  | _, .nan _ true _ => some (.error .invalidOperation)
  | .nan negative false payload, _ => some (.ok (passed negative payload))
  | _, .nan negative false payload => some (.ok (passed negative payload))
  | _, _ => none

/-! ## Addition and subtraction -/

/-- The coefficient at the lesser exponent `exponent - gap`. -/
def spread (coefficient gap : Nat) : Nat :=
  if coefficient = 0 then 0 else coefficient * Nat.pow 10 gap

/-- A stand-in for the operand of lesser exponent.  An operand that lies wholly
below the digits that can decide the rounding is replaced by a single unit
right below them, which rounds the same way and keeps the sum short. -/
def standIn (context : Context) (upper : Nat) (upperExponent : Int) (lower : Nat)
    (lowerExponent : Int) : Nat × Int :=
  if upper = 0 then
    (lower, lowerExponent)
  else
    let digits := digitCount upper
    let floor := upperExponent - 1 - (context.precision + 1 - digits : Nat)
    if lowerExponent + digitCount lower - 1 < floor then
      (if lower = 0 then 0 else 1, floor)
    else
      (lower, lowerExponent)

/-- The rounded sum of two signed coefficients at one exponent.  An exact zero
is negative only when both terms are. -/
def addAligned (context : Context) (leftNegative : Bool) (left : Nat) (rightNegative : Bool)
    (right : Nat) (exponent : Int) : Except Signal Decimal :=
  if leftNegative = rightNegative then
    context.round leftNegative (left + right) exponent
  else if left = right then
    context.round false 0 exponent
  else if left < right then
    context.round rightNegative (right - left) exponent
  else
    context.round leftNegative (left - right) exponent

/-- The rounded sum of two finite decimals, the first of which has the greater
exponent. -/
def addOrdered (context : Context) (upperNegative : Bool) (upper : Nat) (upperExponent : Int)
    (lowerNegative : Bool) (lower : Nat) (lowerExponent : Int) : Except Signal Decimal :=
  let (term, exponent) := context.standIn upper upperExponent lower lowerExponent
  context.addAligned upperNegative (spread upper (upperExponent - exponent).toNat)
    lowerNegative term exponent

/-- The rounded sum. -/
def add (context : Context) (left right : Decimal) : Except Signal Decimal :=
  match left, right with
  | .finite leftNegative leftCoefficient leftExponent,
    .finite rightNegative rightCoefficient rightExponent =>
      if leftExponent = rightExponent then
        context.addAligned leftNegative leftCoefficient rightNegative rightCoefficient leftExponent
      else if rightExponent < leftExponent then
        context.addOrdered leftNegative leftCoefficient leftExponent
          rightNegative rightCoefficient rightExponent
      else
        context.addOrdered rightNegative rightCoefficient rightExponent
          leftNegative leftCoefficient leftExponent
  | left, right =>
      match context.passNaN? left right with
      | some result => result
      | none =>
          match left, right with
          | .infinite leftNegative, .infinite rightNegative =>
              if leftNegative = rightNegative then .ok left else .error .invalidOperation
          | .infinite _, _ => .ok left
          | _, _ => .ok right

/-- The rounded difference. -/
def sub (context : Context) (left right : Decimal) : Except Signal Decimal :=
  if right.isNaN then context.add left right else context.add left right.negate

/-! ## Multiplication and division -/

/-- The rounded product. -/
def mul (context : Context) (left right : Decimal) : Except Signal Decimal :=
  match left, right with
  | .finite leftNegative leftCoefficient leftExponent,
    .finite rightNegative rightCoefficient rightExponent =>
      context.round (leftNegative != rightNegative) (leftCoefficient * rightCoefficient)
        (leftExponent + rightExponent)
  | left, right =>
      match context.passNaN? left right with
      | some result => result
      | none =>
          match left, right with
          | .infinite leftNegative, .infinite rightNegative =>
              .ok (.infinite (leftNegative != rightNegative))
          | .infinite leftNegative, .finite rightNegative coefficient _ =>
              if coefficient = 0 then .error .invalidOperation
              else .ok (.infinite (leftNegative != rightNegative))
          | .finite leftNegative coefficient _, .infinite rightNegative =>
              if coefficient = 0 then .error .invalidOperation
              else .ok (.infinite (leftNegative != rightNegative))
          | _, _ => .error .invalidOperation

/-- The rounded quotient of two nonzero coefficients.  The quotient is taken
to one digit more than the precision.  A remainder is marked in the last digit
where that digit could be taken for a tie or an exact result; an exact
quotient gives up trailing zeros until it has the exponent
`leftExponent - rightExponent`. -/
def divFinite (context : Context) (negative : Bool) (left : Nat) (leftExponent : Int)
    (right : Nat) (rightExponent : Int) : Except Signal Decimal :=
  let ideal := leftExponent - rightExponent
  let shift : Int := (digitCount right : Int) - digitCount left + context.precision + 1
  let dividend := left * Nat.pow 10 shift.toNat
  let divisor := right * Nat.pow 10 (-shift).toNat
  let quotient := dividend / divisor
  if dividend % divisor = 0 then
    let (stripped, dropped) := stripZeros quotient shift.toNat
    context.round negative stripped (ideal - shift + dropped)
  else if quotient % 5 = 0 then
    context.round negative (quotient + 1) (ideal - shift)
  else
    context.round negative quotient (ideal - shift)

/-- The rounded quotient. -/
def div (context : Context) (left right : Decimal) : Except Signal Decimal :=
  match left, right with
  | .finite leftNegative leftCoefficient leftExponent,
    .finite rightNegative rightCoefficient rightExponent =>
      if rightCoefficient = 0 then
        .error (if leftCoefficient = 0 then .divisionUndefined else .divisionByZero)
      else if leftCoefficient = 0 then
        context.round (leftNegative != rightNegative) 0 (leftExponent - rightExponent)
      else
        context.divFinite (leftNegative != rightNegative) leftCoefficient leftExponent
          rightCoefficient rightExponent
  | left, right =>
      match context.passNaN? left right with
      | some result => result
      | none =>
          match left, right with
          | .infinite leftNegative, .finite rightNegative _ _ =>
              .ok (.infinite (leftNegative != rightNegative))
          | .finite leftNegative _ _, .infinite rightNegative =>
              .ok (.finite (leftNegative != rightNegative) 0 context.tiny)
          | _, _ => .error .invalidOperation

/-! ## Powers of ten and magnitudes -/

/-- Ten to a whole power.  A power whose numeral has more digits than the
precision keeps `precision` digits; nonnegative powers are otherwise written
out with exponent zero. -/
def tenTo (context : Context) (power : Int) : Except Signal Decimal :=
  if maxExponent < power then
    .error .overflow
  else if power < 0 then
    context.round false 1 power
  else if power < context.precision then
    context.round false (Nat.pow 10 power.toNat) 0
  else
    context.round false (Nat.pow 10 (context.precision - 1)) (power - context.precision + 1)

/-- The rounded magnitude of a decimal. -/
def abs (context : Context) (value : Decimal) : Except Signal Decimal :=
  match value with
  | .finite _ coefficient exponent => context.round false coefficient exponent
  | .infinite _ => .ok (.infinite false)
  | .nan _ true _ => .error .invalidOperation
  | .nan negative false payload =>
      .ok (.nan negative false (payload % Nat.pow 10 context.precision))

end Context

end DepositYield.Decimal
