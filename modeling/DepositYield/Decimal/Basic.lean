import DepositYield.Rounding

/-!
# Decimal numbers

A finite decimal is a sign, a whole coefficient and a power of ten.  The
exponent is part of the number: `1.0` and `1.00` are equal in value but are
different decimals, and arithmetic keeps them apart.  The special values are
the two infinities and the NaNs, which carry a sign and a payload.

This file supplies the type, digit counting and rounding to a whole number of
digits.  Operations under a precision are in `DepositYield.Decimal.Context`.
-/

namespace DepositYield

/-- A decimal number with its exponent, or a special value. -/
inductive Decimal where
  | finite (negative : Bool) (coefficient : Nat) (exponent : Int)
  | infinite (negative : Bool)
  | nan (negative : Bool) (signaling : Bool) (payload : Nat)
  deriving DecidableEq, Repr, Inhabited

namespace Decimal

/-- The conditions that stop a calculation. -/
inductive Signal where
  /-- A text is not the numeral of a decimal. -/
  | conversionSyntax
  /-- Zero was divided by zero. -/
  | divisionUndefined
  /-- An operation has no result, or an operand is a signaling NaN. -/
  | invalidOperation
  /-- A nonzero number was divided by zero. -/
  | divisionByZero
  /-- A result is too large for the exponent range. -/
  | overflow
  deriving DecidableEq, Repr, Inhabited

/-- The decimal of a whole number, with exponent zero. -/
def ofInt (value : Int) : Decimal :=
  .finite (decide (value < 0)) value.natAbs 0

/-- The decimal zero, with exponent zero. -/
def zero : Decimal :=
  .finite false 0 0

/-- The decimal one, with exponent zero. -/
def one : Decimal :=
  .finite false 1 0

/-- The decimal hundred, with exponent zero. -/
def hundred : Decimal :=
  .finite false 100 0

/-- The same number with the other sign; nothing is rounded. -/
def negate : Decimal → Decimal
  | .finite negative coefficient exponent => .finite (!negative) coefficient exponent
  | .infinite negative => .infinite (!negative)
  | .nan negative signaling payload => .nan (!negative) signaling payload

/-- Neither an infinity nor a NaN. -/
def isFinite : Decimal → Bool
  | .finite _ _ _ => true
  | _ => false

/-- A NaN of either kind. -/
def isNaN : Decimal → Bool
  | .nan _ _ _ => true
  | _ => false

/-! ## Counting digits -/

/-- The number of decimal digits of a whole number, dropping one digit at a
time.  Zero has one digit. -/
def countDigits (value : Nat) : Nat :=
  if value < 10 then 1 else countDigits (value / 10) + 1
  termination_by value
  decreasing_by omega

/-- The number of decimal digits of a whole number.  The size in bits gives a
number of digits that is surely present, as `2 ^ 4096` exceeds `10 ^ 1233`;
the few digits above them are counted one by one. -/
def digitCount (value : Nat) : Nat :=
  let sure := value.log2 * 1233 / 4096
  sure + countDigits (value / Nat.pow 10 sure)

/-! ## Rounding to whole numbers -/

/-- `value / 10 ^ places` to the nearest whole number; a tie goes to the even
neighbour. -/
def roundHalfEven (value places : Nat) : Nat :=
  nearestQuotient value (Nat.pow 10 places)

/-- Drop trailing zeros of a coefficient, at most `limit` of them.  The second
component counts the zeros dropped. -/
def stripZeros (coefficient : Nat) : Nat → Nat × Nat
  | 0 => (coefficient, 0)
  | limit + 1 =>
      if coefficient % 10 = 0 then
        let (stripped, dropped) := stripZeros (coefficient / 10) limit
        (stripped, dropped + 1)
      else
        (coefficient, 0)

end Decimal

end DepositYield
