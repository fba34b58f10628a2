import DepositYield.Binary64

/-!
# Sums and products in binary floating point

Every operation takes the number of the format that is nearest to the exact result.
-/

namespace DepositYield.Binary64

/-- The number with the other sign. -/
def neg : Binary64 → Binary64
  | .finite negative mantissa exponent => .finite (!negative) mantissa exponent
  | .infinite negative => .infinite (!negative)
  | .nan => .nan

/-- The signed mantissa of a finite number at an exponent that is no greater than its
own. -/
def alignedMantissa (negative : Bool) (mantissa : Nat) (exponent least : Int) : Int :=
  let magnitude : Int := mantissa * Nat.pow 2 (exponent - least).toNat
  if negative then -magnitude else magnitude

/-- The sum of two numbers.  A sum that is zero is negative only if both numbers
are. -/
def add (left right : Binary64) : Binary64 :=
  match left, right with
  | .nan, _ => .nan
  | _, .nan => .nan
  | .infinite leftNegative, .infinite rightNegative =>
      if leftNegative = rightNegative then .infinite leftNegative else .nan
  | .infinite negative, _ => .infinite negative
  | _, .infinite negative => .infinite negative
  | .finite leftNegative leftMantissa leftExponent,
    .finite rightNegative rightMantissa rightExponent =>
      let least := min leftExponent rightExponent
      let sum := alignedMantissa leftNegative leftMantissa leftExponent least +
        alignedMantissa rightNegative rightMantissa rightExponent least
      let negative := if sum = 0 then leftNegative && rightNegative else sum < 0
      ofRatio negative (sum.natAbs * Nat.pow 2 least.toNat) (Nat.pow 2 (-least).toNat)

/-- Whether a number is zero. -/
def isZero : Binary64 → Bool
  | .finite _ mantissa _ => mantissa = 0
  | _ => false

/-- Whether a number has a minus in front. -/
def isNegative : Binary64 → Bool
  | .finite negative _ _ => negative
  | .infinite negative => negative
  | .nan => false

/-- The product of two numbers. -/
def mul (left right : Binary64) : Binary64 :=
  let negative := left.isNegative != right.isNegative
  match left, right with
  | .nan, _ => .nan
  | _, .nan => .nan
  | .finite _ leftMantissa leftExponent, .finite _ rightMantissa rightExponent =>
      let exponent := leftExponent + rightExponent
      ofRatio negative (leftMantissa * rightMantissa * Nat.pow 2 exponent.toNat)
        (Nat.pow 2 (-exponent).toNat)
  | _, _ => if left.isZero || right.isZero then .nan else .infinite negative

end DepositYield.Binary64
