import DepositYield.Decimal.Basic

/-!
# Comparing decimals

Decimals are compared by value, exactly and under no precision.  Asking which
of two numbers is greater stops the calculation when either is a NaN; asking
whether they are equal stops it for signaling NaNs only.
-/

namespace DepositYield.Decimal

/-- Compare two magnitudes.  The positions of the leading digits decide first,
so that coefficients are only aligned when both have their leading digit at one
position. -/
def compareMagnitude (left : Nat) (leftExponent : Int) (right : Nat) (rightExponent : Int) :
    Ordering :=
  if left = 0 then
    if right = 0 then .eq else .lt
  else if right = 0 then
    .gt
  else
    let leftAdjusted := leftExponent + digitCount left
    let rightAdjusted := rightExponent + digitCount right
    if leftAdjusted < rightAdjusted then
      .lt
    else if rightAdjusted < leftAdjusted then
      .gt
    else
      compare (left * Nat.pow 10 (leftExponent - rightExponent).toNat)
        (right * Nat.pow 10 (rightExponent - leftExponent).toNat)

/-- Compare two decimals by value; `none` when one of them is a NaN. -/
def compare? : Decimal → Decimal → Option Ordering
  | .nan _ _ _, _ => none
  | _, .nan _ _ _ => none
  | .infinite leftNegative, .infinite rightNegative =>
      some (compare rightNegative leftNegative)
  | .infinite negative, .finite _ _ _ => some (if negative then .lt else .gt)
  | .finite _ _ _, .infinite negative => some (if negative then .gt else .lt)
  | .finite leftNegative left leftExponent, .finite rightNegative right rightExponent =>
      if left = 0 ∧ right = 0 then
        some .eq
      else if leftNegative = rightNegative then
        let order := compareMagnitude left leftExponent right rightExponent
        some (if leftNegative then order.swap else order)
      else
        some (if left = 0 then (if rightNegative then .gt else .lt)
          else if leftNegative then .lt else .gt)

/-- Whether the first decimal is less than the second. -/
def lt? (left right : Decimal) : Except Signal Bool :=
  match compare? left right with
  | some order => .ok order.isLT
  | none => .error .invalidOperation

/-- Whether the first decimal is at most the second. -/
def le? (left right : Decimal) : Except Signal Bool :=
  match compare? left right with
  | some order => .ok order.isLE
  | none => .error .invalidOperation

/-- Whether a decimal has the value zero.  A quiet NaN has not; a signaling one
stops the calculation. -/
def isZero? : Decimal → Except Signal Bool
  | .finite _ coefficient _ => .ok (decide (coefficient = 0))
  | .infinite _ => .ok false
  | .nan _ signaling _ => if signaling then .error .invalidOperation else .ok false

/-- The lesser of two decimals, the first when they are equal. -/
def min? (left right : Decimal) : Except Signal Decimal := do
  return if ← lt? right left then right else left

end DepositYield.Decimal
