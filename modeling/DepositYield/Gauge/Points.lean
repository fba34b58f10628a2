import DepositYield.Decimal.Order
import DepositYield.Decimal.Context

/-!
# Gauge points and the seed ratio

Liquidity tokens carry gauge points, which decide how new stalk is shared out.
A point rule moves the points of a token once per season, depending on the
share of deposited value that the token has and the share it should have.

The seed ratio `r` lies between zero and one.  It drifts from season to season
and is scaled to lie between one half and one.
-/

namespace DepositYield

open Decimal

/-- How the gauge points of a token move from season to season. -/
inductive PointRule where
  /-- Points never move. -/
  | identity
  /-- Points move by one towards the optimal share. -/
  | default
  /-- Points move by any other function, which calculates under the precision of
  the simulation from the points, the share of the token and its optimal share. -/
  | custom (move : Context → Decimal → Decimal → Decimal → Except Signal Decimal)

namespace PointRule

/-- The rule of a stored selector; unknown and missing selectors leave points
as they are. -/
def ofSelector : Option String → PointRule
  | some "default" => .default
  | _ => .identity

/-- The share above which a token holds more than its optimal share, relative
to it. -/
def upperThreshold : Decimal := .finite false 10001 (-4)

/-- The share below which a token holds less than its optimal share, relative
to it. -/
def lowerThreshold : Decimal := .finite false 9999 (-4)

/-- The most gauge points that the default rule leads to. -/
def maxPoints : Decimal := .finite false 1000 0

/-- The default rule: one point less, but not below zero, while the token holds
more than its optimal share, and one point more, up to `maxPoints`, while it
holds less. -/
def applyDefault (context : Context) (points current optimal : Decimal) :
    Except Signal Decimal := do
  if ← lt? (← context.mul optimal upperThreshold) current then
    if ← le? points one then
      return zero
    else
      context.sub points one
  else if ← lt? current (← context.mul optimal lowerThreshold) then
    min? (← context.add points one) maxPoints
  else
    return points

/-- The points of a token after one season. -/
def apply (context : Context) (rule : PointRule) (points current optimal : Decimal) :
    Except Signal Decimal :=
  match rule with
  | .identity => .ok points
  | .default => applyDefault context points current optimal
  | .custom move => move context points current optimal

end PointRule

/-- How the seed ratio drifts: the change in a season, given the ratio and the
number of the season. -/
abbrev RatioDrift := Decimal → Nat → Decimal

namespace RatioDrift

/-- The change of drifts that are given none. -/
def defaultChange : Decimal := .finite true 1 (-2)

/-- The drift with the same change in every season. -/
def constant (change : Decimal) : RatioDrift :=
  fun _ _ => change

/-- The drift that goes through the given changes again and again. -/
def cycle (changes : List Decimal) : RatioDrift :=
  fun _ season => (changes[season % changes.length]?).getD zero

end RatioDrift

/-- The seed ratio after a change; it stays between zero and one. -/
def moveRatio (context : Context) (ratio change : Decimal) : Except Signal Decimal := do
  let moved ← context.add ratio change
  if ← lt? one moved then
    return one
  else if ← lt? moved zero then
    return zero
  else
    return moved

/-- The seed ratio scaled from `0 … 1` to `1/2 … 1`. -/
def scaleRatio (context : Context) (ratio : Decimal) : Except Signal Decimal := do
  let half := Decimal.finite false 5 (-1)
  context.add half (← context.mul half ratio)

end DepositYield
