import DepositYield.Decimal.Text
import DepositYield.Rounding

/-!
# Binary floating point of 64 bits

Documents may hold numbers in binary floating point.  This file supplies the
format exactly: a finite number is `mantissa * 2 ^ exponent` with a mantissa
below `2 ^ 53`, decimals are read to the nearest such number, and a number is
written with the fewest digits that read back to it.

No operation of the hardware is used.
-/

namespace DepositYield

/-- A number of the format.  The mantissa of a finite number is below `2 ^ 53`;
it is at least `2 ^ 52` unless the exponent is the least one. -/
inductive Binary64 where
  | finite (negative : Bool) (mantissa : Nat) (exponent : Int)
  | infinite (negative : Bool)
  | nan
  deriving DecidableEq, Repr, Inhabited

namespace Binary64

/-- The exponent of the subnormal numbers. -/
def minExponent : Int := -1074

/-- The exponent of the largest finite numbers. -/
def maxExponent : Int := 971

/-! ## Reading -/

/-- The power of two that is at most `numerator / denominator`, by its
exponent. -/
def binaryExponent (numerator denominator : Nat) : Int :=
  let estimate : Int := (numerator.log2 : Int) - denominator.log2
  if numerator * Nat.pow 2 (-estimate).toNat < denominator * Nat.pow 2 estimate.toNat then
    estimate - 1
  else
    estimate

/-- The number nearest to a quotient of whole numbers; a tie goes to the even
mantissa. -/
def ofRatio (negative : Bool) (numerator denominator : Nat) : Binary64 :=
  if numerator = 0 then
    .finite negative 0 minExponent
  else
    let exponent := max (binaryExponent numerator denominator - 52) minExponent
    let mantissa := nearestQuotient (numerator * Nat.pow 2 (-exponent).toNat)
      (denominator * Nat.pow 2 exponent.toNat)
    let (mantissa, exponent) :=
      if mantissa = Nat.pow 2 53 then (Nat.pow 2 52, exponent + 1) else (mantissa, exponent)
    if maxExponent < exponent then .infinite negative else .finite negative mantissa exponent

/-- The number nearest to a decimal.  Decimals whose leading digit stands far
outside the range of the format go to infinity or to zero at once. -/
def ofDecimal : Decimal → Binary64
  | .finite negative coefficient exponent =>
      let adjusted := exponent + Decimal.digitCount coefficient
      if coefficient = 0 then
        .finite negative 0 minExponent
      else if 400 < adjusted then
        .infinite negative
      else if adjusted < -400 then
        .finite negative 0 minExponent
      else
        ofRatio negative (coefficient * Nat.pow 10 exponent.toNat)
          (Nat.pow 10 (-exponent).toNat)
  | .infinite negative => .infinite negative
  | .nan _ _ _ => .nan

/-- The number nearest to a whole number. -/
def ofInt (value : Int) : Binary64 :=
  ofDecimal (.ofInt value)

/-- The number that a text denotes: digits with a point and an exponent, or the name
of a special value, between white space. -/
def ofText? (text : String) : Option Binary64 := do
  let trimmed := Text.trimWhere Text.isWhiteSpace text.toList
  let characters ← trimmed.mapM Decimal.plainCharacter?
  let (negative, body) := Text.splitSign characters
  let word := String.ofList body
  if word = "inf" ∨ word = "infinity" then
    return .infinite negative
  else if word = "nan" then
    return .nan
  else
    let (coefficient, exponent) ← Decimal.magnitude? body
    return ofDecimal (.finite negative coefficient exponent)

/-! ## Exact values -/

/-- Drop factors of two of a mantissa, at most `limit` of them.  The second
component is what is left of the limit. -/
def stripTwos (mantissa : Nat) : Nat → Nat × Nat
  | 0 => (mantissa, 0)
  | limit + 1 =>
      if mantissa % 2 = 0 then stripTwos (mantissa / 2) limit else (mantissa, limit + 1)

/-- The exact value as a coefficient and an exponent of ten. -/
def exactMagnitude (mantissa : Nat) (exponent : Int) : Nat × Int :=
  if mantissa = 0 then
    (0, 0)
  else if 0 ≤ exponent then
    (mantissa * Nat.pow 2 exponent.toNat, 0)
  else
    let (odd, halvings) := stripTwos mantissa (-exponent).toNat
    (odd * Nat.pow 5 halvings, -halvings)

/-- The decimal of exactly the same value. -/
def toDecimal : Binary64 → Decimal
  | .finite negative mantissa exponent =>
      let (coefficient, power) := exactMagnitude mantissa exponent
      .finite negative coefficient power
  | .infinite negative => .infinite negative
  | .nan => .nan false false 0

/-- The whole part, `none` for the special values. -/
def truncate? : Binary64 → Option Int
  | .finite negative mantissa exponent =>
      let magnitude := mantissa * Nat.pow 2 exponent.toNat / Nat.pow 2 (-exponent).toNat
      some (if negative then -(magnitude : Int) else magnitude)
  | _ => none

/-- Whether a number is finite and has no fraction. -/
def isWhole : Binary64 → Bool
  | .finite _ mantissa exponent => mantissa % Nat.pow 2 (-exponent).toNat = 0
  | _ => false

/-! ## The fewest digits that read back -/

/-- The better of the two decimals with `digits` digits next to
`coefficient * 10 ^ exponent`, provided that it reads back to the given
number: the nearer one, and of two equally near ones the even one. -/
def neighbour? (number : Binary64) (coefficient : Nat) (exponent : Int) (digits : Nat) :
    Option (Nat × Int) :=
  let places := Decimal.digitCount coefficient - digits
  let unit := Nat.pow 10 places
  let power := exponent + places
  let lower := coefficient / unit
  let remainder := coefficient % unit
  let readsBack (candidate : Nat) : Bool := ofDecimal (.finite false candidate power) == number
  let preferLower : Bool :=
    2 * remainder < unit || (2 * remainder == unit && lower % 2 == 0)
  let (first, second) := if preferLower then (lower, lower + 1) else (lower + 1, lower)
  if readsBack first then some (first, power)
  else if readsBack second then some (second, power)
  else none

/-- The decimal with the fewest digits that reads back to a positive finite
number: a coefficient without trailing zeros and an exponent.  Seventeen digits
are always enough. -/
def shortest (mantissa : Nat) (exponent : Int) : Nat × Int :=
  let number := Binary64.finite false mantissa exponent
  let (coefficient, power) := exactMagnitude mantissa exponent
  let candidate := (List.range 17).findSome? fun digits =>
    neighbour? number coefficient power (digits + 1)
  let (found, foundPower) := candidate.getD (coefficient, power)
  let (stripped, dropped) := Decimal.stripZeros found (Decimal.digitCount found)
  (stripped, foundPower + dropped)

/-- The exponent of ten in scientific notation: a sign and at least two
digits. -/
def exponentText (exponent : Int) : String :=
  let digits := toString exponent.natAbs
  "e" ++ (if exponent < 0 then "-" else "+") ++ (if digits.length < 2 then "0" else "") ++ digits

/-- The numeral of a positive finite number.  Numbers from `0.0001` up to below
`10 ^ 16` are written out and always have a fraction; the others are in
scientific notation. -/
def magnitudeText (mantissa : Nat) (exponent : Int) : String :=
  let (coefficient, power) := shortest mantissa exponent
  let digits := (toString coefficient).toList
  let adjusted := power + digits.length - 1
  if -4 ≤ adjusted ∧ adjusted < 16 then
    if 0 ≤ power then
      String.ofList (digits ++ List.replicate power.toNat '0') ++ ".0"
    else
      Decimal.pointed digits (-power).toNat
  else
    Decimal.pointed digits (digits.length - 1) ++ exponentText adjusted

/-- The numeral with the fewest digits that reads back. -/
def toText : Binary64 → String
  | .finite negative mantissa exponent =>
      Decimal.signText negative ++
        (if mantissa = 0 then "0.0" else magnitudeText mantissa exponent)
  | .infinite negative => Decimal.signText negative ++ "inf"
  | .nan => "nan"

end Binary64

end DepositYield
