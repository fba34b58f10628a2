import DepositYield.Decimal.Context
import DepositYield.Text.Blank
import DepositYield.Text.Digit

/-!
# Numerals of decimals

A decimal is written in scientific notation unless its exponent is at most zero
and its leading digit stands no lower than the sixth place after the point.
Every digit of the coefficient is written, so the numeral determines the
decimal.

Reading accepts blanks at both ends, underscores anywhere, digits of any
script, and letters of either case.  Reading never rounds; numbers whose
exponent leaves the range of all decimals are refused.
-/

namespace DepositYield.Decimal

open DepositYield.Text

/-! ## Writing -/

/-- The sign of a numeral; nothing is written for a positive number. -/
def signText (negative : Bool) : String :=
  if negative then "-" else ""

/-- The payload of a NaN; nothing is written for the payload zero. -/
def payloadText (payload : Nat) : String :=
  if payload = 0 then "" else toString payload

/-- The exponent of scientific notation, with its sign. -/
def exponentText (exponent : Int) : String :=
  "E" ++ (if exponent < 0 then "-" else "+") ++ toString exponent.natAbs

/-- The digits with a decimal point before the last `places` of them. -/
def pointed (digits : List Char) (places : Nat) : String :=
  if places = 0 then
    String.ofList digits
  else if places < digits.length then
    let whole := digits.length - places
    String.ofList (digits.take whole ++ '.' :: digits.drop whole)
  else
    String.ofList ('0' :: '.' :: (List.replicate (places - digits.length) '0' ++ digits))

/-- The unsigned numeral of a coefficient and an exponent. -/
def magnitudeText (coefficient : Nat) (exponent : Int) : String :=
  let digits := (toString coefficient).toList
  let adjusted := exponent + digits.length - 1
  if exponent ≤ 0 ∧ -6 ≤ adjusted then
    pointed digits (-exponent).toNat
  else
    pointed digits (digits.length - 1) ++ exponentText adjusted

/-- The numeral of a decimal. -/
def toText : Decimal → String
  | .finite negative coefficient exponent => signText negative ++ magnitudeText coefficient exponent
  | .infinite negative => signText negative ++ "Infinity"
  | .nan negative signaling payload =>
      signText negative ++ (if signaling then "sNaN" else "NaN") ++ payloadText payload

/-! ## Reading -/

/-- The greatest adjusted exponent that a numeral may have. -/
def maxNumeralExponent : Int := 999999999999999999

/-- The least exponent that a numeral may have. -/
def minNumeralExponent : Int := -1999999999999999997

/-- A character of a numeral in its plain form: a lower-case letter of ASCII
for a letter, a digit of ASCII for a digit of any script. -/
def plainCharacter? (character : Char) : Option Char :=
  if character.toNat < 128 then
    some character.toLower
  else
    (digit? character).map fun value => Char.ofNat (48 + value)

/-- The plain characters of a numeral, without blanks at its ends and without
underscores. -/
def plainCharacters? (text : String) : Option (List Char) :=
  ((trimBlanks text.toList).filter (· != '_')).mapM plainCharacter?

/-- The whole number denoted by a text that consists of digits of ASCII only. -/
def wholeNumber? (characters : List Char) : Option Nat :=
  (characters.mapM asciiDigit?).map positional

/-- The exponent part of a numeral, zero when it is missing. -/
def exponentPart? : List Char → Option Int
  | [] => some 0
  | 'e' :: rest =>
      let (negative, digits) := splitSign rest
      if digits.isEmpty then
        none
      else
        (wholeNumber? digits).map fun value => if negative then -(value : Int) else value
  | _ => none

/-- The coefficient and the exponent of an unsigned numeral. -/
def magnitude? (characters : List Char) : Option (Nat × Int) :=
  let whole := characters.takeWhile Char.isDigit
  let afterWhole := characters.dropWhile Char.isDigit
  let (fraction, rest) :=
    match afterWhole with
    | '.' :: tail => (tail.takeWhile Char.isDigit, tail.dropWhile Char.isDigit)
    | _ => ([], afterWhole)
  if whole.isEmpty && fraction.isEmpty then
    none
  else do
    let coefficient ← wholeNumber? (whole ++ fraction)
    let exponent ← exponentPart? rest
    return (coefficient, exponent - fraction.length)

/-- A finite decimal, provided that its exponent is in the range of all
decimals. -/
def inRange? (negative : Bool) (coefficient : Nat) (exponent : Int) : Except Signal Decimal :=
  if exponent + digitCount coefficient - 1 ≤ maxNumeralExponent ∧ minNumeralExponent ≤ exponent then
    .ok (.finite negative coefficient exponent)
  else
    .error .invalidOperation

/-- Read a numeral. -/
def ofText (text : String) : Except Signal Decimal :=
  match plainCharacters? text with
  | none => .error .conversionSyntax
  | some characters =>
      let (negative, body) := splitSign characters
      match body with
      | ['i', 'n', 'f'] => .ok (.infinite negative)
      | ['i', 'n', 'f', 'i', 'n', 'i', 't', 'y'] => .ok (.infinite negative)
      | 'n' :: 'a' :: 'n' :: payload =>
          match wholeNumber? payload with
          | some value => .ok (.nan negative false value)
          | none => .error .conversionSyntax
      | 's' :: 'n' :: 'a' :: 'n' :: payload =>
          match wholeNumber? payload with
          | some value => .ok (.nan negative true value)
          | none => .error .conversionSyntax
      | body =>
          match magnitude? body with
          | some (coefficient, exponent) => inRange? negative coefficient exponent
          | none => .error .conversionSyntax

end DepositYield.Decimal
