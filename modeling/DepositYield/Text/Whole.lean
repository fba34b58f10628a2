import DepositYield.Text.Blank
import DepositYield.Text.Digit
import DepositYield.Text.Quoted

/-!
# Whole numbers in text

A whole number may stand between white space, may have a sign, may be written with
the digits of any script, and may have single underscores between its digits.  In
a base other than ten the digits go on with the letters of ASCII, and the mark of
the base may stand before them.

Decimal numerals are read and written up to a number of digits only.  The texts of
the project show whole numbers of any length; whether a text can be written is asked
once, where it is complete.
-/

namespace DepositYield.Text

/-- Why a text denotes no whole number. -/
inductive WholeError where
  /-- The text does not have the form of a numeral. -/
  | malformed (base : Nat) (text : String)
  /-- There are too many digits. -/
  | tooLong (digits : Nat)
  deriving DecidableEq, Repr

namespace WholeError

/-- The digits of a decimal numeral, at most. -/
def maxDigits : Nat := 4300

/-- The characters of a malformed text that a message shows, at most. -/
def shownCharacters : Nat := 200

/-- What is said about a text that denotes no whole number. -/
def message : WholeError → String
  | .malformed base text =>
      "invalid literal for int() with base " ++ toString base ++ ": " ++
        String.ofList ((quoted text).toList.take shownCharacters)
  | .tooLong digits =>
      "Exceeds the limit (" ++ toString maxDigits ++
        " digits) for integer string conversion: value has " ++ toString digits ++
        " digits; use sys.set_int_max_str_digits() to increase the limit"

end WholeError

/-- Whether a whole number can be written: it has no more digits than can be read. -/
def isWritable (value : Int) : Bool :=
  value.natAbs < Nat.pow 10 WholeError.maxDigits

/-- Why a text cannot be written. -/
inductive Unwritable where
  /-- One of its whole numbers has too many digits. -/
  | tooLong
  deriving DecidableEq, Repr

/-- What is said about a text that cannot be written. -/
def Unwritable.message : Unwritable → String
  | .tooLong =>
      "Exceeds the limit (" ++ toString WholeError.maxDigits ++
        " digits) for integer string conversion; use sys.set_int_max_str_digits() to increase the limit"

/-- A value that shows whole numbers, unless one of them cannot be written. -/
def written {Value : Type} (wholes : List Int) (value : Value) : Except Unwritable Value :=
  if wholes.all isWritable then .ok value else .error .tooLong

/-! ## Digits of a base -/

/-- The value of a digit: a decimal digit of any script or a letter of ASCII. -/
def digitOrLetter? (character : Char) : Option Nat :=
  if 'a' ≤ character ∧ character ≤ 'z' then some (character.toNat - 87)
  else if 'A' ≤ character ∧ character ≤ 'Z' then some (character.toNat - 55)
  else digit? character

/-- The value of a digit below a base. -/
def baseDigit? (base : Nat) (character : Char) : Option Nat :=
  (digitOrLetter? character).filter (· < base)

/-- The digit values of a run of digits in which single underscores may stand
between digits.  There is at least one digit. -/
def groupedDigits? (base : Nat) : List Char → Option (List Nat)
  | [] => none
  | [last] => (baseDigit? base last).map fun value => [value]
  | first :: '_' :: rest => do
      let value ← baseDigit? base first
      return value :: (← groupedDigits? base rest)
  | first :: rest => do
      let value ← baseDigit? base first
      return value :: (← groupedDigits? base rest)

/-- The letters by which a base may be marked after a zero. -/
def baseLetters : Nat → List Char
  | 2 => ['b', 'B']
  | 8 => ['o', 'O']
  | 16 => ['x', 'X']
  | _ => []

/-- Drop the mark of a base and one underscore after it. -/
def dropBaseMark (base : Nat) (characters : List Char) : List Char :=
  match characters with
  | '0' :: letter :: rest =>
      if (baseLetters base).contains letter then
        match rest with
        | '_' :: digits => digits
        | digits => digits
      else
        characters
  | _ => characters

/-! ## Numerals -/

/-- Whether a numeral of a base has too many digits. -/
def exceedsDigits (base digits : Nat) : Bool :=
  base = 10 && WholeError.maxDigits < digits

/-- The whole number that a text denotes in a base. -/
def wholeNumberIn (base : Nat) (text : String) : Except WholeError Int :=
  let (negative, body) := splitSign (text.toList.dropWhile isWhiteSpace)
  let body := dropBaseMark base body
  let isDigit (character : Char) : Bool :=
    character = '_' || (baseDigit? base character).isSome
  match groupedDigits? base (body.takeWhile isDigit) with
  | none => .error (.malformed base text)
  | some digits =>
      if exceedsDigits base digits.length then
        .error (.tooLong digits.length)
      else if (body.dropWhile isDigit).all isWhiteSpace then
        let magnitude := digits.foldl (fun value digit => base * value + digit) 0
        .ok (if negative then -(magnitude : Int) else magnitude)
      else
        .error (.malformed base text)

/-- The whole number that a text denotes. -/
def wholeNumber (text : String) : Except WholeError Int :=
  wholeNumberIn 10 text

end DepositYield.Text
