import DepositYield.Document.Calendar
import DepositYield.Text.Digit

/-!
# Points in time in YAML

A day is written as year, month and day, and may be followed by a time of day, a
fraction of a second and a distance from universal time.
-/

namespace DepositYield.Yaml

open Text

/-- A time of day as it is written. -/
structure WrittenTime where
  hour : Nat
  minute : Nat
  second : Nat
  /-- The digits after the point. -/
  fraction : List Char
  /-- Seconds ahead of universal time. -/
  offset : Option Int
  deriving DecidableEq, Repr

/-- A point in time as it is written. -/
structure Timestamp where
  year : Nat
  month : Nat
  day : Nat
  time : Option WrittenTime
  deriving DecidableEq, Repr

namespace Timestamp

/-- The number of digits. -/
def numberOf (digits : List Char) : Nat :=
  positional (digits.filterMap asciiDigit?)

/-- A number of `least` up to `most` digits, and what follows. -/
def number? (least most : Nat) (characters : List Char) : Option (Nat × List Char) :=
  let digits := (characters.take most).takeWhile Char.isDigit
  if digits.length < least then none else some (numberOf digits, characters.drop digits.length)

/-- What follows a mark. -/
def after? (mark : Char) : List Char → Option (List Char)
  | first :: rest => if first = mark then some rest else none
  | [] => none

/-- Whether a character separates the words of a line. -/
def isSpace (character : Char) : Bool :=
  character = ' ' || character = '\t'

/-- What follows a letter `T` or some white space. -/
def afterDate? : List Char → Option (List Char)
  | first :: rest =>
      if first = 'T' ∨ first = 't' then some rest
      else if isSpace first then some (rest.dropWhile isSpace)
      else none
  | [] => none

/-- The digits after a point, if there is one, and what follows. -/
def fraction : List Char → List Char × List Char
  | '.' :: rest => (rest.takeWhile Char.isDigit, rest.dropWhile Char.isDigit)
  | rest => ([], rest)

/-- The minutes of a distance from universal time, zero when they are missing. -/
def offsetMinutes? : List Char → Option Nat
  | [] => some 0
  | characters => do
      let (minutes, rest) ← number? 2 2 (← after? ':' characters)
      guard rest.isEmpty
      return minutes

/-- The distance from universal time at the end of a point in time. -/
def offset? (characters : List Char) : Option (Option Int) :=
  match characters.dropWhile isSpace with
  | [] => if characters.isEmpty then some none else none
  | ['Z'] => some (some 0)
  | sign :: rest =>
      if sign = '+' ∨ sign = '-' then do
        let (hours, rest) ← number? 1 2 rest
        let minutes ← offsetMinutes? rest
        let seconds : Int := (60 * hours + minutes) * 60
        return some (if sign = '-' then -seconds else seconds)
      else
        none

/-- The time of day that characters denote. -/
def time? (characters : List Char) : Option WrittenTime := do
  let (hour, rest) ← number? 1 2 characters
  let (minute, rest) ← number? 2 2 (← after? ':' rest)
  let (second, rest) ← number? 2 2 (← after? ':' rest)
  let (fraction, rest) := fraction rest
  return { hour, minute, second, fraction, offset := ← offset? rest }

/-- The point in time that characters denote. -/
def ofCharacters? (characters : List Char) : Option Timestamp := do
  let (year, rest) ← number? 4 4 characters
  let (month, rest) ← number? 1 2 (← after? '-' rest)
  let (day, rest) ← number? 1 2 (← after? '-' rest)
  if rest.isEmpty then
    return { year, month, day, time := none }
  else
    return { year, month, day, time := ← time? (← afterDate? rest) }

/-- Whether characters denote a point in time without a tag: a day alone has two
digits for the month and for the day. -/
def isForm (characters : List Char) : Bool :=
  match ofCharacters? characters with
  | some timestamp => timestamp.time.isSome || characters.length = 10
  | none => false

/-- The digits of a fraction that count. -/
def fractionDigits : Nat := 6

/-- The millionths of a fraction. -/
def microseconds (fraction : List Char) : Nat :=
  let counted := fraction.take fractionDigits
  numberOf counted * Nat.pow 10 (fractionDigits - counted.length)

end Timestamp

end DepositYield.Yaml
