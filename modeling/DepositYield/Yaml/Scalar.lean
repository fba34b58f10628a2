import DepositYield.Binary64.Arithmetic
import DepositYield.Document.Basic
import DepositYield.Yaml.Fault
import DepositYield.Yaml.Tag
import DepositYield.Text.Base64
import DepositYield.Text.Case

/-!
# Values of scalars

The value of a scalar follows from its tag.  The tag may be written although the text
has another form; then the text is read as well as its tag allows.
-/

namespace DepositYield.Yaml

open Text

/-- The base of numbers with colons. -/
def sixty : Nat := 60

/-- Whether characters begin with the mark of a base. -/
def hasMark (mark : String) (characters : List Char) : Bool :=
  mark.toList.isPrefixOf characters

/-- A whole number in a base. -/
def integerIn (base : Nat) (characters : List Char) : Except Fault Int :=
  (wholeNumberIn base (String.ofList characters)).mapError .integer

/-- The whole number of characters without a sign and without underscores. -/
def unsignedInteger (characters : List Char) : Except Fault Int :=
  match characters with
  | [] => .error .emptyNumber
  | first :: _ =>
      if characters = ['0'] then .ok 0
      else if hasMark "0b" characters then integerIn 2 (characters.drop 2)
      else if hasMark "0x" characters then integerIn 16 (characters.drop 2)
      else if first = '0' then integerIn 8 characters
      else if characters.contains ':' then do
        let places ← (characters.splitOn ':').mapM (integerIn 10)
        return places.foldl (fun value place => sixty * value + place) 0
      else integerIn 10 characters

/-- The characters of a number without underscores; there is at least one. -/
def numberCharacters (text : String) : Except Fault (List Char) :=
  match text.toList.filter (· ≠ '_') with
  | [] => .error .emptyNumber
  | characters => .ok characters

/-- The whole number of a text. -/
def integerOf (text : String) : Except Fault Int := do
  let (negative, unsigned) := splitSign (← numberCharacters text)
  let value ← unsignedInteger unsigned
  return if negative then -value else value

/-- A floating-point number. -/
def floatIn (characters : List Char) : Except Fault Binary64 :=
  let text := String.ofList characters
  match Binary64.ofText? text with
  | some value => .ok value
  | none => .error (.float text)

/-- The sum of places in base sixty, from the last one on; `base` is the weight of the
first of them. -/
def sumOfPlaces (base : Nat) (sum : Binary64) : List Binary64 → Except Fault Binary64
  | [] => .ok sum
  | place :: rest =>
      match Binary64.ofInt base with
      | .infinite _ => .error .longFloat
      | weight => sumOfPlaces (sixty * base) (sum.add (place.mul weight)) rest

/-- The floating-point number of characters without a sign and without
underscores. -/
def unsignedFloat (characters : List Char) : Except Fault Binary64 :=
  let word := String.ofList characters
  if word = ".inf" then .ok (.infinite false)
  else if word = ".nan" then .ok .nan
  else if characters.contains ':' then do
    let places ← (characters.splitOn ':').mapM floatIn
    sumOfPlaces 1 (.finite false 0 Binary64.minExponent) places.reverse
  else floatIn characters

/-- The floating-point number of a text. -/
def floatOf (text : String) : Except Fault Binary64 := do
  let (negative, unsigned) := splitSign (← numberCharacters (lowerCase text))
  let value ← unsignedFloat unsigned
  return if negative then value.neg else value

/-- The truth value of a text. -/
def truthOf (text : String) : Except Fault Bool :=
  let word := lowerCase text
  if ["yes", "true", "on"].contains word then .ok true
  else if ["no", "false", "off"].contains word then .ok false
  else .error (.truthValue word)

/-- The bytes of a text of ASCII. -/
def bytesOf (text : String) : Except Fault (List UInt8) :=
  let isAscii := text.toList.all fun character => character.toNat < 128
  match if isAscii then Base64.decode? text else none with
  | some decoded => .ok decoded
  | none => .error (.node .base64)

/-- The date or the time of a text. -/
def timeOf (text : String) : Except Fault Document :=
  let read (timestamp : Timestamp) : Except CalendarError Document :=
    match timestamp.time with
    | none => (CalendarDate.ofParts timestamp.year timestamp.month timestamp.day).map .date
    | some clock =>
        (CalendarTime.ofParts timestamp.year timestamp.month timestamp.day clock.hour clock.minute
          clock.second (Timestamp.microseconds clock.fraction) clock.offset).map .time
  match Timestamp.ofCharacters? (Tag.withoutFinalBreak text.toList) with
  | some timestamp => (read timestamp).mapError .calendar
  | none => .error .timeForm

end DepositYield.Yaml
