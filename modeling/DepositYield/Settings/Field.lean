import DepositYield.Decimal.Order
import DepositYield.Document.Basic
import DepositYield.Settings.Issue
import DepositYield.Text.Blank
import DepositYield.Text.Surrogate

/-!
# Fields of settings

Whole numbers may be given as numbers without a fraction, as truth values and
as text; decimals as numbers and as text.  Bytes stand for the text that they
encode, and a set for the list of its items.
-/

namespace DepositYield.Settings

open Text

/-! ## Whole numbers -/

/-- The digits of a text that is read as a whole number, at most. -/
def maxIntegerDigits : Nat := 4300

/-- Floating-point numbers are read as whole numbers below this magnitude. -/
def maxFloatInteger : Int := Nat.pow 2 63

/-- The whole number of unsigned digits without needless zeros. -/
def unsignedInteger (characters : List Char) : Except IssueKind Nat :=
  match characters with
  | ['0'] => .ok 0
  | '0' :: _ => .error .unreadableInteger
  | _ =>
      let digits := characters.takeWhile Char.isDigit
      if maxIntegerDigits < digits.length then .error .oversizedInteger
      else if digits.isEmpty ∨ digits.length < characters.length then .error .unreadableInteger
      else .ok (positional (digits.filterMap asciiDigit?))

/-- The whole number of a plain text: a minus or nothing, and digits without
needless zeros. -/
def plainInteger (characters : List Char) : Except IssueKind Int :=
  match characters with
  | '-' :: digits => (unsignedInteger digits).map fun value => -(value : Int)
  | digits => (unsignedInteger digits).map fun value => (value : Int)

/-- The sign of a text, whether it is a minus, and what follows; two signs in a row
are refused. -/
def splitSingleSign? (characters : List Char) : Option (Bool × List Char) :=
  match characters with
  | '+' :: '-' :: _ => none
  | '-' :: '-' :: _ => none
  | '-' :: '+' :: _ => none
  | _ => some (splitSign characters)

/-- Drop zeros, and underscores between them, after the character `last`.  One
character is kept in front of a point and at the end. -/
def dropZerosAfter (last : Char) : List Char → Option (List Char)
  | [] => some [last]
  | first :: rest =>
      if first = '0' ∨ first = '_' then dropZerosAfter first rest
      else if first = '.' then some (last :: first :: rest)
      else if first.isDigit ∨ first = '-' then some (first :: rest)
      else none

/-- Drop needless zeros in front. -/
def dropLeadingZeros : List Char → Option (List Char)
  | [] => none
  | first :: rest =>
      if first = '0' then dropZerosAfter first rest
      else if first.isDigit ∨ first = '-' then some (first :: rest)
      else none

/-- Drop a decimal point that only zeros follow. -/
def dropZeroFraction (characters : List Char) : List Char :=
  match characters.dropWhile (· ≠ '.') with
  | _ :: first :: fraction =>
      if (first :: fraction).all (· = '0') then characters.takeWhile (· ≠ '.') else characters
  | _ => characters

/-- Whether two underscores stand in a row. -/
def hasDoubleUnderscore : List Char → Bool
  | '_' :: '_' :: _ => true
  | _ :: rest => hasDoubleUnderscore rest
  | [] => false

/-- Drop underscores if all of them stand alone between other characters. -/
def dropUnderscores (characters : List Char) : List Char :=
  if characters.head? = some '_' ∨ characters.getLast? = some '_' ∨
      hasDoubleUnderscore characters then
    characters
  else
    characters.filter (· ≠ '_')

/-- A text in its plain form: without white space around it, a plus, zeros and
underscores in front, a fraction of zeros and underscores between digits. -/
def simplified? (characters : List Char) : Option (List Char) := do
  let (negative, body) ← splitSingleSign? (trimWhere isWhiteSpace characters)
  let body ← dropLeadingZeros body
  let body := dropUnderscores (dropZeroFraction body)
  return if negative then '-' :: body else body

/-- The whole number that a text denotes, as it is or in its plain form. -/
def integerOfText (text : String) : Except IssueKind Int :=
  if Surrogate.occursIn text then
    .error .unreadableText
  else
    match plainInteger text.toList with
    | .error .unreadableInteger =>
        match simplified? text.toList with
        | some characters => plainInteger characters
        | none => .error .unreadableInteger
    | result => result

/-- The text of bytes. -/
def textOfBytes? (bytes : List UInt8) : Option String :=
  String.fromUTF8? ⟨bytes.toArray⟩

/-- The whole number that a floating-point number equals. -/
def integerOfFloat (value : Binary64) : Except IssueKind Int :=
  match value.truncate? with
  | none => .error .notANumber
  | some whole =>
      if !value.isWhole then .error .fraction
      else if whole.natAbs < maxFloatInteger then .ok whole
      else .error .oversizedInteger

/-- The whole number that a value stands for. -/
def integerOf : Document → Except IssueKind Int
  | .int value => .ok value
  | .bool value => .ok (if value then 1 else 0)
  | .float value => integerOfFloat value
  | .text text => integerOfText text
  | .bytes bytes =>
      match textOfBytes? bytes with
      | some text => integerOfText text
      | none => .error .unreadableInteger
  | _ => .error .notAWholeNumber

/-- A bound that a whole number has to keep. -/
inductive Bound where
  | any
  | atLeast (minimum : Int)
  | above (bound : Int)
  | between (minimum maximum : Int)

/-- The issue of a whole number that does not keep a bound. -/
def Bound.violation? (bound : Bound) (value : Int) : Option IssueKind :=
  match bound with
  | .any => none
  | .atLeast minimum => if value < minimum then some (.belowMinimum minimum) else none
  | .above limit => if value ≤ limit then some (.notAbove limit) else none
  | .between minimum maximum =>
      if value < minimum then some (.belowMinimum minimum)
      else if maximum < value then some (.aboveMaximum maximum)
      else none

/-- The whole number that a value stands for, within a bound. -/
def boundedInteger (bound : Bound) (location : List Step) (value : Document) : Checked Int :=
  match integerOf value with
  | .error kind => .issue location kind
  | .ok whole =>
      match bound.violation? whole with
      | some kind => .issue location kind
      | none => .ok whole

/-! ## Windows -/

/-- The windows of an average: at least one, all positive, none twice.  They are
put in ascending order. -/
def checkWindows (location : List Step) (windows : List Int) : Checked (List Int) :=
  if windows.isEmpty then
    .issue location .noWindows
  else if windows.any (· ≤ 0) then
    .issue location (.windowsNotPositive windows)
  else if windows.eraseDups.length ≠ windows.length then
    .issue location (.windowsNotUnique windows)
  else
    .ok (windows.mergeSort fun left right => left ≤ right)

/-- The items of a list or of a set. -/
def itemsOf? : Document → Option (List Document)
  | .list items => some items
  | .set items => some items
  | _ => none

/-- The windows that a value stands for. -/
def windowsOf (location : List Step) (value : Document) : Checked (List Int) := do
  match itemsOf? value with
  | some items =>
      let windows ← Checked.all <| items.mapIdx fun position item =>
        boundedInteger .any (location ++ [.item position]) item
      checkWindows location windows
  | none => .issue location .notAList

/-! ## Decimals, texts and rules -/

/-- The decimal that a value stands for.  A floating-point number is read as it
is written. -/
def decimalOf (value : Document) : Except IssueKind Decimal := do
  let read : Except IssueKind Decimal :=
    match value with
    | .int number => .ok (.ofInt number)
    | .float number => (Decimal.ofText number.toText).mapError fun _ => .unreadableDecimal
    | .text text => (Decimal.ofText text).mapError fun _ => .unreadableDecimal
    | _ => .error .notADecimal
  let decimal ← read
  if decimal.isFinite then return decimal else .error .notANumber

/-- Whether the magnitude of a drift, rounded to the ambient precision, is at
most one. -/
def driftInRange (drift : Decimal) : Except Decimal.Signal Bool := do
  Decimal.le? (← Decimal.Context.ambient.abs drift) .one

/-- The drift of the seed ratio that a value stands for. -/
def driftOf (location : List Step) (value : Document) :
    Except Decimal.Signal (Checked Decimal) := do
  match decimalOf value with
  | .error kind => return .issue location kind
  | .ok drift =>
      if ← driftInRange drift then return .ok drift
      else return .issue location (.driftOutOfRange drift)

/-- The selector of a point rule. -/
def ruleOf (location : List Step) (value : Document) : Checked String :=
  match value with
  | .text "identity" => .ok "identity"
  | .text "default" => .ok "default"
  | .text text =>
      .issue location (if Surrogate.occursIn text then .unreadableText else .unknownRule)
  | _ => .issue location .unknownRule

/-- A text. -/
def textOf (location : List Step) (value : Document) : Checked String :=
  match value with
  | .text text => .ok text
  | .bytes bytes =>
      match textOfBytes? bytes with
      | some text => .ok text
      | none => .issue location .unreadableText
  | _ => .issue location .notAText

end DepositYield.Settings
