import DepositYield.Decimal.Text
import DepositYield.Text.Line

/-!
# Issues of settings

Reading settings does not stop at the first fault: all faults are collected,
each with its place in the document.
-/

namespace DepositYield

/-- A step on the way from the root of a document to a value. -/
inductive Step where
  | field (name : String)
  | item (position : Nat)
  deriving DecidableEq, Repr

/-- What is wrong with a value. -/
inductive IssueKind where
  | missing
  /-- A section is no object; sections of this type are called by the name. -/
  | notASection (typeName : String)
  | notANumber
  | notAWholeNumber
  | fraction
  | unreadableInteger
  | oversizedInteger
  | belowMinimum (minimum : Int)
  | notAbove (bound : Int)
  | aboveMaximum (maximum : Int)
  | notAList
  | notADecimal
  | unreadableDecimal
  | notAText
  /-- Bytes do not encode a text. -/
  | unreadableText
  | unknownRule
  | noWindows
  | windowsNotPositive (windows : List Int)
  | windowsNotUnique (windows : List Int)
  | driftOutOfRange (drift : Decimal)
  | gaugeBeforeOrigin (activation origin : Int)
  deriving DecidableEq, Repr

/-- A fault of a document and its place. -/
structure Issue where
  location : List Step
  kind : IssueKind
  deriving DecidableEq, Repr

namespace IssueKind

/-- The short name of a kind of issue. -/
def name : IssueKind → String
  | .missing => "missing"
  | .notASection _ => "model_type"
  | .notANumber => "finite_number"
  | .notAWholeNumber => "int_type"
  | .fraction => "int_from_float"
  | .unreadableInteger => "int_parsing"
  | .oversizedInteger => "int_parsing_size"
  | .belowMinimum _ => "greater_than_equal"
  | .notAbove _ => "greater_than"
  | .aboveMaximum _ => "less_than_equal"
  | .notAList => "list_type"
  | .notADecimal => "decimal_type"
  | .unreadableDecimal => "decimal_parsing"
  | .notAText => "string_type"
  | .unreadableText => "string_unicode"
  | .unknownRule => "literal_error"
  | .noWindows => "value_error"
  | .windowsNotPositive _ => "value_error"
  | .windowsNotUnique _ => "value_error"
  | .driftOutOfRange _ => "value_error"
  | .gaugeBeforeOrigin _ _ => "value_error"

/-- A message that shows whole numbers, or why it cannot be written. -/
def showing (line : Text.Line) : String :=
  "Value error, " ++
    match line.write with
    | .ok text => text
    | .error reason => reason.message

/-- A list of whole numbers as it stands in messages. -/
def listLine (values : List Int) : Text.Line :=
  "[" :: ((values.map Text.Piece.whole).intersperse (.words ", ")).append ["]"]

/-- What is said about an issue. -/
def message : IssueKind → String
  | .missing => "Field required"
  | .notASection typeName => "Input should be a valid dictionary or instance of " ++ typeName
  | .notANumber => "Input should be a finite number"
  | .notAWholeNumber => "Input should be a valid integer"
  | .fraction => "Input should be a valid integer, got a number with a fractional part"
  | .unreadableInteger =>
      "Input should be a valid integer, unable to parse string as an integer"
  | .oversizedInteger =>
      "Unable to parse input string as an integer, exceeded maximum size"
  | .belowMinimum minimum => "Input should be greater than or equal to " ++ toString minimum
  | .notAbove bound => "Input should be greater than " ++ toString bound
  | .aboveMaximum maximum => "Input should be less than or equal to " ++ toString maximum
  | .notAList => "Input should be a valid list"
  | .notADecimal => "Decimal input should be an integer, float, string or Decimal object"
  | .unreadableDecimal => "Input should be a valid decimal"
  | .notAText => "Input should be a valid string"
  | .unreadableText =>
      "Input should be a valid string, unable to parse raw data as a unicode string"
  | .unknownRule => "Input should be 'identity' or 'default'"
  | .noWindows => "Value error, at least one EMA window is required"
  | .windowsNotPositive windows =>
      showing ("EMA windows must be positive, got " :: listLine windows)
  | .windowsNotUnique windows =>
      showing ("EMA windows must be unique, got " :: listLine windows)
  | .driftOutOfRange drift =>
      "Value error, delta_r must be within [-1, 1], got " ++ drift.toText
  | .gaugeBeforeOrigin activation origin =>
      showing ["gauge.activation_period (", .whole activation,
        ") must not precede ema.origin_period (", .whole origin, ")"]

end IssueKind

/-- A value read from a document, or all issues found on the way. -/
abbrev Checked (α : Type) := Except (List Issue) α

namespace Checked

/-- Join two values that were read.  Issues of both are kept. -/
def both {α β γ : Type} (join : α → β → γ) (left : Checked α) (right : Checked β) : Checked γ :=
  match left, right with
  | .ok first, .ok second => .ok (join first second)
  | .error issues, .ok _ => .error issues
  | .ok _, .error issues => .error issues
  | .error first, .error second => .error (first ++ second)

/-- Apply a function that was read to a value that was read. -/
def apply {α β : Type} (function : Checked (α → β)) (value : Checked α) : Checked β :=
  both (fun make argument => make argument) function value

/-- All values of a list, or the issues of all of them. -/
def all {α : Type} : List (Checked α) → Checked (List α)
  | [] => .ok []
  | first :: rest => both List.cons first (all rest)

/-- A single issue at a place. -/
def issue {α : Type} (location : List Step) (kind : IssueKind) : Checked α :=
  .error [{ location, kind }]

end Checked

end DepositYield
