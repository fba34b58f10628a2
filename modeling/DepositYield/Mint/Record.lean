import DepositYield.ColumnWidth
import DepositYield.Document.Basic
import DepositYield.Mint.History
import DepositYield.Text.Column

/-!
# Reading mint histories

Histories come as records of a period and an amount, as a mapping from periods
to amounts, or as tables.  The values may be whole numbers, binary floating
point or text.

A mapping and a direct write take the exact value of a floating-point number.
Records and tables take the decimal that is written for it instead, with the
fewest digits that read back.
-/

namespace DepositYield.MintHistory

open Decimal

/-- Why a history cannot be read. -/
inductive RecordError where
  | signal (signal : Signal)
  /-- The text is not a whole number. -/
  | malformedPeriod (error : Text.WholeError)
  /-- The period is a NaN. -/
  | periodNotANumber
  /-- The period is an infinity. -/
  | periodInfinite
  /-- There is no number and no text for the period. -/
  | noPeriod
  /-- There is no value for the amount. -/
  | noAmount
  | malformedTable (fault : Text.Csv.Fault)
  | malformedColumn (fault : Text.Column.Fault)
  /-- A table lacks columns. -/
  | missingColumns (names : List String)
  deriving DecidableEq, Repr

/-- The period that a text denotes. -/
def periodOfText (text : String) : Except RecordError Int :=
  (Text.wholeNumber text).mapError .malformedPeriod

/-- The period that a value denotes; fractions of floating-point numbers are
dropped. -/
def periodOf : Document → Except RecordError Int
  | .int value => .ok value
  | .bool value => .ok (if value then 1 else 0)
  | .float .nan => .error .periodNotANumber
  | .float (.infinite _) => .error .periodInfinite
  | .float value => .ok (value.truncate?.getD 0)
  | .text text => periodOfText text
  | _ => .error .noPeriod

/-- The amount that is written for a value. -/
def writtenDecimal : Document → Except Signal Decimal
  | .int value => .ok (.ofInt value)
  | .float value => Decimal.ofText value.toText
  | .text text => Decimal.ofText text
  | _ => .error .conversionSyntax

/-- The amount that equals a value exactly. -/
def exactDecimal : Document → Except Signal Decimal
  | .int value => .ok (.ofInt value)
  | .bool value => .ok (if value then .one else .zero)
  | .float value => .ok value.toDecimal
  | .text text => Decimal.ofText text
  | _ => .error .conversionSyntax

/-- A record as it stands in its source. -/
structure RawRecord where
  period : Document
  amount : Document

/-- Read a record and add its amount to the history. -/
def readRecord (history : MintHistory) (record : RawRecord) : Except RecordError MintHistory := do
  let period ← periodOf record.period
  let amount ← (writtenDecimal record.amount).mapError .signal
  (history.accumulate period amount).mapError .signal

/-- The history of a list of records. -/
def readRecords (records : List RawRecord) : Except RecordError MintHistory :=
  records.foldlM readRecord empty

/-- Whether a value is missing. -/
def isMissing : Document → Bool
  | .null => true
  | _ => false

/-- The history of a mapping from the texts of periods to amounts. -/
def readMapping (fields : List (String × Document)) : Except RecordError MintHistory := do
  let entries ← fields.mapM fun (text, value) => do
    let period ← periodOfText text
    if isMissing value then throw .noAmount
    let amount ← (exactDecimal value).mapError .signal
    return (period, amount)
  return ofMapping entries

/-! ## Tables -/

/-- The whole numbers of a column. -/
def integersOf (column : List Document) : List Int :=
  column.filterMap fun value =>
    match value with
    | .int value => some value
    | _ => none

/-- Whether a value is a floating-point number. -/
def isFloat : Document → Bool
  | .float _ => true
  | _ => false

/-- Whether a value is a whole number. -/
def isInteger : Document → Bool
  | .int _ => true
  | _ => false

/-- Whether a value is a text. -/
def isText : Document → Bool
  | .text _ => true
  | _ => false

/-- Whether a value is a gap or a NaN. -/
def isGap : Document → Bool
  | .null => true
  | .float .nan => true
  | _ => false

/-- Whether a column holds texts only, some of them in the guise of gaps. -/
def isTextColumn (column : List Document) : Bool :=
  column.all (fun value => isText value || isGap value) && column.any isText

/-- Whether a column holds floating-point numbers only, some of them in the guise
of whole numbers or of gaps.  Whole numbers before the first gap that need more than
64 bits keep their kind. -/
def isFloatColumn (column : List Document) : Bool :=
  column.all (fun value => isInteger value || isFloat value || isMissing value) &&
    column.any (fun value => isInteger value || isFloat value) &&
    column.any (fun value => isFloat value || isMissing value) &&
    ColumnWidth.ofValues (integersOf (column.takeWhile (!isMissing ·))) != .unbounded

/-- A value of a column of texts. -/
def fillGap (value : Document) : Document :=
  if isMissing value then .float .nan else value

/-- A value of a column of floating-point numbers. -/
def toFloat : Document → Document
  | .int value => .float (.ofInt value)
  | .null => .float .nan
  | value => value

/-- The values of a column under one type. -/
def unifyColumn (column : List Document) : List Document :=
  if isTextColumn column then column.map fillGap
  else if isFloatColumn column then column.map toFloat
  else column

/-- The history of a table with a column of periods and one of amounts. -/
def readTable (periods amounts : List Document) : Except RecordError MintHistory :=
  readRecords <| List.zipWith RawRecord.mk (unifyColumn periods) (unifyColumn amounts)

/-! ## Comma-separated values -/

/-- The heading of the column of periods. -/
def periodHeading : String := "period"

/-- The heading of the column of amounts. -/
def amountHeading : String := "delta"

/-- An amount of a comma-separated table.  A missing amount is a NaN. -/
def tableDecimal (text : String) : Document :=
  match Text.Column.word? text with
  | some word => .text word
  | none => .float .nan

/-- The values of a column, once they are read: whole numbers under the heading of
periods, and texts under any other. -/
def readColumn (column : Text.Csv.Column) : Except RecordError (String × List Document) := do
  if column.heading = periodHeading then
    let periods ← (Text.Column.integers column.position column.values).mapError .malformedColumn
    return (column.name, periods.map .int)
  else
    return (column.name, column.values.map tableDecimal)

/-- The history of comma-separated values.  The first row names the columns, of
which those of periods and of amounts are read. -/
def readCsv (text : String) : Except RecordError MintHistory := do
  let columns ← (Text.Csv.rows text >>= Text.Csv.columns).mapError .malformedTable
  let read ← columns.mapM readColumn
  match read.lookup periodHeading, read.lookup amountHeading with
  | some periods, some amounts => readRecords (List.zipWith RawRecord.mk periods amounts)
  | some _, none => throw (.missingColumns [amountHeading])
  | none, some _ => throw (.missingColumns [periodHeading])
  | none, none => throw (.missingColumns [periodHeading, amountHeading])

namespace RecordError

/-- What is said about columns that a table lacks. -/
def missingText (names : List String) : String :=
  let shown := "[" ++ ", ".intercalate (names.map Text.quoted) ++ "]"
  if names.length = 1 then shown ++ " not in index"
  else "None of [Index(" ++ shown ++ ", dtype='str')] are in the [columns]"

/-- What is said about a history that cannot be read; signals have their own
names. -/
def message? : RecordError → Option String
  | .signal _ => none
  | .malformedPeriod error => some error.message
  | .periodNotANumber => some "cannot convert float NaN to integer"
  | .periodInfinite => some "cannot convert float infinity to integer"
  | .noPeriod =>
      some ("int() argument must be a string, a bytes-like object or a real number, " ++
        "not 'NoneType'")
  | .noAmount => some "conversion from NoneType to Decimal is not supported"
  | .malformedTable fault => some fault.message
  | .malformedColumn fault => some fault.message
  | .missingColumns names => some (Text.quoted (missingText names))

end RecordError

end DepositYield.MintHistory
