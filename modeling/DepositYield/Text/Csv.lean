import DepositYield.Text.Line

/-!
# Comma-separated values

A table is written one row per line.  A field is quoted only if it holds a
comma, a quote or the line feed that ends rows, and a quote inside a quoted
field is written twice.  Reading also accepts quotes around any field, carriage
returns as line breaks and lines of blanks between rows.
-/

namespace DepositYield.Text.Csv

/-! ## Writing -/

/-- Whether a field has to be quoted. -/
def needsQuotes (field : String) : Bool :=
  field.any fun character => character == ',' || character == '"' || character == '\n'

/-- The characters of a quoted field, with every quote doubled. -/
def doubleQuotes : List Char → List Char
  | [] => []
  | '"' :: rest => '"' :: '"' :: doubleQuotes rest
  | character :: rest => character :: doubleQuotes rest

/-- A field as it stands in a row. -/
def fieldText (field : String) : String :=
  if needsQuotes field then
    "\"" ++ String.ofList (doubleQuotes field.toList) ++ "\""
  else
    field

/-- A row of one piece for each column, with its line break. -/
def rowText (row : Line) : String :=
  ",".intercalate (row.map fun cell => fieldText cell.text) ++ "\n"

/-- What is written of a table with the names of its columns in the first row. -/
def tableText (columns : List String) (rows : List Line) : Except Unwritable String :=
  written (rows.flatMap Line.wholes) (String.join ((columns.map .words :: rows).map rowText))

/-! ## Reading -/

/-- Why a text is no table. -/
inductive Fault where
  /-- No row names the columns. -/
  | noColumns
  /-- The text ends inside quotes, after the given number of lines. -/
  | unclosedQuote (lines : Nat)
  /-- A row has more fields than the rows before it. -/
  | tooManyFields (expected line found : Nat)
  deriving DecidableEq, Repr

/-- What is said about a text that is no table. -/
def Fault.message : Fault → String
  | .noColumns => "No columns to parse from file"
  | .unclosedQuote lines =>
      "Error tokenizing data. C error: EOF inside string starting at row " ++ toString lines
  | .tooManyFields expected line found =>
      "Error tokenizing data. C error: Expected " ++ toString expected ++ " fields in line " ++
        toString line ++ ", saw " ++ toString found ++ "\n"

/-- Where a reader stands. -/
inductive Position where
  /-- At the start of a line. -/
  | line
  /-- After the given blanks at the start of a line, latest first. -/
  | blank (blanks : List Char)
  /-- At the start of a field. -/
  | start
  /-- Inside a field without quotes. -/
  | bare
  /-- Inside quotes. -/
  | quoted
  /-- Right after a quote that may close the field. -/
  | closing
  /-- After a carriage return, which a line feed may follow. -/
  | returned

/-- The rows read so far, latest first, with the pieces of the current row. -/
structure Progress where
  rows : List (List String)
  /-- The lines before the current one; a line break inside quotes does not end a
  line. -/
  lines : Nat
  fields : List String
  field : List Char
  position : Position

namespace Progress

/-- Nothing has been read. -/
def initial : Progress where
  rows := []
  lines := 0
  fields := []
  field := []
  position := .line

/-- Add a character to the current field. -/
def push (progress : Progress) (character : Char) (position : Position) : Progress :=
  { progress with field := character :: progress.field, position }

/-- End the current field.  A field ends at a null character at the latest. -/
def endField (progress : Progress) : Progress :=
  let field := progress.field.reverse.takeWhile (· ≠ Char.ofNat 0)
  { progress with
    fields := String.ofList field :: progress.fields
    field := []
    position := .start }

/-- Count a line without a row. -/
def skipLine (progress : Progress) (position : Position) : Progress :=
  { progress with lines := progress.lines + 1, field := [], position }

/-- The row of the given fields after the given rows.  The second row may be longer
than the first one, which names the columns; all other rows are filled up to the
length of the one before, and may not be longer. -/
def fitRow (rows : List (List String)) (lines : Nat) (fields : List String) :
    Except Fault (List String) :=
  match rows with
  | [] => .ok fields
  | previous :: earlier =>
      if previous.length < fields.length ∧ ¬earlier.isEmpty then
        .error (.tooManyFields previous.length (lines + 1) fields.length)
      else
        .ok (fields ++ List.replicate (previous.length - fields.length) "")

/-- End the current row. -/
def endRow (progress : Progress) (position : Position) : Except Fault Progress := do
  let row ← fitRow progress.rows progress.lines progress.fields.reverse
  return { rows := row :: progress.rows, lines := progress.lines + 1, fields := [], field := []
           position }

/-- Read a character inside a row that is not inside quotes. -/
def stepField (progress : Progress) (character : Char) : Except Fault Progress :=
  if character = ',' then .ok progress.endField
  else if character = '\n' then progress.endField.endRow .line
  else if character = '\r' then progress.endField.endRow .returned
  else .ok (progress.push character .bare)

/-- Read a character at the start of a field. -/
def stepStart (progress : Progress) (character : Char) : Except Fault Progress :=
  if character = '"' then .ok { progress with position := .quoted }
  else progress.stepField character

/-- Read a character at the start of a line.  Lines without a character and lines
of blanks are no rows. -/
def stepLine (progress : Progress) (character : Char) : Except Fault Progress :=
  if character = '\n' then .ok (progress.skipLine .line)
  else if character = '\r' then .ok (progress.skipLine .returned)
  else if character = ' ' ∨ character = '\t' then
    .ok { progress with position := .blank [character] }
  else progress.stepStart character

/-- Read a character after blanks at the start of a line. -/
def stepBlank (progress : Progress) (blanks : List Char) (character : Char) :
    Except Fault Progress :=
  if character = '\n' then .ok (progress.skipLine .line)
  else if character = '\r' then .ok (progress.skipLine .returned)
  else if character = ' ' ∨ character = '\t' then
    .ok { progress with position := .blank (character :: blanks) }
  else { progress with field := blanks }.stepField character

/-- Read one character. -/
def step (progress : Progress) (character : Char) : Except Fault Progress :=
  match progress.position with
  | .line => progress.stepLine character
  | .blank blanks => progress.stepBlank blanks character
  | .start => progress.stepStart character
  | .bare => progress.stepField character
  | .quoted =>
      if character = '"' then .ok { progress with position := .closing }
      else .ok (progress.push character .quoted)
  | .closing =>
      if character = '"' then .ok (progress.push character .quoted)
      else progress.stepField character
  | .returned =>
      if character = '\n' then .ok { progress with position := .line }
      else progress.stepLine character

/-- The rows at the end of the text. -/
def finish (progress : Progress) : Except Fault (List (List String)) := do
  let ended ←
    match progress.position with
    | .line => pure progress
    | .blank _ => pure progress
    | .returned => pure progress
    | .quoted => .error (.unclosedQuote progress.lines)
    | _ => progress.endField.endRow .line
  return ended.rows.reverse

end Progress

/-- The characters of a text without the mark of the byte order in front. -/
def contents (text : String) : List Char :=
  match text.toList with
  | [] => []
  | first :: rest => if first = '\ufeff' then rest else first :: rest

/-- The rows of a text. -/
def rows (text : String) : Except Fault (List (List String)) := do
  (← (contents text).foldlM Progress.step Progress.initial).finish

/-! ## Columns -/

/-- A column of a table: its position among the fields of a row, its name, and its
values. -/
structure Column where
  position : Nat
  /-- The name that the first row gives to the column. -/
  heading : String
  /-- The name, which no other column has. -/
  name : String
  values : List String

/-- The first name of the form `heading.1`, `heading.2` and so on from a number on
that is not taken. -/
def freeName (taken : List String) (heading : String) (number : Nat) : Nat → String
  | 0 => heading
  | limit + 1 =>
      let name := heading ++ "." ++ toString number
      if taken.contains name then freeName taken heading (number + 1) limit else name

/-- The names of columns: a heading that came before is numbered. -/
def distinctNames (headings : List String) (seen : List String) : List String → List String
  | [] => []
  | heading :: rest =>
      let name :=
        if seen.contains heading then
          freeName (headings ++ seen) heading 1 (headings.length + seen.length + 1)
        else
          heading
      name :: distinctNames headings (name :: seen) rest

/-- The columns of rows, the first of which names them.  When the rows are longer
than their names, the names belong to the last columns. -/
def columns (rows : List (List String)) : Except Fault (List Column) :=
  match rows with
  | [] => .error .noColumns
  | headings :: rest =>
      let width := (rest.head?.map List.length).getD headings.length
      let offset := width - headings.length
      .ok <| (headings.zip (distinctNames headings [] headings)).mapIdx fun index (heading, name) =>
        { position := index + offset, heading, name
          values := rest.map fun row => (row[index + offset]?).getD "" }

end DepositYield.Text.Csv
