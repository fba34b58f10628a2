import DepositYield.Document.Basic
import DepositYield.Text.Surrogate
import DepositYield.Text.Whole

/-!
# Documents written as JSON

The output is ASCII: characters outside it are escaped by their UTF-16 units.
There are two layouts, one line or one value per line with indentation.  Values that
the notation does not have are written as null.
-/

namespace DepositYield.Document

/-! ## Strings -/

/-- Four hexadecimal digits. -/
def hexUnit (unit : Nat) : String :=
  let digits := Nat.toDigits 16 unit
  String.ofList (List.replicate (4 - digits.length) '0' ++ digits)

/-- The escape of one UTF-16 unit. -/
def unitEscape (unit : Nat) : String :=
  "\\u" ++ hexUnit unit

/-- The character of a string literal, escaped where JSON or ASCII asks for
it. -/
def escapeCharacter (character : Char) : String :=
  let code := Text.Surrogate.code character
  if character = '"' then "\\\""
  else if character = '\\' then "\\\\"
  else if code = 0x0a then "\\n"
  else if code = 0x0d then "\\r"
  else if code = 0x09 then "\\t"
  else if code = 0x08 then "\\b"
  else if code = 0x0c then "\\f"
  else if 0x20 ≤ code ∧ code < 0x7f then String.singleton character
  else if code < 0x10000 then unitEscape code
  else
    unitEscape (0xd800 + (code - 0x10000) / 0x400) ++
      unitEscape (0xdc00 + (code - 0x10000) % 0x400)

/-- A string literal. -/
def stringLiteral (value : String) : String :=
  "\"" ++ value.foldl (fun literal character => literal ++ escapeCharacter character) "" ++ "\""

/-- A number literal of binary floating point. -/
def floatLiteral : Binary64 → String
  | .finite negative mantissa exponent => (Binary64.finite negative mantissa exponent).toText
  | .infinite negative => Decimal.signText negative ++ "Infinity"
  | .nan => "NaN"

/-! ## Layouts -/

/-- How the items of a list or of an object are set apart. -/
structure Layout where
  /-- The columns by which a nested value is indented; `none` keeps all on one
  line. -/
  indent : Option Nat
  /-- What stands between two items on one line. -/
  separator : String
  /-- What stands between a name and its value. -/
  colon : String

/-- All on one line, with a blank after commas and colons. -/
def Layout.line : Layout where
  indent := none
  separator := ", "
  colon := ": "

/-- All on one line, without blanks. -/
def Layout.compact : Layout where
  indent := none
  separator := ","
  colon := ":"

/-- One value per line, two columns for each level. -/
def Layout.indented : Layout where
  indent := some 2
  separator := ","
  colon := ": "

/-- The break before a nested value at a level. -/
def Layout.lineBreak (layout : Layout) (level : Nat) : String :=
  match layout.indent with
  | none => ""
  | some columns => "\n" ++ String.ofList (List.replicate (columns * level) ' ')

/-- Items between brackets; an empty sequence has nothing between them. -/
def Layout.enclose (layout : Layout) (level : Nat) (opening closing : String)
    (items : List String) : String :=
  if items.isEmpty then
    opening ++ closing
  else
    opening ++ layout.lineBreak (level + 1) ++
      (layout.separator ++ layout.lineBreak (level + 1)).intercalate items ++
      layout.lineBreak level ++ closing

mutual

/-- A document as JSON, nested at the given level. -/
def renderAt (layout : Layout) (level : Nat) : Document → String
  | .null => "null"
  | .bool value => if value then "true" else "false"
  | .int value => toString value
  | .float value => floatLiteral value
  | .text value => stringLiteral value
  | .list items => layout.enclose level "[" "]" (renderItems layout (level + 1) items)
  | .object fields =>
      layout.enclose level "\x7b" "\x7d" (renderFields layout (level + 1) fields)
  | _ => "null"

/-- The items of a list as JSON. -/
def renderItems (layout : Layout) (level : Nat) : List Document → List String
  | [] => []
  | item :: items => renderAt layout level item :: renderItems layout level items

/-- The fields of an object as JSON. -/
def renderFields (layout : Layout) (level : Nat) : List (String × Document) → List String
  | [] => []
  | (name, value) :: fields =>
      (stringLiteral name ++ layout.colon ++ renderAt layout level value) ::
        renderFields layout level fields

end

/-- A document as JSON. -/
def render (layout : Layout) (document : Document) : String :=
  renderAt layout 0 document

/-! ## Documents that can be written -/

mutual

/-- The whole numbers of a document. -/
def wholes : Document → List Int
  | .int value => [value]
  | .list items => wholesOfItems items
  | .object fields => wholesOfFields fields
  | _ => []

/-- The whole numbers of the items of a list. -/
def wholesOfItems : List Document → List Int
  | [] => []
  | item :: items => wholes item ++ wholesOfItems items

/-- The whole numbers of the fields of an object. -/
def wholesOfFields : List (String × Document) → List Int
  | [] => []
  | (_, value) :: fields => wholes value ++ wholesOfFields fields

end

/-- Whether every whole number of a document can be written. -/
def isWritable (document : Document) : Bool :=
  document.wholes.all Text.isWritable

end DepositYield.Document
