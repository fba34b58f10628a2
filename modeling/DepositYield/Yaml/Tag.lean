import DepositYield.Yaml.Timestamp

/-!
# Tags of YAML

The tag of a node tells how its value is to be understood.  A plain scalar without a
tag takes the one whose form it has, and is a text if it has no other form.
-/

namespace DepositYield.Yaml

open Text

/-- A tag. -/
inductive Tag where
  | null
  | bool
  | int
  | float
  | binary
  | timestamp
  | orderedMapping
  | pairs
  | set
  | text
  | list
  | mapping
  /-- A key whose value is merged into the mapping. -/
  | merge
  /-- A key whose value stands for the mapping. -/
  | value
  | other (name : String)
  deriving DecidableEq, Repr

namespace Tag

/-- What the names of the tags of the language begin with. -/
def leading : String := "tag:yaml.org,2002:"

/-- The tags of the language, by name. -/
def known : List (String × Tag) :=
  [("null", .null), ("bool", .bool), ("int", .int), ("float", .float), ("binary", .binary),
    ("timestamp", .timestamp), ("omap", .orderedMapping), ("pairs", .pairs), ("set", .set),
    ("str", .text), ("seq", .list), ("map", .mapping), ("merge", .merge), ("value", .value)]

/-- The tag of a full name. -/
def ofName (name : String) : Tag :=
  let found := known.find? fun entry => leading ++ entry.1 = name
  (found.map Prod.snd).getD (.other name)

/-- The full name of a tag. -/
def name : Tag → String
  | .other name => name
  | tag =>
      let found := known.find? fun entry => entry.2 = tag
      leading ++ (found.map Prod.fst).getD ""

/-! ## Forms of scalars -/

/-- The spellings of truth values. -/
def truthWords : List String :=
  ["yes", "Yes", "YES", "no", "No", "NO", "true", "True", "TRUE", "false", "False", "FALSE", "on",
    "On", "ON", "off", "Off", "OFF"]

/-- The spellings of the missing value. -/
def nullWords : List String :=
  ["", "~", "null", "Null", "NULL"]

/-- The spellings of infinity, without a sign. -/
def infinityWords : List String :=
  [".inf", ".Inf", ".INF"]

/-- The spellings of what is no number. -/
def nanWords : List String :=
  [".nan", ".NaN", ".NAN"]

/-- Whether a character is a digit or an underscore. -/
def isDigitOrGap (character : Char) : Bool :=
  character.isDigit || character = '_'

/-- A digit followed by digits and underscores. -/
def isDigits : List Char → Bool
  | first :: rest => first.isDigit && rest.all isDigitOrGap
  | [] => false

/-- Whether characters are a place in base sixty: one digit or two. -/
def isSixtieth : List Char → Bool
  | [last] => last.isDigit
  | [first, last] => '0' ≤ first && first ≤ '5' && last.isDigit
  | _ => false

/-- Whether characters are places in base sixty, each after a colon. -/
def areSixtieths (characters : List Char) : Bool :=
  match characters.splitOn ':' with
  | before :: first :: rest => before.isEmpty && (first :: rest).all isSixtieth
  | _ => false

/-- Whether characters are an exponent with a sign, or nothing. -/
def isExponent : List Char → Bool
  | [] => true
  | mark :: sign :: digits =>
      (mark = 'e' || mark = 'E') && (sign = '+' || sign = '-') && !digits.isEmpty &&
        digits.all Char.isDigit
  | _ => false

/-- Whether unsigned characters are a whole number: in base two, eight, ten, sixteen
or sixty. -/
def isUnsignedInt (characters : List Char) : Bool :=
  let isIn (digits : String) (character : Char) : Bool := digits.toList.contains character
  match characters with
  | ['0'] => true
  | '0' :: 'b' :: rest => !rest.isEmpty && rest.all (isIn "01_")
  | '0' :: 'x' :: rest => !rest.isEmpty && rest.all (isIn "0123456789abcdefABCDEF_")
  | '0' :: rest => rest.all (isIn "01234567_")
  | _ =>
      let whole := characters.takeWhile isDigitOrGap
      let rest := characters.dropWhile isDigitOrGap
      isDigits whole && (rest.isEmpty || areSixtieths rest)

/-- Whether unsigned characters are a number with a point, perhaps in base sixty. -/
def isUnsignedFloat (characters : List Char) : Bool :=
  let whole := characters.takeWhile isDigitOrGap
  let middle := (characters.dropWhile isDigitOrGap).takeWhile (· ≠ '.')
  match (characters.dropWhile isDigitOrGap).dropWhile (· ≠ '.') with
  | _ :: tail =>
      let exponent := tail.dropWhile isDigitOrGap
      isDigits whole &&
        ((middle.isEmpty && isExponent exponent) || (areSixtieths middle && exponent.isEmpty))
  | [] => false

/-- Whether characters are a fraction after a point. -/
def isFraction : List Char → Bool
  | '.' :: rest =>
      isDigits (rest.takeWhile isDigitOrGap) && isExponent (rest.dropWhile isDigitOrGap)
  | _ => false

/-- Whether characters have the form of a floating-point number. -/
def isFloat (characters : List Char) : Bool :=
  let unsigned := (splitSign characters).2
  isUnsignedFloat unsigned || isFraction characters ||
    infinityWords.contains (String.ofList unsigned) ||
    nanWords.contains (String.ofList characters)

/-- Whether characters have the form of a whole number. -/
def isInt (characters : List Char) : Bool :=
  isUnsignedInt (splitSign characters).2

/-- The characters of a scalar without a line feed at the end. -/
def withoutFinalBreak (characters : List Char) : List Char :=
  if characters.getLast? = some '\n' then characters.dropLast else characters

/-- The tag of a plain scalar without a tag. -/
def ofPlain (text : String) : Tag :=
  let characters := withoutFinalBreak text.toList
  let word := String.ofList characters
  if text = "\n" then .text
  else if truthWords.contains word then .bool
  else if isFloat characters then .float
  else if isInt characters then .int
  else if word = "<<" then .merge
  else if nullWords.contains word then .null
  else if Timestamp.isForm characters then .timestamp
  else if word = "=" then .value
  else if ["!", "&", "*"].contains word then .other (leading ++ "yaml")
  else .text

end Tag

end DepositYield.Yaml
