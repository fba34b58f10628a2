import DepositYield.Binary64
import DepositYield.Text.Csv
import DepositYield.Text.Whole

/-!
# Columns of whole numbers

The words of a column of a table are read as whole numbers of 64 bits with a sign.
Words may also be written in floating point or as truth values, as long as no
value is lost; a word without a value is refused.  All words of a column are read
in one way: a word that cannot be read that way sends the whole column to the next
one.
-/

namespace DepositYield.Text.Column

/-- The texts that stand for a missing value in comma-separated tables. -/
def missingTexts : List String :=
  ["", "#N/A", "#N/A N/A", "#NA", "-1.#IND", "-1.#QNAN", "-NaN", "-nan", "1.#IND", "1.#QNAN",
    "<NA>", "N/A", "NA", "NULL", "NaN", "None", "n/a", "nan", "null"]

/-- A word of a column, `none` for a missing value. -/
def word? (text : String) : Option String :=
  if missingTexts.contains text then none else some text

/-- How the words of a column are read. -/
inductive Reading where
  | unsigned
  | floatingPoint
  | words
  deriving DecidableEq, Repr

/-- Why a column is no column of whole numbers. -/
inductive Fault where
  /-- A value is missing. -/
  | missing (position : Nat)
  /-- A value would be lost. -/
  | lossy (reading : Reading) (position : Nat)
  /-- A value is missing among truth values. -/
  | missingTruth (position : Nat)
  /-- A word needs more than 64 bits. -/
  | overflow
  /-- Some words need 64 bits without a sign, others have a sign or are missing. -/
  | mixedSigns
  /-- A word is no whole number. -/
  | word (error : WholeError)
  /-- A value is missing among words. -/
  | missingWord
  /-- A word among others needs more than 64 bits. -/
  | wordOverflow
  deriving DecidableEq, Repr

namespace Fault

/-- The name of a way of reading in messages. -/
def readingName : Reading → String
  | .unsigned => "uint64"
  | .floatingPoint => "float64"
  | .words => "object"

/-- What is said about a column that is no column of whole numbers. -/
def message : Fault → String
  | .missing position => "Integer column has NA values in column " ++ toString position
  | .lossy reading position =>
      "cannot safely convert passed user dtype of int64 for " ++ readingName reading ++
        " dtyped data in column " ++ toString position
  | .missingTruth position =>
      "cannot safely convert passed user dtype of int64 for <class 'numpy.bool'> dtyped data " ++
        "in column " ++ toString position ++ " due to NA values"
  | .overflow => "Overflow"
  | .mixedSigns => "Cannot convert to numerical dtype"
  | .word error => error.message
  | .missingWord => "cannot convert float NaN to integer"
  | .wordOverflow => "Python int too large to convert to C long"

end Fault

/-! ## Whole numbers -/

/-- The blanks of ASCII. -/
def isSpace (character : Char) : Bool :=
  character = ' ' || (0x09 ≤ character.toNat && character.toNat ≤ 0x0d)

/-- Whether a whole number needs no more than 64 bits with a sign. -/
def fitsSigned (value : Int) : Bool :=
  -Nat.pow 2 63 ≤ value && value < Nat.pow 2 63

/-- Why a word is no whole number of a width. -/
inductive WordError where
  | form
  | overflow
  deriving DecidableEq, Repr

/-- The whole number of digits with a sign between blanks, if it fits. -/
def boundedWord (fits : Int → Bool) (word : String) : Except WordError Int :=
  let (negative, body) := splitSign (word.toList.dropWhile isSpace)
  let digits := body.takeWhile Char.isDigit
  let magnitude := positional (digits.filterMap asciiDigit?)
  let value : Int := if negative then -(magnitude : Int) else magnitude
  if digits.isEmpty then .error .form
  else if !fits value then .error .overflow
  else if (body.dropWhile Char.isDigit).all isSpace then .ok value
  else .error .form

/-- Whether a word has a minus in front. -/
def hasMinus (word : String) : Bool :=
  (word.toList.dropWhile isSpace).head? = some '-'

/-- Read a missing value as it is and a word by a function. -/
def readWord {α ε : Type} (read : String → Except ε α) : Option String → Except ε (Option α)
  | none => .ok none
  | some word => (read word).map some

/-- The outcome of a column with a word that does not fit 64 bits with a sign:
`none` when a word is no whole number at all. -/
def unsignedFault (position : Nat) (words : List (Option String)) : Option Fault :=
  let fits (value : Int) : Bool := value < Nat.pow 2 64
  let read (word : String) : Except WordError Int :=
    if hasMinus word then .ok (-1) else boundedWord fits word
  match words.mapM (readWord read) with
  | .error .form => none
  | .error .overflow => some .overflow
  | .ok values =>
      let isLarge (value : Option Int) : Bool :=
        value.any fun (whole : Int) => Nat.pow 2 63 ≤ whole
      let isSigned (value : Option Int) : Bool := value.any (· < 0)
      if values.any isLarge && values.any fun value => isSigned value || value.isNone then
        some .mixedSigns
      else if values.any isSigned then some .overflow
      else some (.lossy .unsigned position)

/-! ## Floating point -/

/-- The digits of a numeral that count, at most. -/
def maxFloatDigits : Nat := 17

/-- A whole number rounded to floating point. -/
def roundWhole (value : Nat) : Nat :=
  match Binary64.ofRatio false value 1 with
  | .finite _ mantissa exponent => mantissa * Nat.pow 2 exponent.toNat / Nat.pow 2 (-exponent).toNat
  | _ => value

/-- The leading digits of a numeral as a whole number, rounded after every
digit. -/
def accumulate (digits : List Char) : Nat :=
  (digits.filterMap asciiDigit?).foldl
    (fun value digit => roundWhole (roundWhole (10 * value) + digit)) 0

/-- The numerator and denominator of a power of ten rounded to floating point. -/
def roundedPower (exponent : Nat) : Nat × Nat :=
  match Binary64.ofRatio false (Nat.pow 10 exponent) 1 with
  | .finite _ mantissa power => (mantissa * Nat.pow 2 power.toNat, Nat.pow 2 (-power).toNat)
  | _ => (1, 1)

/-- A whole number times a power of ten, rounded. -/
def scale (negative : Bool) (value : Nat) (exponent : Int) : Binary64 :=
  if value = 0 ∨ exponent < -700 then .finite negative 0 Binary64.minExponent
  else if 308 < exponent then .infinite negative
  else
    let (numerator, denominator) := roundedPower (min exponent.natAbs 308)
    if 0 ≤ exponent then Binary64.ofRatio negative (value * numerator) denominator
    else
      let excess := Nat.pow 10 (exponent.natAbs - 308)
      Binary64.ofRatio negative (value * denominator) (numerator * excess)

/-- The exponent part of a numeral, zero when it is missing, and what follows. -/
def exponentPart (characters : List Char) : Option (Int × List Char) :=
  match characters with
  | mark :: rest =>
      if mark = 'e' ∨ mark = 'E' then
        let (negative, body) := splitSign rest
        let digits := body.takeWhile Char.isDigit
        let magnitude := positional (digits.filterMap asciiDigit?)
        if digits.isEmpty then none
        else some (if negative then -(magnitude : Int) else magnitude, body.dropWhile Char.isDigit)
      else
        some (0, characters)
  | [] => some (0, [])

/-- The number of a numeral with a point or an exponent between blanks. -/
def numeral? (word : String) : Option Binary64 := do
  let (negative, body) := splitSign (word.toList.dropWhile isSpace)
  let whole := body.takeWhile Char.isDigit
  let (fraction, rest) :=
    match body.dropWhile Char.isDigit with
    | '.' :: rest => (rest.takeWhile Char.isDigit, rest.dropWhile Char.isDigit)
    | rest => ([], rest)
  let counted := whole.take maxFloatDigits
  let decimals := fraction.take (maxFloatDigits - counted.length)
  guard !(counted ++ decimals).isEmpty
  let (exponent, rest) ← exponentPart rest
  guard (rest.all isSpace)
  let dropped : Int := whole.length - counted.length
  return scale negative (accumulate (counted ++ decimals)) (dropped - decimals.length + exponent)

/-- A word in small letters of ASCII. -/
def lower (word : String) : String :=
  String.ofList (word.toList.map Char.toLower)

/-- The floating-point number of a word. -/
def float? (word : String) : Option Binary64 :=
  match numeral? word with
  | some number => some number
  | none =>
      if ["inf", "+inf", "infinity", "+infinity"].contains (lower word) then some (.infinite false)
      else if ["-inf", "-infinity"].contains (lower word) then some (.infinite true)
      else none

/-- The whole number that a floating-point number equals, if it fits. -/
def wholeOf? (number : Option Binary64) : Option Int := do
  let number ← number
  guard number.isWhole
  (← number.truncate?) |> fun value => if fitsSigned value then some value else none

/-! ## Columns -/

/-- The whole number of a truth value. -/
def truth? (word : String) : Option Int :=
  if lower word = "true" then some 1 else if lower word = "false" then some 0 else none

/-- Read a missing value as it is and a word by a partial function. -/
def optionalWord {α : Type} (read : String → Option α) : Option String → Option (Option α)
  | none => some none
  | some word => (read word).map some

/-- The fault of a column of words of all kinds: the first word that is no whole
number, or the words themselves. -/
def wordsFault (position : Nat) : List (Option String) → Fault
  | [] => .lossy .words position
  | none :: _ => .missingWord
  | some word :: rest =>
      match wholeNumber word with
      | .error error => .word error
      | .ok value => if fitsSigned value then wordsFault position rest else .wordOverflow

/-- The whole numbers of a column with a word that is no plain whole number. -/
def otherIntegers (position : Nat) (words : List (Option String)) : Except Fault (List Int) :=
  match words.mapM (optionalWord float?) with
  | some numbers =>
      match numbers.mapM wholeOf? with
      | some values => .ok values
      | none => .error (.lossy .floatingPoint position)
  | none =>
      match words.mapM (optionalWord truth?) with
      | some truths =>
          match truths.mapM id with
          | some values => .ok values
          | none => .error (.missingTruth position)
      | none => .error (wordsFault position words)

/-- The whole numbers of a column. -/
def integers (position : Nat) (texts : List String) : Except Fault (List Int) :=
  let words := texts.map word?
  match words.mapM (readWord (boundedWord fitsSigned)) with
  | .ok values =>
      match values.mapM id with
      | some values => .ok values
      | none => .error (.missing position)
  | .error .form => otherIntegers position words
  | .error .overflow =>
      match unsignedFault position words with
      | some fault => .error fault
      | none => otherIntegers position words

end DepositYield.Text.Column
