import DepositYield.Yaml.Cursor
import DepositYield.Yaml.Fault
import DepositYield.Text.Surrogate

/-!
# Quoted scalars

Between single quotes a quote is written twice, between double quotes characters can
be escaped.  Lines are joined by blanks, and blanks at their ends do not count.
-/

namespace DepositYield.Yaml

/-- The characters that are escaped by one character. -/
def escapedCharacter? : Char → Option Char
  | '0' => some '\x00'
  | 'a' => some '\x07'
  | 'b' => some '\x08'
  | 't' => some '\t'
  | '\t' => some '\t'
  | 'n' => some '\n'
  | 'v' => some '\x0b'
  | 'f' => some '\x0c'
  | 'r' => some '\r'
  | 'e' => some '\x1b'
  | ' ' => some ' '
  | '"' => some '"'
  | '\\' => some '\\'
  | '/' => some '/'
  | 'N' => some '\u0085'
  | '_' => some '\u00a0'
  | 'L' => some '\u2028'
  | 'P' => some '\u2029'
  | _ => none

/-- The number of digits of an escaped code. -/
def codeWidth? : Char → Option Nat
  | 'x' => some 2
  | 'u' => some 4
  | 'U' => some 8
  | _ => none

/-- The character of an escaped code. -/
def characterOfCode (code : Nat) : Except Fault Char :=
  if code < 0x110000 then .ok (Text.Surrogate.ofCode code)
  else if code < Nat.pow 2 31 then .error .largeCode
  else .error .hugeCode

/-- The number that hexadecimal digits denote. -/
def codeOfDigits (digits : List Nat) : Nat :=
  digits.foldl (fun code digit => 16 * code + digit) 0

/-- The character of the code whose digits follow. -/
def readCode (width : Nat) (cursor : Cursor) : Except Fault (Char × Cursor) :=
  match (cursor.rest.take width).mapM hexDigit? with
  | some digits =>
      if digits.length = width then
        (characterOfCode (codeOfDigits digits)).map fun character => (character, cursor.skip width)
      else
        .error (.token (.escape none))
  | none => .error (.token (.escape none))

/-- The white space at the start of a line between quotes, and its line breaks. -/
def readLineStart (cursor : Cursor) : Except Fault (List Char × Cursor) :=
  let (gap, after) := cursor.span isGap
  if after.atSeparator then .error (.token .unclosedQuote) else .ok (breaksOf gap, after)

/-- What white space between quotes stands for. -/
def readQuotedGap (cursor : Cursor) : Except Fault (List Char × Cursor) := do
  let (blanks, after) := cursor.span isSpace
  match after.lineBreak? with
  | none => return (blanks, after)
  | some (first, nextLine) =>
      let (breaks, after) ← readLineStart nextLine
      return (foldBreaks first breaks, after)

/-- What an escape stands for, from the character after the backslash on. -/
def readEscape (cursor : Cursor) : Except Fault (List Char × Cursor) :=
  match cursor.rest with
  | [] => .error (.token (.escape none))
  | mark :: _ =>
      match escapedCharacter? mark, codeWidth? mark with
      | some character, _ => .ok ([character], cursor.next)
      | none, some width =>
          (readCode width cursor.next).map fun (character, after) => ([character], after)
      | none, none =>
          if isBreak mark then readLineStart cursor.next
          else .error (.token (.escape (some mark)))

/-- The next part of a quoted scalar, `none` for its end. -/
def readQuotedPart (quote : Char) (cursor : Cursor) :
    Except Fault (Option (List Char) × Cursor) := do
  match cursor.rest with
  | [] => throw (.token .unclosedQuote)
  | first :: rest =>
      if isGap first then
        let (text, after) ← readQuotedGap cursor
        return (some text, after)
      else if first = quote then
        if quote = '\'' ∧ rest.head? = some quote then return (some [quote], cursor.skip 2)
        else return (none, cursor.next)
      else if first = '\\' ∧ quote = '"' then
        let (text, after) ← readEscape cursor.next
        return (some text, after)
      else
        return (some [first], cursor.next)

/-- The text of a quoted scalar after its first quote, and the place after its last
one. -/
def readQuoted (quote : Char) (limit : Nat) (cursor : Cursor) : Except Fault (List Char × Cursor) :=
  match limit with
  | 0 => .error (.token .unclosedQuote)
  | limit + 1 => do
      match ← readQuotedPart quote cursor with
      | (none, after) => return ([], after)
      | (some part, after) =>
          let (text, last) ← readQuoted quote limit after
          return (part ++ text, last)

end DepositYield.Yaml
