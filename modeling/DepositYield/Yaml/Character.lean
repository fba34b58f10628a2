/-!
# Characters of YAML

White space separates tokens, line breaks separate lines, and some characters must
not occur at all.
-/

namespace DepositYield.Yaml

/-- A line break: a line feed, a next line, a line separator or a paragraph
separator. -/
def isBreak (character : Char) : Bool :=
  character = '\n' || character = '\u0085' || character = '\u2028' || character = '\u2029'

/-- A line break as it stands in a text: a next line becomes a line feed. -/
def plainBreak (character : Char) : Char :=
  if character = '\u0085' then '\n' else character

/-- A blank or a tab. -/
def isSpace (character : Char) : Bool :=
  character = ' ' || character = '\t'

/-- White space within a line or a line break. -/
def isGap (character : Char) : Bool :=
  isSpace character || isBreak character

/-- Whether characters end, or go on with white space. -/
def atGap (characters : List Char) : Bool :=
  characters.head?.all isGap

/-- Whether characters end, or go on with a line break. -/
def atLineEnd (characters : List Char) : Bool :=
  characters.head?.all isBreak

/-- Whether characters end, or go on with a blank or a line break. -/
def atBlank (characters : List Char) : Bool :=
  characters.head?.all fun character => character = ' ' || isBreak character

/-- A character of a name. -/
def isNameCharacter (character : Char) : Bool :=
  character.isAlphanum || character = '-' || character = '_'

/-- A hexadecimal digit of either case. -/
def hexDigit? (character : Char) : Option Nat :=
  if character.isDigit then some (character.toNat - 48)
  else if 'a' ≤ character ∧ character ≤ 'f' then some (character.toNat - 87)
  else if 'A' ≤ character ∧ character ≤ 'F' then some (character.toNat - 55)
  else none

/-- The ranges of the characters that may occur. -/
def permittedRanges : List (Nat × Nat) :=
  [(0x09, 0x0a), (0x0d, 0x0d), (0x20, 0x7e), (0x85, 0x85), (0xa0, 0xd7ff), (0xe000, 0xfffd),
    (0x10000, 0x10ffff)]

/-- Whether a character may occur. -/
def isPermitted (character : Char) : Bool :=
  permittedRanges.any fun (first, last) => first ≤ character.toNat && character.toNat ≤ last

/-- Characters with a line feed for every carriage return, alone or with a line feed
after it. -/
def unifyReturns : List Char → List Char
  | [] => []
  | '\r' :: '\n' :: rest => '\n' :: unifyReturns rest
  | '\r' :: rest => '\n' :: unifyReturns rest
  | character :: rest => character :: unifyReturns rest

end DepositYield.Yaml
