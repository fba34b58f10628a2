/-!
# Blank characters

Blanks around a numeral carry no meaning.  The blanks are the white space and
the separators of Unicode; numerals of arithmetic also allow the information
separators of ASCII.
-/

namespace DepositYield.Text

/-- White space or a line break. -/
def isWhiteSpace (character : Char) : Bool :=
  let code := character.toNat
  (0x09 ≤ code && code ≤ 0x0d) || code == 0x20 || code == 0x85 || code == 0xa0 || code == 0x1680
    || (0x2000 ≤ code && code ≤ 0x200a) || code == 0x2028 || code == 0x2029 || code == 0x202f
    || code == 0x205f || code == 0x3000

/-- White space, a line break or an information separator. -/
def isBlank (character : Char) : Bool :=
  isWhiteSpace character || (0x1c ≤ character.toNat && character.toNat ≤ 0x1f)

/-- Drop the characters of a class at both ends. -/
def trimWhere (drops : Char → Bool) (characters : List Char) : List Char :=
  ((characters.dropWhile drops).reverse.dropWhile drops).reverse

/-- Drop the blanks at both ends. -/
def trimBlanks (characters : List Char) : List Char :=
  trimWhere isBlank characters

end DepositYield.Text
