import DepositYield.Text.Whole

/-!
# Lines

Messages and cells of tables are lines, made of words and whole numbers.  The
whole numbers are kept apart because a line that shows too long a one is not written.
-/

namespace DepositYield.Text

/-- A piece of a line. -/
inductive Piece where
  | words (text : String)
  | whole (value : Int)
  deriving DecidableEq, Repr

instance : Coe String Piece := ⟨.words⟩

namespace Piece

/-- The characters of a piece. -/
def text : Piece → String
  | .words text => text
  | .whole value => toString value

/-- The whole number that a piece shows. -/
def whole? : Piece → Option Int
  | .words _ => none
  | .whole value => some value

end Piece

/-- Words and whole numbers that follow each other. -/
abbrev Line := List Piece

namespace Line

/-- The characters of a line. -/
def text (line : Line) : String :=
  String.join (line.map Piece.text)

/-- The whole numbers that a line shows. -/
def wholes (line : Line) : List Int :=
  line.filterMap Piece.whole?

/-- What is written of a line. -/
def write (line : Line) : Except Unwritable String :=
  written line.wholes line.text

end Line

end DepositYield.Text
