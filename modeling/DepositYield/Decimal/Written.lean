import DepositYield.Decimal.Text

/-!
# Decimals as they are given

Inputs give a decimal as a value or as a text.  A text is read where the decimal is
needed, so that a text which denotes none does no harm elsewhere.
-/

namespace DepositYield.Decimal

/-- A decimal as it is given: as a value, or as a text that may denote none. -/
inductive Written where
  | value (decimal : Decimal)
  | text (numeral : String)
  deriving DecidableEq, Repr

namespace Written

/-- The decimal that is given. -/
def read : Written → Except Signal Decimal
  | .value decimal => .ok decimal
  | .text numeral => Decimal.ofText numeral

@[simp]
theorem read_value (decimal : Decimal) : (Written.value decimal).read = .ok decimal :=
  rfl

/-- The text of a decimal that is given. -/
def toText : Written → String
  | .value decimal => decimal.toText
  | .text numeral => numeral

end Written

end DepositYield.Decimal
