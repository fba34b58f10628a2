/-!
# Widths of columns

A column of whole numbers is held in the narrowest width that fits all of its
values: 64 bits with a sign, 64 bits without one, or no bound at all.
-/

namespace DepositYield

/-- The width in which a column of integers is held. -/
inductive ColumnWidth where
  | signed
  | unsigned
  | unbounded
  deriving DecidableEq, Repr

namespace ColumnWidth

/-- The narrowest width that holds the values. -/
def ofValues (values : List Int) : ColumnWidth :=
  if values.all fun value => -Nat.pow 2 63 ≤ value && value < Nat.pow 2 63 then .signed
  else if values.all fun value => 0 ≤ value && value < Nat.pow 2 64 then .unsigned
  else .unbounded

/-- A whole number as the width holds it. -/
def wrap : ColumnWidth → Int → Int
  | .signed, value => value.bmod (Nat.pow 2 64)
  | .unsigned, value => value % Nat.pow 2 64
  | .unbounded, value => value

end ColumnWidth

end DepositYield
