/-!
# Sets of characters

A large set of characters is given by its boundaries: the ascending code points
at which membership changes, beginning outside the set.
-/

namespace DepositYield.Text

/-- Whether a code point lies in the set with the given boundaries. -/
def insideBoundaries (boundaries : List Nat) (code : Nat) : Bool :=
  match boundaries with
  | [] => false
  | [first] => first ≤ code
  | first :: last :: rest =>
      if code < first then false else if code < last then true else insideBoundaries rest code

end DepositYield.Text
