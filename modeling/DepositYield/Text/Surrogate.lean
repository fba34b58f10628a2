/-!
# Halves of surrogate pairs

Escapes can name one half of a surrogate pair, which is no character of its own.  In
texts a lone half is represented by one of the last characters for private use.
-/

namespace DepositYield.Text.Surrogate

/-- The first code of a half. -/
def firstUnit : Nat := 0xd800

/-- The number of halves. -/
def unitCount : Nat := 0x800

/-- The code of the character that represents the first half. -/
def firstStandIn : Nat := 0x10f000

/-- Whether a code is one of a half. -/
def isUnit (code : Nat) : Bool :=
  firstUnit ≤ code && code < firstUnit + unitCount

/-- The character of a code; a half is represented by its stand-in. -/
def ofCode (code : Nat) : Char :=
  if isUnit code then Char.ofNat (firstStandIn + (code - firstUnit)) else Char.ofNat code

/-- The half that a character represents. -/
def unit? (character : Char) : Option Nat :=
  let code := character.toNat
  if firstStandIn ≤ code ∧ code < firstStandIn + unitCount then
    some (firstUnit + (code - firstStandIn))
  else
    none

/-- The code point of a character; a stand-in counts as the half that it represents. -/
def code (character : Char) : Nat :=
  (unit? character).getD character.toNat

/-- The code points of a text. -/
def codes (text : String) : List Nat :=
  text.toList.map code

/-- Whether a text holds a lone half. -/
def occursIn (text : String) : Bool :=
  text.toList.any fun character => (unit? character).isSome

end DepositYield.Text.Surrogate
