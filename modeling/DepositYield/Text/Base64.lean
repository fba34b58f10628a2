import DepositYield.Text.Digit

/-!
# Bytes in base 64

Four characters stand for three bytes.  Characters outside the alphabet do not count,
and the text ends at the equals signs that fill up its last four characters.
-/

namespace DepositYield.Text.Base64

/-- The six bits of a character of the alphabet. -/
def sextet? (character : Char) : Option Nat :=
  let code := character.toNat
  if 'A' ≤ character ∧ character ≤ 'Z' then some (code - 65)
  else if 'a' ≤ character ∧ character ≤ 'z' then some (code - 71)
  else if character.isDigit then some (code + 4)
  else if character = '+' then some 62
  else if character = '/' then some 63
  else none

/-- Bits that wait for the rest of their byte. -/
structure Pending where
  /-- The characters of the current four that have been read. -/
  characters : Nat
  bits : Nat
  /-- The equals signs since the last of them. -/
  fillers : Nat

/-- The bytes that characters complete after pending ones; `none` if the characters
end within a byte. -/
def bytesAfter (pending : Pending) : List Char → Option (List UInt8)
  | [] => if pending.characters = 0 then some [] else none
  | first :: rest =>
      if first = '=' then
        let fillers := if 2 ≤ pending.characters then pending.fillers + 1 else pending.fillers
        if 2 ≤ pending.characters ∧ 4 ≤ pending.characters + fillers then some []
        else bytesAfter { pending with fillers } rest
      else
        match sextet? first with
        | none => bytesAfter pending rest
        | some sextet =>
            let bits := 64 * pending.bits + sextet
            match pending.characters with
            | 0 => bytesAfter { characters := 1, bits, fillers := 0 } rest
            | 1 => do
                let others ← bytesAfter { characters := 2, bits := bits % 16, fillers := 0 } rest
                return UInt8.ofNat (bits / 16) :: others
            | 2 => do
                let others ← bytesAfter { characters := 3, bits := bits % 4, fillers := 0 } rest
                return UInt8.ofNat (bits / 4) :: others
            | _ => do
                let others ← bytesAfter { characters := 0, bits := 0, fillers := 0 } rest
                return UInt8.ofNat bits :: others

/-- The bytes of a text. -/
def decode? (text : String) : Option (List UInt8) :=
  bytesAfter { characters := 0, bits := 0, fillers := 0 } text.toList

end DepositYield.Text.Base64
