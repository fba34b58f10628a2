import DepositYield.Text.Surrogate
import Mathlib.Data.List.Chain
import Mathlib.Data.List.Lex

/-!
# Code points and their units

Texts are told apart by their code points: a stand-in counts as the half of a surrogate pair
that it represents, and no character has the code point of a half.

A code point is one unit of UTF-16 or a pair of them.  Units are joined to code points again;
what is lost is only the border between a lone first half and a lone second half after it.
-/

namespace DepositYield.Text.Surrogate

theorem code_eq (character : Char) :
    code character =
      if firstStandIn ≤ character.toNat ∧ character.toNat < firstStandIn + unitCount then
        firstUnit + (character.toNat - firstStandIn)
      else character.toNat := by
  unfold code unit?
  simp only
  split
  · rw [Option.getD_some]
  · rw [Option.getD_none]

theorem code_lt (character : Char) : code character < 0x110000 := by
  have valid := character.valid
  unfold UInt32.isValidChar Nat.isValidChar at valid
  simp only [Char.toNat_val] at valid
  rw [code_eq]
  unfold firstStandIn unitCount firstUnit
  split <;> omega

theorem ofCode_code (character : Char) : ofCode (code character) = character := by
  have valid := character.valid
  unfold UInt32.isValidChar Nat.isValidChar at valid
  simp only [Char.toNat_val] at valid
  by_cases standsIn : firstStandIn ≤ character.toNat ∧ character.toNat < firstStandIn + unitCount
  · have half : code character = firstUnit + (character.toNat - firstStandIn) :=
      (code_eq character).trans (if_pos standsIn)
    have isHalf : isUnit (code character) = true := by
      unfold isUnit
      rw [half, Bool.and_eq_true, decide_eq_true_eq, decide_eq_true_eq]
      omega
    have restored : firstStandIn + (code character - firstUnit) = character.toNat := by omega
    unfold ofCode
    rw [if_pos isHalf, restored, Char.ofNat_toNat]
  · have own : code character = character.toNat := (code_eq character).trans (if_neg standsIn)
    have notHalf : isUnit character.toNat = false := by
      unfold isUnit firstUnit unitCount
      rw [Bool.and_eq_false_iff, decide_eq_false_iff_not, decide_eq_false_iff_not]
      omega
    unfold ofCode
    rw [own, notHalf, if_neg Bool.false_ne_true, Char.ofNat_toNat]

theorem code_injective : Function.Injective code :=
  Function.LeftInverse.injective ofCode_code

theorem codes_injective : Function.Injective codes := by
  intro left right same
  exact String.toList_inj.mp (code_injective.list_map same)

/-- Of two different texts, one comes first. -/
theorem codes_lt_or_gt {left right : String} (different : left ≠ right) :
    codes left < codes right ∨ codes right < codes left :=
  lt_or_gt_of_ne fun same => different (codes_injective same)

theorem ofCode_codes (text : String) : String.ofList ((codes text).map ofCode) = text := by
  have restored : ofCode ∘ code = id := funext ofCode_code
  unfold codes
  rw [List.map_map, restored, List.map_id, String.ofList_toList]

/-! ## Units -/

/-- The first half of a pair. -/
def IsFirstHalf (unit : Nat) : Prop :=
  0xd800 ≤ unit ∧ unit < 0xdc00

/-- The second half of a pair. -/
def IsSecondHalf (unit : Nat) : Prop :=
  0xdc00 ≤ unit ∧ unit < 0xe000

instance : DecidablePred IsFirstHalf :=
  fun _ => inferInstanceAs (Decidable (_ ∧ _))

instance : DecidablePred IsSecondHalf :=
  fun _ => inferInstanceAs (Decidable (_ ∧ _))

/-- The units of a code point. -/
def units (code : Nat) : List Nat :=
  if code < 0x10000 then [code]
  else [0xd800 + (code - 0x10000) / 0x400, 0xdc00 + (code - 0x10000) % 0x400]

/-- The code points of units: two halves of a pair are joined. -/
def join : List Nat → List Nat
  | first :: second :: rest =>
      if IsFirstHalf first ∧ IsSecondHalf second then
        (0x10000 + 0x400 * (first - 0xd800) + (second - 0xdc00)) :: join rest
      else
        first :: join (second :: rest)
  | units => units

/-- No lone first half stands directly before a lone second half. -/
def KeepsPairs (codes : List Nat) : Prop :=
  codes.IsChain fun first second => ¬(IsFirstHalf first ∧ IsSecondHalf second)

instance : DecidablePred KeepsPairs :=
  fun codes => inferInstanceAs (Decidable (codes.IsChain _))

theorem join_pair {code : Nat} (large : 0x10000 ≤ code) (valid : code < 0x110000)
    (rest : List Nat) : join (units code ++ rest) = code :: join rest := by
  have halves : IsFirstHalf (0xd800 + (code - 0x10000) / 0x400) ∧
      IsSecondHalf (0xdc00 + (code - 0x10000) % 0x400) := by
    unfold IsFirstHalf IsSecondHalf
    omega
  have joined : 0x10000 + 0x400 * (0xd800 + (code - 0x10000) / 0x400 - 0xd800) +
      (0xdc00 + (code - 0x10000) % 0x400 - 0xdc00) = code := by omega
  unfold units
  rw [if_neg (by omega), List.cons_append, List.cons_append, List.nil_append, join,
    if_pos halves, joined]

theorem join_cons {unit : Nat} {rest : List Nat}
    (lone : ∀ next ∈ rest.head?, ¬(IsFirstHalf unit ∧ IsSecondHalf next)) :
    join (unit :: rest) = unit :: join rest := by
  cases rest with
  | nil => rfl
  | cons next rest => rw [join, if_neg (lone next rfl)]

/-- The units of code points are joined to the same code points. -/
theorem join_flatMap_units {codes : List Nat} (valid : ∀ code ∈ codes, code < 0x110000)
    (kept : KeepsPairs codes) : join (codes.flatMap units) = codes := by
  induction codes with
  | nil => rfl
  | cons code rest ih =>
      obtain ⟨codeValid, restValid⟩ := List.forall_mem_cons.mp valid
      have restKept : KeepsPairs rest := kept.tail
      rw [List.flatMap_cons]
      by_cases large : 0x10000 ≤ code
      · rw [join_pair large codeValid, ih restValid restKept]
      · have single : units code = [code] := if_pos (by omega)
        rw [single, List.singleton_append, join_cons, ih restValid restKept]
        -- The next unit is the next code point or the first half of its pair.
        cases rest with
        | nil => simp
        | cons next rest =>
            have lone : ¬(IsFirstHalf code ∧ IsSecondHalf next) := (List.isChain_cons_cons.mp kept).1
            rw [List.flatMap_cons]
            unfold units
            split
            · simpa using lone
            · have nextValid : next < 0x110000 := restValid next (.head _)
              rintro first ⟨⟩ ⟨-, second⟩
              unfold IsSecondHalf at second
              omega

/-- Texts of ASCII have no halves. -/
theorem keepsPairs_codes_of_ascii {text : String}
    (ascii : ∀ character ∈ text.toList, character.toNat < 128) : KeepsPairs (codes text) := by
  have small : ∀ unit ∈ codes text, unit < 128 := by
    refine List.forall_mem_map.mpr fun character inside => ?_
    have below := ascii character inside
    rw [code_eq, if_neg (fun standsIn => ?_)]
    · exact below
    · unfold firstStandIn at standsIn
      omega
  refine (List.pairwise_of_forall_mem_list fun first inside second _ halves => ?_).isChain
  have below := small first inside
  unfold IsFirstHalf at halves
  omega

end DepositYield.Text.Surrogate
