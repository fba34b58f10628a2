import DepositYield.Text.Case
import Mathlib.Data.List.Basic

/-!
# Lower case is settled

A text in lower case is its own lower case: no run of the table covers what another run
leads to, and the special letters are never a result.  On texts of ASCII the lower case is
that of each letter on its own.
-/

namespace DepositYield.Text

/-! ## Runs of letters -/

/-- A run of letters: the first and the last code point, the step from letter to letter, and
the distance to the lower case. -/
abbrev Run : Type := Nat × Nat × Nat × Int

namespace Run

/-- Whether a code point is that of a letter of the run. -/
def covers (run : Run) (code : Nat) : Bool :=
  run.1 ≤ code && code ≤ run.2.1 && (code - run.1) % run.2.2.1 == 0

/-- The code point that the run leads a letter to. -/
def lowered (run : Run) (code : Nat) : Nat :=
  (code + run.2.2.2).toNat

/-- Whether the run leads to characters only. -/
def isSound (run : Run) : Bool :=
  0 ≤ run.1 + run.2.2.2 &&
    (run.lowered run.2.1 < 0xd800 || 0xdfff < run.lowered run.1 && run.lowered run.2.1 < 0x110000)

/-- Whether the run leads to no letter between two code points at a step from the first. -/
def avoids (run : Run) (first last step : Nat) : Bool :=
  Nat.blt (run.lowered run.2.1) first || Nat.blt last (run.lowered run.1) ||
    step == 2 && (run.2.2.1 == 2 || run.1 == run.2.1) && (run.lowered run.1 + first) % 2 == 1

variable {run : Run} {code : Nat}

theorem bounds_of_covers (covered : run.covers code) :
    run.1 ≤ code ∧ code ≤ run.2.1 ∧ (code - run.1) % run.2.2.1 = 0 := by
  simpa [covers, and_assoc] using covered

theorem lowered_bounds (sound : run.isSound) (covered : run.covers code) :
    run.lowered run.1 ≤ run.lowered code ∧ run.lowered code ≤ run.lowered run.2.1 ∧
      run.lowered code = code - run.1 + run.lowered run.1 := by
  obtain ⟨first, last, -⟩ := bounds_of_covers covered
  simp only [isSound, Bool.and_eq_true, decide_eq_true_eq] at sound
  unfold lowered at *
  omega

theorem toNat_lowered (sound : run.isSound) (covered : run.covers code) :
    (Char.ofNat (run.lowered code)).toNat = run.lowered code := by
  have bounds := lowered_bounds sound covered
  simp only [isSound, Bool.and_eq_true, Bool.or_eq_true, decide_eq_true_eq] at sound
  have valid : (run.lowered code).isValidChar := by
    unfold Nat.isValidChar
    omega
  rw [Char.ofNat, dif_pos valid]
  rfl

/-- Where a run avoids letters, it leads to none of them. -/
theorem not_covers_lowered {other : Run} (sound : run.isSound)
    (avoided : run.avoids other.1 other.2.1 other.2.2.1) (covered : run.covers code) :
    other.covers (run.lowered code) = false := by
  obtain ⟨first, last, step⟩ := bounds_of_covers covered
  have bounds := lowered_bounds sound covered
  simp only [avoids, Bool.and_eq_true, Bool.or_eq_true, Nat.blt_eq, beq_iff_eq] at avoided
  rw [Bool.eq_false_iff]
  intro reached
  obtain ⟨otherFirst, otherLast, otherStep⟩ := bounds_of_covers reached
  rcases avoided with (below | above) | ⟨⟨two, alternates⟩, odd⟩
  · omega
  · omega
  · rw [two] at otherStep
    rcases alternates with two | single
    · rw [two] at step
      omega
    · omega

end Run

theorem lowerCaseRuns_settled :
    lowerCaseRuns.all fun run : Run => run.isSound && run.avoids 0x130 0x130 1 &&
      run.avoids 0x3a3 0x3a3 1 &&
      lowerCaseRuns.all fun other : Run => run.avoids other.1 other.2.1 other.2.2.1 := by
  decide +kernel

/-! ## Characters -/

/-- A character that lower case leaves as it is. -/
structure IsLowered (character : Char) : Prop where
  notDottedI : character ≠ '\u0130'
  notSigma : character ≠ '\u03a3'
  fixed : lowerCharacter character = character

/-- A character is led on by a run that covers it; one that no run covers stays as it is. -/
theorem lowerCharacter_cases (character : Char) :
    (∃ run : Run, run ∈ lowerCaseRuns ∧ run.covers character.toNat ∧
        lowerCharacter character = Char.ofNat (run.lowered character.toNat)) ∨
      lowerCharacter character = character := by
  unfold lowerCharacter
  dsimp only
  split
  · next first last step distance found =>
      have covered := List.find?_some (p := fun run : Run => run.covers character.toNat) found
      exact .inl ⟨(first, last, step, distance), List.mem_of_find?_eq_some found, covered, rfl⟩
  · exact .inr rfl

/-- The lower case of a character is settled. -/
theorem isLowered_lowerCharacter {character : Char} (notDottedI : character ≠ '\u0130')
    (notSigma : character ≠ '\u03a3') : IsLowered (lowerCharacter character) := by
  rcases lowerCharacter_cases character with ⟨run, inside, covered, value⟩ | fixed
  · have settled := List.all_eq_true.mp lowerCaseRuns_settled run inside
    simp only [Bool.and_eq_true, List.all_eq_true] at settled
    obtain ⟨⟨⟨sound, dottedI⟩, sigma⟩, others⟩ := settled
    have avoided : ∀ other : Run, run.avoids other.1 other.2.1 other.2.2.1 →
        other.covers (lowerCharacter character).toNat = false := by
      intro other avoids
      rw [value, Run.toNat_lowered sound covered]
      exact Run.not_covers_lowered sound avoids covered
    refine ⟨?_, ?_, ?_⟩
    · intro isDottedI
      have uncovered := avoided (0x130, 0x130, 1, 0) dottedI
      rw [isDottedI] at uncovered
      exact absurd uncovered (by decide)
    · intro isSigma
      have uncovered := avoided (0x3a3, 0x3a3, 1, 0) sigma
      rw [isSigma] at uncovered
      exact absurd uncovered (by decide)
    · rcases lowerCharacter_cases (lowerCharacter character) with
        ⟨other, otherInside, reached, -⟩ | fixed
      · rw [avoided other (others other otherInside)] at reached
        contradiction
      · exact fixed
  · rw [fixed]
    exact ⟨notDottedI, notSigma, fixed⟩

/-! ## Texts -/

theorem isLowered_of_mem_lowerFrom {before characters : List Char} :
    ∀ character ∈ lowerFrom before characters, IsLowered character := by
  induction characters generalizing before with
  | nil => simp [lowerFrom]
  | cons first rest ih =>
      intro character inside
      rcases List.mem_append.mp inside with among | after
      · by_cases dottedI : first = '\u0130'
        · rw [if_pos dottedI] at among
          simp only [List.mem_cons, List.not_mem_nil, or_false] at among
          rcases among with rfl | rfl <;> constructor <;> decide
        rw [if_neg dottedI] at among
        by_cases sigma : first = '\u03a3'
        · have small : character = '\u03c2' ∨ character = '\u03c3' := by
            rw [if_pos sigma] at among
            split at among
            · exact .inl (List.mem_singleton.mp among)
            · exact .inr (List.mem_singleton.mp among)
          rcases small with rfl | rfl <;> constructor <;> decide
        rw [if_neg sigma, List.mem_singleton] at among
        rw [among]
        exact isLowered_lowerCharacter dottedI sigma
      · exact ih character after

theorem lowerFrom_eq_self {before characters : List Char}
    (lowered : ∀ character ∈ characters, IsLowered character) :
    lowerFrom before characters = characters := by
  induction characters generalizing before with
  | nil => rfl
  | cons first rest ih =>
      obtain ⟨isLowered, restLowered⟩ := List.forall_mem_cons.mp lowered
      unfold lowerFrom
      rw [if_neg isLowered.notDottedI, if_neg isLowered.notSigma, isLowered.fixed, ih restLowered]
      rfl

/-- A text in lower case is its own lower case. -/
@[simp]
theorem lowerCase_lowerCase (text : String) : lowerCase (lowerCase text) = lowerCase text := by
  have settled : lowerFrom [] (lowerFrom [] text.toList) = lowerFrom [] text.toList :=
    lowerFrom_eq_self isLowered_of_mem_lowerFrom
  unfold lowerCase
  rw [String.toList_ofList, settled]

/-! ## Texts of ASCII -/

/-- A text whose characters are all of ASCII. -/
def IsAscii (text : String) : Prop :=
  ∀ character ∈ text.toList, character.toNat < 128

instance : DecidablePred IsAscii :=
  fun text => List.decidableBAll (fun character : Char => character.toNat < 128) text.toList

/-- A letter of ASCII that a run covers is one of the capitals from A to Z. -/
theorem capital_of_covers {run : Run} {code : Nat} (inside : run ∈ lowerCaseRuns)
    (ascii : code < 128) (covered : run.covers code) : 65 ≤ code ∧ code ≤ 90 := by
  have beginnings : lowerCaseRuns.all fun run : Run =>
      Nat.ble 128 run.1 || Nat.ble 65 run.1 && Nat.ble run.2.1 90 := by
    decide
  have beginning := List.all_eq_true.mp beginnings run inside
  simp only [Bool.or_eq_true, Bool.and_eq_true, Nat.ble_eq] at beginning
  have bounds := Run.bounds_of_covers covered
  omega

theorem lowerCharacter_ascii {character : Char} (ascii : character.toNat < 128) :
    lowerCharacter character = character.toLower := by
  by_cases capital : 65 ≤ character.toNat ∧ character.toNat ≤ 90
  · have capitals : ∀ place < 26,
        lowerCharacter (Char.ofNat (65 + place)) = (Char.ofNat (65 + place)).toLower := by
      decide
    have same := capitals (character.toNat - 65) (by omega)
    rwa [Nat.add_sub_cancel' capital.1, Char.ofNat_toNat] at same
  · rcases lowerCharacter_cases character with ⟨run, inside, covered, -⟩ | fixed
    · exact absurd (capital_of_covers inside ascii covered) capital
    · have unmoved : character.toLower = character := dif_neg capital
      rw [fixed, unmoved]

theorem lowerFrom_ascii {before characters : List Char}
    (ascii : ∀ character ∈ characters, character.toNat < 128) :
    lowerFrom before characters = characters.map Char.toLower := by
  induction characters generalizing before with
  | nil => rfl
  | cons first rest ih =>
      obtain ⟨isAscii, restAscii⟩ := List.forall_mem_cons.mp ascii
      have notDottedI : first ≠ '\u0130' := by
        rintro rfl
        contradiction
      have notSigma : first ≠ '\u03a3' := by
        rintro rfl
        contradiction
      unfold lowerFrom
      rw [if_neg notDottedI, if_neg notSigma, lowerCharacter_ascii isAscii, ih restAscii]
      rfl

/-- The lower case of a text of ASCII is that of each letter. -/
theorem lowerCase_ascii {text : String} (ascii : IsAscii text) :
    lowerCase text = String.ofList (text.toList.map Char.toLower) := by
  unfold lowerCase
  rw [lowerFrom_ascii ascii]

end DepositYield.Text
