import DepositYield.Proofs.Ledger.Moves
import Mathlib.Algebra.Order.BigOperators.Group.List
import Mathlib.Tactic.Linarith

/-!
# Taking out of a deposit in parts

When no value is given, a take removes the share of the deposit's value that goes with its
amount, with the fraction dropped.  Each part is taken from what the parts before it have
left, so what is dropped stays in the deposit and counts again.  Of the value there is left
at least the share of the amount that is left, and less than one unit more for each part.
-/

namespace DepositYield

/-! ## One share -/

section Share

variable {part value whole : Int}

theorem proportion_nonneg (partNonneg : 0 ≤ part) (wholeNonneg : 0 ≤ whole)
    (valueNonneg : 0 ≤ value) : 0 ≤ proportion part value whole :=
  Int.tdiv_nonneg (Int.mul_nonneg partNonneg valueNonneg) wholeNonneg

/-- A share is the exact one with the fraction dropped. -/
theorem mul_proportion_le (partNonneg : 0 ≤ part) (valueNonneg : 0 ≤ value) :
    whole * proportion part value whole ≤ part * value :=
  Int.mul_tdiv_self_le (Int.mul_nonneg partNonneg valueNonneg)

theorem lt_mul_proportion_add (part value : Int) (positive : 0 < whole) :
    part * value < whole * proportion part value whole + whole := by
  have dropped := Int.tmod_lt_of_pos (part * value) positive
  have exact := Int.mul_tdiv_add_tmod (part * value) whole
  unfold proportion
  omega

/-- The share of a part is not more than the value. -/
theorem proportion_le (partNonneg : 0 ≤ part) (within : part ≤ whole)
    (valueNonneg : 0 ≤ value) : proportion part value whole ≤ value := by
  rcases (partNonneg.trans within).eq_or_lt with none | positive
  · subst none
    exact (Int.tdiv_zero _).trans_le valueNonneg
  · refine le_of_mul_le_mul_left ?_ positive
    exact (mul_proportion_le partNonneg valueNonneg).trans
      (Int.mul_le_mul_of_nonneg_right within valueNonneg)

end Share

/-! ## Shares in a row -/

/-- What can be left of the value of an amount once so many parts were taken out of it and
`rest` of the amount is left. -/
structure ShareLeft (amount value : Int) (parts : Nat) (rest left : Int) : Prop where
  rest_le : rest ≤ amount
  nonneg : 0 ≤ left
  atLeast : rest * value ≤ amount * left
  atMost : amount * left ≤ rest * value + parts * (amount - 1)
  drained : rest = 0 → left = 0

namespace ShareLeft

variable {amount value rest left part : Int} {parts : Nat}

/-- Nothing was taken out yet. -/
theorem whole (positive : 0 < amount) (nonneg : 0 ≤ value) :
    ShareLeft amount value 0 amount value where
  rest_le := le_refl amount
  nonneg := nonneg
  atLeast := le_refl _
  atMost := by simp
  drained none := absurd none positive.ne'

/-- Another part leaves at least its share again, and drops less than one unit. -/
theorem take (share : ShareLeft amount value parts rest left) (positive : 0 < amount)
    (partNonneg : 0 ≤ part) (within : part ≤ rest) :
    ShareLeft amount value (parts + 1) (rest - part) (left - proportion part left rest) := by
  have fits := proportion_le partNonneg within share.nonneg
  have rest_le := share.rest_le
  rcases (partNonneg.trans within).eq_or_lt with none | remains
  · obtain rfl := none
    obtain rfl : part = 0 := le_antisymm within partNonneg
    obtain rfl := share.drained rfl
    have slack : 0 ≤ ((parts + 1 : Nat) : Int) * (amount - 1) :=
      Int.mul_nonneg (Int.natCast_nonneg _) (by omega)
    exact ⟨rest_le, le_refl 0, by simp [proportion], by simpa [proportion] using slack,
      fun _ => rfl⟩
  · have low : rest * proportion part left rest ≤ part * left :=
      mul_proportion_le partNonneg share.nonneg
    have high := lt_mul_proportion_add part left remains
    generalize proportion part left rest = removed at *
    -- The bounds are compared after multiplying with what was left of the amount.
    refine ⟨by omega, Int.sub_nonneg_of_le fits, le_of_mul_le_mul_left ?_ remains,
      le_of_mul_le_mul_left ?_ remains, fun all => ?_⟩
    · calc rest * ((rest - part) * value)
          = (rest - part) * (rest * value) := by ring
        _ ≤ (rest - part) * (amount * left) :=
            Int.mul_le_mul_of_nonneg_left share.atLeast (by omega)
        _ = amount * (rest * left - part * left) := by ring
        _ ≤ amount * (rest * left - rest * removed) :=
            Int.mul_le_mul_of_nonneg_left (by omega) positive.le
        _ = rest * (amount * (left - removed)) := by ring
    · have drops : amount * (rest - 1) ≤ rest * (amount - 1) := by linarith
      have fewer : (rest - part) * (parts * (amount - 1)) ≤ rest * (parts * (amount - 1)) :=
        Int.mul_le_mul_of_nonneg_right (by omega)
          (Int.mul_nonneg (Int.natCast_nonneg _) (by omega))
      calc rest * (amount * (left - removed))
          = amount * (rest * left - rest * removed) := by ring
        _ ≤ amount * (rest * left - part * left + (rest - 1)) :=
            Int.mul_le_mul_of_nonneg_left (by omega) positive.le
        _ = (rest - part) * (amount * left) + amount * (rest - 1) := by ring
        _ ≤ (rest - part) * (rest * value + parts * (amount - 1)) + rest * (amount - 1) :=
            add_le_add (Int.mul_le_mul_of_nonneg_left share.atMost (by omega)) drops
        _ ≤ rest * ((rest - part) * value) + rest * (parts * (amount - 1)) +
              rest * (amount - 1) := by linarith
        _ = rest * ((rest - part) * value + (parts + 1 : Nat) * (amount - 1)) := by
            push_cast
            ring
    · obtain rfl : part = rest := by omega
      have all : left < removed + 1 := lt_of_mul_lt_mul_left (by linarith) remains.le
      omega

/-- Taking the same out at once leaves no more. -/
theorem single_le {single : Int} (share : ShareLeft amount value parts rest left)
    (positive : 0 < amount) (once : ShareLeft amount value 1 rest single) : single ≤ left := by
  have upper := once.atMost
  have lower := share.atLeast
  have below : single < left + 1 := lt_of_mul_lt_mul_left (by push_cast at upper; linarith)
    positive.le
  omega

end ShareLeft

namespace Ledger

/-! ## Parts of a deposit -/

/-- Takes out of a deposit one after the other, each of an amount at a time and with no value
given. -/
def takings (id : DepositId) (parts : List (Int × Int)) : List Operation :=
  parts.map fun part => .takeDeposit id part.1 none part.2

/-- A deposit of an amount and a value once so many parts were taken out and `rest` of the
amount is left, in a ledger that lets more be taken. -/
structure Drawn (id : DepositId) (amount value : Int) (parts : Nat) (rest : Int)
    (ledger : Ledger) : Prop where
  era : ledger.requireEra id.token id.key = .ok ()
  amountLeft : (ledger.depositAt id 0).amount = rest
  valueLeft : ShareLeft amount value parts rest (ledger.depositAt id 0).value
  covered : ∀ scope ∈ id.account.reached,
    (ledger.balance scope id.token - ledger.remaining id).Solvent

namespace Drawn

variable {id : DepositId} {amount value rest part timestamp : Int} {parts : Nat} {ledger : Ledger}

/-- A part of what is left is taken out with its share, and the ledger lets more be taken. -/
theorem take (drawn : Drawn id amount value parts rest ledger) (positive : 0 < amount)
    (partNonneg : 0 ≤ part) (within : part ≤ rest) (timestamp : Int) :
    ∃ removed, ((Operation.takeDeposit id part none timestamp).perform ledger).result =
          .ok (.amount removed) ∧
        0 ≤ removed ∧ removed ≤ (ledger.depositAt id 0).value ∧
        (((Operation.takeDeposit id part none timestamp).perform ledger).ledger.depositAt
          id 0).value = (ledger.depositAt id 0).value - removed ∧
      Drawn id amount value (parts + 1) (rest - part)
        ((Operation.takeDeposit id part none timestamp).perform ledger).ledger := by
  have share : ledger.valueTaken id part none =
      proportion part (ledger.depositAt id 0).value rest := by
    rw [← drawn.amountLeft]
    rfl
  have valueNonneg := drawn.valueLeft.nonneg
  have removedNonneg : 0 ≤ ledger.valueTaken id part none := by
    rw [share]
    exact proportion_nonneg partNonneg (partNonneg.trans within) valueNonneg
  have removedFits : ledger.valueTaken id part none ≤ (ledger.depositAt id 0).value := by
    rw [share]
    exact proportion_le partNonneg within valueNonneg
  have amountFits : part ≤ (ledger.depositAt id 0).amount := within.trans_eq drawn.amountLeft.symm
  have borne : ∀ scope ∈ id.account.reached, (ledger.balance scope id.token +
      -depositChange part (ledger.valueTaken id part none)).Solvent := by
    intro scope reached
    have stays : (ledger.remaining id +
        -depositChange part (ledger.valueTaken id part none)).Solvent :=
      ⟨Int.sub_nonneg_of_le removedFits, Int.sub_nonneg_of_le amountFits⟩
    have together := (drawn.covered scope reached).add stays
    rwa [← add_assoc, sub_add_cancel] at together
  have accepted : ((Operation.takeDeposit id part none timestamp).perform ledger).result =
      .ok (.amount (ledger.valueTaken id part none)) :=
    take_accepted drawn.era amountFits removedFits borne
  have moved := moved_of_take accepted
  have left := moved.remaining id
  rw [if_pos rfl] at left
  have valueLeft : (((Operation.takeDeposit id part none timestamp).perform
      ledger).ledger.depositAt id 0).value =
        (ledger.depositAt id 0).value - ledger.valueTaken id part none :=
    congrArg Amounts.depositedValue left
  refine ⟨_, accepted, removedNonneg, removedFits, valueLeft,
    (requireEra_take _ _).trans drawn.era, ?_, ?_, fun scope reached => ?_⟩
  · rw [← drawn.amountLeft]
    exact congrArg Amounts.depositedAmount left
  · rw [valueLeft, share]
    exact drawn.valueLeft.take positive partNonneg within
  · rw [left, moved.balance, if_pos ⟨rfl, reached⟩, add_sub_add_right_eq_sub]
    exact drawn.covered scope reached

/-- A deposit is taken out in parts, one part of what is left after the other. -/
theorem run (drawn : Drawn id amount value parts rest ledger) (positive : 0 < amount)
    {entries : List (Int × Int)} (entriesNonneg : ∀ entry ∈ entries, 0 ≤ entry.1)
    (within : (entries.map Prod.fst).sum ≤ rest) :
    Drawn id amount value (parts + entries.length) (rest - (entries.map Prod.fst).sum)
      (ledger.run (takings id entries)) := by
  induction entries generalizing ledger parts rest with
  | nil => simpa [takings] using drawn
  | cons entry entries ih =>
      rw [List.forall_mem_cons] at entriesNonneg
      obtain ⟨firstNonneg, othersNonneg⟩ := entriesNonneg
      rw [List.map_cons, List.sum_cons] at within ⊢
      have othersTotal : 0 ≤ (entries.map Prod.fst).sum := List.sum_nonneg (by simpa using othersNonneg)
      obtain ⟨_, _, _, _, _, later⟩ := drawn.take positive firstNonneg (by omega) entry.2
      have drained := ih later othersNonneg (by omega)
      rw [List.length_cons, ← sub_sub, add_comm entries.length, ← add_assoc]
      exact drained

/-- A deposit that the balances cover and the era admits lets all of it be taken. -/
theorem whole {deposit : Deposit} (held : ledger.deposits.get? id = some deposit)
    (positive : 0 < deposit.amount) (valueNonneg : 0 ≤ deposit.value)
    (era : ledger.requireEra id.token id.key = .ok ())
    (covered : ∀ scope ∈ id.account.reached,
      deposit.amount ≤ (ledger.balance scope id.token).depositedAmount ∧
        deposit.value ≤ (ledger.balance scope id.token).depositedValue) :
    Drawn id deposit.amount deposit.value 0 deposit.amount ledger := by
  have present := remaining_of_get? held
  have amount : (ledger.depositAt id 0).amount = deposit.amount :=
    congrArg Amounts.depositedAmount present
  have value : (ledger.depositAt id 0).value = deposit.value :=
    congrArg Amounts.depositedValue present
  refine ⟨era, amount, ?_, fun scope reached => ?_⟩
  · rw [value]
    exact .whole positive valueNonneg
  · obtain ⟨amountCovered, valueCovered⟩ := covered scope reached
    rw [present]
    exact ⟨Int.sub_nonneg_of_le valueCovered, Int.sub_nonneg_of_le amountCovered⟩

end Drawn

/-- Let the balances that a deposit counts for cover it, and let its key be of the era of its
token.  Then parts of it that come to no more than its amount can be taken out one after the
other with no value given: every take goes through and removes between nothing and the value
that is left.  What is left of the value in the end is at least the share of the amount that
is left, less than one unit more for each part, nothing if the whole amount was taken, and
no less than a single take of the same total leaves. -/
theorem takings_leave_share (ledger : Ledger) (id : DepositId) (deposit : Deposit)
    (parts : List (Int × Int)) (held : ledger.deposits.get? id = some deposit)
    (positive : 0 < deposit.amount) (valueNonneg : 0 ≤ deposit.value)
    (era : ledger.requireEra id.token id.key = .ok ())
    (covered : ∀ scope ∈ id.account.reached,
      deposit.amount ≤ (ledger.balance scope id.token).depositedAmount ∧
        deposit.value ≤ (ledger.balance scope id.token).depositedValue)
    (partsNonneg : ∀ part ∈ parts, 0 ≤ part.1)
    (within : (parts.map Prod.fst).sum ≤ deposit.amount) :
    let taken := (parts.map Prod.fst).sum
    let after := ledger.run (takings id parts)
    let left := (after.depositAt id 0).value
    (∀ earlier part later, parts = earlier ++ part :: later →
      ∃ removed,
        ((Operation.takeDeposit id part.1 none part.2).perform
            (ledger.run (takings id earlier))).result = .ok (.amount removed) ∧
          0 ≤ removed ∧
          removed ≤ ((ledger.run (takings id earlier)).depositAt id 0).value) ∧
      (after.depositAt id 0).amount = deposit.amount - taken ∧
      (deposit.amount - taken) * deposit.value ≤ deposit.amount * left ∧
      (1 ≤ parts.length → deposit.amount * left <
        (deposit.amount - taken) * deposit.value + parts.length * deposit.amount) ∧
      (taken = deposit.amount → left = 0) ∧
      ∀ timestamp, ∃ removed,
        ((Operation.takeDeposit id taken none timestamp).perform ledger).result =
            .ok (.amount removed) ∧
          deposit.value - left ≤ removed ∧
          (((Operation.takeDeposit id taken none timestamp).perform ledger).ledger.depositAt
            id 0).value ≤ left := by
  intro taken after left
  have whole := Drawn.whole held positive valueNonneg era covered
  have takenNonneg : 0 ≤ taken := List.sum_nonneg (by simpa using partsNonneg)
  have drawn : Drawn id deposit.amount deposit.value parts.length (deposit.amount - taken)
      after := by
    have drawn := whole.run positive partsNonneg within
    rwa [zero_add] at drawn
  refine ⟨?_, drawn.amountLeft, drawn.valueLeft.atLeast, fun some => ?_,
    fun all => drawn.valueLeft.drained (by omega), fun timestamp => ?_⟩
  · rintro earlier part later rfl
    rw [List.map_append, List.map_cons, List.sum_append, List.sum_cons] at within
    rw [List.forall_mem_append, List.forall_mem_cons] at partsNonneg
    obtain ⟨earlierNonneg, partNonneg, laterNonneg⟩ := partsNonneg
    have laterTotal : 0 ≤ (later.map Prod.fst).sum :=
      List.sum_nonneg (by simpa using laterNonneg)
    have reached := whole.run positive earlierNonneg (by omega)
    obtain ⟨removed, accepted, removedNonneg, fits, _, _⟩ :=
      reached.take positive partNonneg (by omega) part.2
    exact ⟨removed, accepted, removedNonneg, fits⟩
  · refine drawn.valueLeft.atMost.trans_lt (Int.add_lt_add_left ?_ _)
    exact Int.mul_lt_mul_of_pos_left (by omega) (by omega)
  · obtain ⟨removed, accepted, _, _, valueLeft, once⟩ :=
      whole.take positive takenNonneg within timestamp
    have single := drawn.valueLeft.single_le positive once.valueLeft
    have value : (ledger.depositAt id 0).value = deposit.value :=
      congrArg Amounts.depositedValue (remaining_of_get? held)
    refine ⟨removed, accepted, ?_, single⟩
    rw [valueLeft, value] at single
    omega

/-- Two parts of one unit remove nothing, where a single take of two units removes one. -/
theorem two_units_leave_share :
    let id : DepositId := ⟨"0xa", "0xt", .season 1⟩
    let ledger := (Ledger.empty none).run [.putDeposit id 10 5 1]
    let after := ledger.run (takings id [(1, 2), (1, 3)])
    ledger.requireEra id.token id.key = .ok () ∧
      (after.depositAt id 0).value = 5 ∧
      (10 - 2) * 5 ≤ 10 * (after.depositAt id 0).value ∧
      10 * (after.depositAt id 0).value < (10 - 2) * 5 + 2 * 10 ∧
      (((Operation.takeDeposit id 2 none 4).perform ledger).ledger.depositAt id 0).value ≤
        (after.depositAt id 0).value := by
  intro id ledger after
  have era : ledger.requireEra id.token id.key = .ok () := by decide +kernel
  have held : ledger.deposits.get? id = some ⟨.season, 10, 5, 0, 0, 1, 1⟩ := by decide +kernel
  obtain ⟨-, -, atLeast, atMost, -, single⟩ := takings_leave_share ledger id _ [(1, 2), (1, 3)]
    held (by decide) (by decide) era (by decide +kernel) (by decide) (by decide)
  obtain ⟨-, -, -, single⟩ := single 4
  exact ⟨era, by decide +kernel, atLeast, atMost (by decide), single⟩

/-- Though the balance of the account covers the deposit, nothing can be taken out once the
token has moved to stems, and not all of it once the protocol holds less. -/
theorem covered_deposits_are_refused :
    let id : DepositId := ⟨"0xa", "0xt", .season 1⟩
    let deposit : Deposit := ⟨.season, 100, 100, 0, 0, 1, 1⟩
    let migrated := (Ledger.empty none).run [.putDeposit id 100 100 1, .adoptStems "0xt"]
    let drained := (Ledger.empty none).run
      [.putDeposit id 100 100 1, .debit protocolScope "0xt" ⟨60, 60, 0, 0, 0⟩ 2]
    (∀ ledger ∈ [migrated, drained], ledger.deposits.get? id = some deposit ∧
        deposit.amount ≤ (ledger.balance id.account id.token).depositedAmount ∧
        deposit.value ≤ (ledger.balance id.account id.token).depositedValue) ∧
      ((Operation.takeDeposit id 100 none 3).perform migrated).result =
        .error (.versionMismatch "0xt" .stem (.season 1)) ∧
      ((Operation.takeDeposit id 100 none 3).perform drained).result =
        .error (.negativeBalance protocolScope "0xt" (-60) (-60)) := by
  decide +kernel

end Ledger

end DepositYield
