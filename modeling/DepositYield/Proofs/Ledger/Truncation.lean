import DepositYield.Proofs.Ledger.GrownStalk
import Mathlib.Algebra.Order.Group.Abs
import Mathlib.Algebra.Order.Group.Int

/-!
# What truncation can cost

Every value that goes through a deposit moves the stalk grown per season by a truncated
product, so each such move loses less than one small unit.  At one rate for each token the
losses are all that parts the stalk grown per season from the values of the deposits.
-/

namespace DepositYield

namespace ValueMove

/-- A move loses less than one small unit of stalk per season, in either direction. -/
theorem abs_lost_le (move : ValueMove) : |move.lost| ≤ Ledger.stalkPerSeasonPrecision - 1 := by
  have precision : 0 < Ledger.stalkPerSeasonPrecision := by decide
  have above := Int.lt_tmod_of_pos (move.value * move.rate) precision
  have below := Int.tmod_lt_of_pos (move.value * move.rate) precision
  unfold lost
  rw [abs_le]
  constructor <;> omega

/-- Moves in a row lose at most as much as each of them can. -/
theorem abs_sum_lost_le (moves : List ValueMove) :
    |(moves.map lost).sum| ≤ (Ledger.stalkPerSeasonPrecision - 1) * moves.length := by
  induction moves with
  | nil => rfl
  | cons move moves ih =>
      rw [List.map_cons, List.sum_cons, List.length_cons]
      calc
        |move.lost + (moves.map lost).sum| ≤ |move.lost| + |(moves.map lost).sum| := abs_add_le _ _
        _ ≤ (Ledger.stalkPerSeasonPrecision - 1) +
            (Ledger.stalkPerSeasonPrecision - 1) * moves.length :=
          Int.add_le_add move.abs_lost_le ih
        _ = (Ledger.stalkPerSeasonPrecision - 1) * (moves.length + 1 : Nat) := by
          push_cast
          ring

end ValueMove

/-! ## Moves and rates of a run -/

namespace Operation

variable {operation : Operation} {ledger : Ledger}

/-- What is moved is moved at the rate at which the operation finds the token of its deposit. -/
theorem exists_deposit?_of_mem_valueMoves {move : ValueMove}
    (inside : move ∈ operation.valueMoves ledger) :
    ∃ id, operation.deposit? = some id ∧ move.token = id.token ∧
      move.rate = (ledger.setting id.token).stalkEarnedPerSeason := by
  unfold valueMoves at inside
  split at inside
  · rw [Option.mem_toList] at inside
    cases operation with
    | putDeposit id | takeDeposit id =>
        obtain rfl := Option.some.inj inside
        exact ⟨id, rfl, rfl, rfl⟩
    | _ => contradiction
  · exact absurd inside List.not_mem_nil

theorem length_valueMoves (operation : Operation) (ledger : Ledger) :
    (operation.valueMoves ledger).length =
      if operation.deposit?.isSome ∧ (operation.perform ledger).result.isOk then 1 else 0 := by
  unfold valueMoves
  cases (operation.perform ledger).result with
  | error failure => simp [Except.isOk, Except.toBool]
  | ok reply => cases operation <;> rfl

end Operation

namespace Ledger

variable {ledger : Ledger}

/-- How many operations of a run put into a deposit or take from one and go through. -/
def depositMoves (ledger : Ledger) (operations : List Operation) : Nat :=
  (ledger.replies operations).countP fun reply => reply.1.deposit?.isSome && reply.2.isOk

/-- The rates at which a run finds the tokens of the deposits that it is to put into or to take
from, whether that goes through or not. -/
def ratesMet (ledger : Ledger) : List Operation → List (Token × Int)
  | [] => []
  | operation :: operations =>
      (operation.deposit?.map fun id =>
          (id.token, (ledger.setting id.token).stalkEarnedPerSeason)).toList ++
        (operation.perform ledger).ledger.ratesMet operations

theorem length_valueMoves (ledger : Ledger) (operations : List Operation) :
    (ledger.valueMoves operations).length = ledger.depositMoves operations := by
  induction operations generalizing ledger with
  | nil => rfl
  | cons operation operations ih =>
      unfold depositMoves at ih ⊢
      rw [valueMoves, List.length_append, operation.length_valueMoves, ih, replies,
        List.countP_cons, Nat.add_comm]
      simp

theorem mem_ratesMet_of_mem_valueMoves {operations : List Operation} {move : ValueMove}
    (inside : move ∈ ledger.valueMoves operations) :
    (move.token, move.rate) ∈ ledger.ratesMet operations := by
  induction operations generalizing ledger with
  | nil => exact absurd inside List.not_mem_nil
  | cons operation operations ih =>
      rw [ratesMet, List.mem_append]
      rcases List.mem_append.mp inside with first | later
      · left
        obtain ⟨id, about, token, rate⟩ := Operation.exists_deposit?_of_mem_valueMoves first
        rw [about, token, rate]
        exact List.mem_singleton.mpr rfl
      · exact .inr (ih later)

/-- After every run from the empty ledger in which values move through deposits only, and which
finds each token at one rate whenever it is to put into one of its deposits or to take from one,
the stalk grown per season stands for the values of the deposits at these rates, up to less than
one small unit for each put and each take that went through.  The rates may be set at any time
before, and what is set while nothing is put or taken does not count. -/
theorem grownStalkPerSeason_near_deposits (v31Period : Option Int) (operations : List Operation)
    (through : ∀ operation ∈ operations, operation.MovesThroughDeposits) (rates : Token → Int)
    (steady : ∀ met ∈ (Ledger.empty v31Period).ratesMet operations, met.2 = rates met.1) :
    let ledger := (Ledger.empty v31Period).run operations
    |stalkPerSeasonPrecision * ledger.grownStalkPerSeason -
        (ledger.deposits.entries.map fun entry => entry.2.value * rates entry.1.token).sum| ≤
      (stalkPerSeasonPrecision - 1) * (Ledger.empty v31Period).depositMoves operations := by
  intro ledger
  let moves := (Ledger.empty v31Period).valueMoves operations
  -- No move was at another rate than that of its token, so only the losses are left.
  have atRates : (moves.map fun move => move.value * (move.rate - rates move.token)).sum = 0 := by
    refine List.sum_eq_zero fun number inside => ?_
    obtain ⟨move, member, rfl⟩ := List.mem_map.mp inside
    have rate : move.rate = rates move.token := steady _ (mem_ratesMet_of_mem_valueMoves member)
    rw [rate, sub_self, mul_zero]
  have counter : stalkPerSeasonPrecision * ledger.grownStalkPerSeason =
      ledger.valueAtRates rates + 0 - (moves.map ValueMove.lost).sum := by
    rw [← atRates]
    exact grownStalkPerSeason_eq v31Period through rates
  have apart : stalkPerSeasonPrecision * ledger.grownStalkPerSeason - ledger.valueAtRates rates =
      -(moves.map ValueMove.lost).sum := by
    rw [counter]
    ring
  calc
    |stalkPerSeasonPrecision * ledger.grownStalkPerSeason - ledger.valueAtRates rates| =
        |(moves.map ValueMove.lost).sum| := by rw [apart, abs_neg]
    _ ≤ (stalkPerSeasonPrecision - 1) * moves.length := ValueMove.abs_sum_lost_le moves
    _ = (stalkPerSeasonPrecision - 1) * (Ledger.empty v31Period).depositMoves operations := by
      rw [length_valueMoves]

/-- Two puts and a take at a rate of one small unit, and between them an excess that is
refused.  The puts lose a unit but for a millionth of it each, and the take makes up for a third
of a unit. -/
theorem three_moves_lose_fractions :
    let operations : List Operation :=
      [.whitelist "0xt" { TokenSetting.unregistered with stalkEarnedPerSeason := 1 } 1,
        .putDeposit ⟨"0xa", "0xt", .stem 1⟩ 3 999999 1,
        .takeDeposit ⟨"0xa", "0xt", .stem 1⟩ 4 none 2,
        .putDeposit ⟨"0xb", "0xt", .stem 1⟩ 3 999999 3,
        .takeDeposit ⟨"0xa", "0xt", .stem 1⟩ 1 none 4]
    let ledger := (Ledger.empty none).run operations
    let values := (ledger.deposits.entries.map fun entry => entry.2.value * 1).sum
    (∀ operation ∈ operations, operation.MovesThroughDeposits) ∧
      (∀ met ∈ (Ledger.empty none).ratesMet operations, met.2 = 1) ∧
      ledger.grownStalkPerSeason = 0 ∧ values = 1666665 ∧
      (Ledger.empty none).depositMoves operations = 3 ∧
      |stalkPerSeasonPrecision * ledger.grownStalkPerSeason - values| ≤
        (stalkPerSeasonPrecision - 1) * 3 := by
  intro operations ledger values
  have through : ∀ operation ∈ operations, operation.MovesThroughDeposits := by
    simp [operations, Operation.MovesThroughDeposits]
  have steady : ∀ met ∈ (Ledger.empty none).ratesMet operations, met.2 = 1 := by decide
  have three : (Ledger.empty none).depositMoves operations = 3 := by decide
  have near := grownStalkPerSeason_near_deposits none operations through (fun _ => 1) steady
  rw [three] at near
  exact ⟨through, steady, by decide, by decide, three, near⟩

end Ledger

end DepositYield
