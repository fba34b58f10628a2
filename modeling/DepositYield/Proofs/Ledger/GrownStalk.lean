import DepositYield.Proofs.Ledger.Backing
import DepositYield.Proofs.Ledger.Locality
import Mathlib.Tactic.Ring

/-!
# What the stalk grown per season stands for

Each value that is put into a deposit or taken out of one moves the stalk grown per season
at the rate that its token has then, and the product is truncated.  So the counter stands
for the values of the deposits at some rates, apart from what was moved at other rates and
from what truncation lost.
-/

namespace DepositYield

/-- A value that is moved into the deposits of a token, negative if it is moved out of
them, and the stalk that a unit of it earns per season at the time. -/
structure ValueMove where
  token : Token
  value : Int
  rate : Int

namespace ValueMove

/-- What a move adds to the stalk grown per season. -/
def growth (move : ValueMove) : Int :=
  proportion move.value move.rate Ledger.stalkPerSeasonPrecision

/-- What truncation takes off the growth of a move, in small units of stalk per season. -/
def lost (move : ValueMove) : Int :=
  (move.value * move.rate).tmod Ledger.stalkPerSeasonPrecision

/-- Growth and what it lost make up values at their rates. -/
theorem sum_growth_add_lost (moves : List ValueMove) :
    Ledger.stalkPerSeasonPrecision * (moves.map growth).sum + (moves.map lost).sum =
      (moves.map fun move => move.value * move.rate).sum := by
  induction moves with
  | nil => rfl
  | cons move moves ih =>
      have whole : Ledger.stalkPerSeasonPrecision * move.growth + move.lost =
          move.value * move.rate := Int.mul_tdiv_add_tmod _ _
      simp only [List.map_cons, List.sum_cons, ← ih, ← whole]
      ring

end ValueMove

/-! ## Moves of a run -/

namespace Operation

/-- The value that an operation is to move into or out of a deposit, if any. -/
def valueMove? (ledger : Ledger) : Operation → Option ValueMove
  | .putDeposit id _ value _ =>
      some ⟨id.token, value, (ledger.setting id.token).stalkEarnedPerSeason⟩
  | .takeDeposit id amount value _ =>
      some ⟨id.token, -ledger.valueTaken id amount value,
        (ledger.setting id.token).stalkEarnedPerSeason⟩
  | _ => none

/-- The value that an operation moves, none if it is refused. -/
def valueMoves (ledger : Ledger) (operation : Operation) : List ValueMove :=
  match (operation.perform ledger).result with
  | .ok _ => (operation.valueMove? ledger).toList
  | .error _ => []

theorem growth_eq (operation : Operation) (ledger : Ledger) :
    operation.growth ledger =
      ((operation.valueMove? ledger).toList.map ValueMove.growth).sum := by
  cases operation with
  | putDeposit => exact (List.sum_singleton).symm
  | takeDeposit =>
      refine Eq.trans ?_ (List.sum_singleton).symm
      change -(_ : Int).tdiv _ = (-_ * _ : Int).tdiv _
      rw [neg_mul, Int.neg_tdiv]
  | _ => rfl

/-- The stalk grown per season grows by what is moved. -/
theorem grown_eq_sum (operation : Operation) (ledger : Ledger) :
    operation.grown ledger = ((operation.valueMoves ledger).map ValueMove.growth).sum := by
  rw [grown_eq]
  unfold granted? valueMoves
  cases (operation.perform ledger).result with
  | error failure => rfl
  | ok reply =>
      cases asked : operation.request? ledger with
      | none =>
          cases operation with
          | putDeposit => simp [request?] at asked
          | takeDeposit => simp [request?] at asked
          | _ => rfl
      | some request => exact operation.growth_eq ledger

end Operation

namespace Ledger

/-- The values that a run moves into deposits and out of them. -/
def valueMoves (ledger : Ledger) : List Operation → List ValueMove
  | [] => []
  | operation :: operations =>
      operation.valueMoves ledger ++ (operation.perform ledger).ledger.valueMoves operations

theorem grownStalkPerSeason_run (ledger : Ledger) (operations : List Operation) :
    (ledger.run operations).grownStalkPerSeason =
      ledger.grownStalkPerSeason + ((ledger.valueMoves operations).map ValueMove.growth).sum := by
  induction operations generalizing ledger with
  | nil => exact (add_zero _).symm
  | cons operation operations ih =>
      have first := operation.grown_eq_sum ledger
      unfold Operation.grown at first
      rw [run_cons, ih, valueMoves, List.map_append, List.sum_append, ← first]
      ring

/-! ## Deposits at fixed rates -/

/-- The values of all deposits at rates of their tokens. -/
def valueAtRates (ledger : Ledger) (rates : Token → Int) : Int :=
  ledger.deposits.sumOver fun id deposit => deposit.value * rates id.token

variable {ledger : Ledger}

theorem valueAtRates_writeDeposit (ledger : Ledger) (rates : Token → Int) (id : DepositId)
    (deposit : Deposit) (createdAt : Int) :
    (ledger.writeDeposit id deposit).valueAtRates rates =
      ledger.valueAtRates rates +
        (deposit.value - (ledger.depositAt id createdAt).value) * rates id.token := by
  rw [sub_mul]
  exact ledger.sumOver_writeDeposit _ (fun _ _ _ => zero_mul _) id deposit createdAt

/-- What an operation records changes the values of the deposits by what it is to move. -/
theorem valueAtRates_recorded (operation : Operation) (ledger : Ledger) (rates : Token → Int) :
    (operation.recorded ledger).valueAtRates rates =
      ledger.valueAtRates rates + ((operation.valueMove? ledger).toList.map
        fun move => move.value * rates move.token).sum := by
  cases written : operation.written? ledger with
  | none =>
      have unwritten : (operation.recorded ledger).valueAtRates rates =
          ledger.valueAtRates rates := by
        unfold valueAtRates
        rw [Operation.deposits_recorded, written]
      cases operation with
      | putDeposit => simp [Operation.written?] at written
      | takeDeposit => simp [Operation.written?] at written
      | _ => exact unwritten.trans (add_zero _).symm
  | some entry =>
      have recorded : (operation.recorded ledger).valueAtRates rates =
          (ledger.writeDeposit entry.1 entry.2).valueAtRates rates := by
        unfold valueAtRates
        rw [Operation.deposits_recorded, written]
        rfl
      rw [recorded]
      cases operation with
      | putDeposit id amount value timestamp =>
          obtain rfl := Option.some.inj written
          rw [valueAtRates_writeDeposit ledger rates _ _ timestamp]
          simp [Operation.valueMove?, depositAfterPut]
      | takeDeposit id amount value timestamp =>
          obtain rfl := Option.some.inj written
          rw [valueAtRates_writeDeposit ledger rates _ _ 0]
          simp [Operation.valueMove?, depositAfterTake]
      | _ => simp [Operation.written?] at written

namespace Backed

variable {put : DepositId → Amounts}

/-- The values of the deposits change by what an operation moves. -/
theorem valueAtRates_perform (backed : ledger.Backed put) {operation : Operation}
    (through : operation.MovesThroughDeposits) (rates : Token → Int) :
    (operation.perform ledger).ledger.valueAtRates rates =
      ledger.valueAtRates rates + ((operation.valueMoves ledger).map
        fun move => move.value * rates move.token).sum := by
  cases admission : operation.admission ledger with
  | error failure =>
      unfold Operation.valueMoves
      rw [operation.perform_eq, admission]
      exact (add_zero _).symm
  | ok _ =>
      obtain ⟨reply, accepted⟩ := backed.exists_reply through admission
      unfold Operation.valueMoves
      rw [accepted]
      dsimp only
      rw [← valueAtRates_recorded]
      unfold valueAtRates
      rw [Operation.deposits_perform admission]

/-- The values of the deposits change by what a run moves. -/
theorem valueAtRates_run (backed : ledger.Backed put) {operations : List Operation}
    (through : ∀ operation ∈ operations, operation.MovesThroughDeposits) (rates : Token → Int) :
    (ledger.run operations).valueAtRates rates =
      ledger.valueAtRates rates + ((ledger.valueMoves operations).map
        fun move => move.value * rates move.token).sum := by
  induction operations generalizing ledger put with
  | nil => exact (add_zero _).symm
  | cons operation operations ih =>
      have first := through operation List.mem_cons_self
      have later := ih (backed.perform first)
        (fun other inside => through other (List.mem_cons_of_mem operation inside))
      rw [run_cons, later, backed.valueAtRates_perform first, valueMoves, List.map_append,
        List.sum_append, add_assoc]

end Backed

/-! ## The counter -/

/-- After every run in which values move through deposits only, the stalk grown per season
stands for the values of the deposits at any rates, with what was moved at other rates and
without what truncation lost. -/
theorem grownStalkPerSeason_eq (v31Period : Option Int) {operations : List Operation}
    (through : ∀ operation ∈ operations, operation.MovesThroughDeposits) (rates : Token → Int) :
    stalkPerSeasonPrecision * ((Ledger.empty v31Period).run operations).grownStalkPerSeason =
      ((Ledger.empty v31Period).run operations).valueAtRates rates +
        (((Ledger.empty v31Period).valueMoves operations).map
          fun move => move.value * (move.rate - rates move.token)).sum -
        (((Ledger.empty v31Period).valueMoves operations).map ValueMove.lost).sum := by
  have counter := grownStalkPerSeason_run (Ledger.empty v31Period) operations
  have values := (backed_empty v31Period).valueAtRates_run through rates
  generalize (Ledger.empty v31Period).valueMoves operations = moves at counter values ⊢
  have whole := ValueMove.sum_growth_add_lost moves
  have split : (moves.map fun move => move.value * move.rate).sum =
      (moves.map fun move => move.value * rates move.token).sum +
        (moves.map fun move => move.value * (move.rate - rates move.token)).sum := by
    rw [← List.sum_map_add]
    simp only [← mul_add, add_sub_cancel]
  have nothing : (Ledger.empty v31Period).valueAtRates rates = 0 := rfl
  have start : (Ledger.empty v31Period).grownStalkPerSeason = 0 := rfl
  rw [start, zero_add] at counter
  rw [nothing, zero_add] at values
  rw [counter, values, ← split, ← whole, add_sub_cancel_right]

/-- A run that leaves no value in any deposit leaves of the stalk grown per season what it
moved at other rates than some fixed ones, less what truncation lost.  It leaves nothing
exactly if the two are equal, so if each token has one rate at all of its moves and nothing
is lost. -/
theorem grownStalkPerSeason_of_spent (v31Period : Option Int) (operations : List Operation)
    (through : ∀ operation ∈ operations, operation.MovesThroughDeposits)
    (spent : ∀ id deposit,
      ((Ledger.empty v31Period).run operations).deposits.get? id = some deposit →
        deposit.value = 0) (rates : Token → Int) :
    let counter := ((Ledger.empty v31Period).run operations).grownStalkPerSeason
    let moves := (Ledger.empty v31Period).valueMoves operations
    let movedAtOtherRates :=
      (moves.map fun move => move.value * (move.rate - rates move.token)).sum
    let lost := (moves.map ValueMove.lost).sum
    stalkPerSeasonPrecision * counter = movedAtOtherRates - lost ∧
      (counter = 0 ↔ movedAtOtherRates = lost) ∧
      ((∀ move ∈ moves, move.rate = rates move.token ∧ move.lost = 0) → counter = 0) := by
  intro counter moves movedAtOtherRates lost
  have worthless : ((Ledger.empty v31Period).run operations).valueAtRates rates = 0 := by
    refine List.sum_eq_zero fun number inside => ?_
    obtain ⟨entry, member, rfl⟩ := List.mem_map.mp inside
    dsimp only
    rw [spent entry.1 entry.2 (Table.get?_eq_some_iff.mpr member), zero_mul]
  have accounted : stalkPerSeasonPrecision * counter = movedAtOtherRates - lost := by
    rw [grownStalkPerSeason_eq v31Period through rates, worthless, zero_add]
  have nothing : counter = 0 ↔ movedAtOtherRates = lost := by
    unfold stalkPerSeasonPrecision at accounted
    omega
  refine ⟨accounted, nothing, fun steady => nothing.mpr ?_⟩
  have atRates : movedAtOtherRates = 0 := by
    refine List.sum_eq_zero fun number inside => ?_
    obtain ⟨move, member, rfl⟩ := List.mem_map.mp inside
    rw [(steady move member).1, sub_self, mul_zero]
  have whole : lost = 0 := by
    refine List.sum_eq_zero fun number inside => ?_
    obtain ⟨move, member, rfl⟩ := List.mem_map.mp inside
    exact (steady move member).2
  rw [atRates, whole]

/-- A deposit is taken out in two parts, and in between the gauge of its token is
configured. -/
def takenInParts : List Operation :=
  [.whitelist "0xt" { TokenSetting.unregistered with stalkEarnedPerSeason := 2000000 } 1,
    .putDeposit ⟨"0xa", "0xt", .stem 1⟩ 30 3000000 1,
    .takeDeposit ⟨"0xa", "0xt", .stem 1⟩ 10 none 2,
    .configureGauge "0xt" (some 100) none "identity" 3,
    .takeDeposit ⟨"0xa", "0xt", .stem 1⟩ 20 (some 2000000) 4]

/-- At one rate, with nothing lost, the two parts take off what the deposit added. -/
theorem takenInParts_leaves_nothing :
    let ledger := (Ledger.empty none).run takenInParts
    (∀ id deposit, ledger.deposits.get? id = some deposit → deposit.value = 0) ∧
      ledger.grownStalkPerSeason = 0 := by
  intro ledger
  have spent : ∀ id deposit, ledger.deposits.get? id = some deposit → deposit.value = 0 := by
    have each : ∀ entry ∈ ledger.deposits.entries, entry.2.value = 0 := by decide
    exact fun id deposit held => each (id, deposit) (Table.get?_eq_some_iff.mp held)
  have through : ∀ operation ∈ takenInParts, operation.MovesThroughDeposits := by
    simp [takenInParts, Operation.MovesThroughDeposits]
  have steady : ∀ move ∈ (Ledger.empty none).valueMoves takenInParts,
      move.rate = 2000000 ∧ move.lost = 0 := by decide
  exact ⟨spent,
    (grownStalkPerSeason_of_spent none takenInParts through spent fun _ => 2000000).2.2 steady⟩

/-- A deposit is taken out at twice the rate that it was put in at. -/
def takenAtAnotherRate : List Operation :=
  [.whitelist "0xt" { TokenSetting.unregistered with stalkEarnedPerSeason := 1000000 } 1,
    .putDeposit ⟨"0xa", "0xt", .stem 1⟩ 3000000 3000000 1,
    .setStalkPerSeason "0xt" 2 2000000 2,
    .takeDeposit ⟨"0xa", "0xt", .stem 1⟩ 3000000 none 3]

/-- Not every run that leaves no value in any deposit leaves no stalk grown per season: what
is taken out at twice the rate takes off twice what it added. -/
theorem spent_deposits_leave_growth :
    ¬∀ (v31Period : Option Int) (operations : List Operation),
      let ledger := (Ledger.empty v31Period).run operations
      (∀ operation ∈ operations, operation.MovesThroughDeposits) →
        (∀ id deposit, ledger.deposits.get? id = some deposit → deposit.value = 0) →
          ledger.grownStalkPerSeason = 0 := by
  intro leavesNothing
  let ledger := (Ledger.empty none).run takenAtAnotherRate
  have through : ∀ operation ∈ takenAtAnotherRate, operation.MovesThroughDeposits := by
    simp [takenAtAnotherRate, Operation.MovesThroughDeposits]
  have spent : ∀ id deposit, ledger.deposits.get? id = some deposit → deposit.value = 0 := by
    have each : ∀ entry ∈ ledger.deposits.entries, entry.2.value = 0 := by decide
    exact fun id deposit held => each (id, deposit) (Table.get?_eq_some_iff.mp held)
  have left : ledger.grownStalkPerSeason = -3000000 := by decide
  have nothing : ledger.grownStalkPerSeason = 0 := leavesNothing none takenAtAnotherRate through spent
  rw [left] at nothing
  contradiction

end Ledger

end DepositYield
