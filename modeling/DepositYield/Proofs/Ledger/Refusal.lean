import DepositYield.Proofs.Ledger.Backing
import DepositYield.Proofs.Ledger.Conservation

/-!
# What refused operations leave behind

A refused operation leaves the ledger as it was, with one exception: when the
balances refuse what was put into a deposit or taken out of it, the record of
the deposit, and the era of its token, have already been written and stay.
-/

namespace DepositYield

theorem LedgerFailure.code_eq_iff {failure : LedgerFailure} :
    failure.code = "negative_balance" ↔
      ∃ scope token value amount, failure = .negativeBalance scope token value amount := by
  cases failure <;> simp [code]

namespace Ledger

variable {ledger : Ledger}

/-- While all balances are solvent, none refuses a change without deposited
amounts. -/
theorem overdrawn?_eq_none_of_deposited_eq_zero
    (solvent : ∀ scope token, (ledger.balance scope token).Solvent) {scope : Scope}
    {token : Token} {change : Amounts} (nothing : change.deposited = 0) :
    ledger.overdrawn? scope token change = none := by
  rw [overdrawn?_eq_none_iff]
  intro other _
  rw [← Amounts.solvent_deposited_iff, Amounts.deposited_add, nothing, add_zero]
  exact solvent other token

/-- While all balances are solvent, a refusal by the balances leaves the ledger as
it was exactly when the operation neither puts into a deposit nor takes from
one. -/
theorem recorded_eq_iff_of_overdrawn
    (solvent : ∀ scope token, (ledger.balance scope token).Solvent) {operation : Operation}
    {request : BalanceRequest} {other : Scope}
    (asked : operation.request? ledger = some request)
    (overdrawn : ledger.overdrawn? request.scope request.token request.change = some other) :
    operation.recorded ledger = ledger ↔ operation.deposit? = none := by
  have something : request.change.deposited ≠ 0 := by
    intro nothing
    rw [overdrawn?_eq_none_of_deposited_eq_zero solvent nothing] at overdrawn
    contradiction
  cases operation with
  | putDeposit id amount value timestamp =>
      obtain rfl := Option.some.inj asked
      refine ⟨fun same => ?_, fun none => by simp [Operation.deposit?] at none⟩
      have total := ledger.remainingTotal_put id amount value timestamp id.account id.token
      rw [same, if_pos ⟨rfl, Scope.mem_reached_iff.mpr (.inl rfl)⟩, left_eq_add] at total
      exact absurd total something
  | takeDeposit id amount value timestamp =>
      obtain rfl := Option.some.inj asked
      refine ⟨fun same => ?_, fun none => by simp [Operation.deposit?] at none⟩
      have total := ledger.remainingTotal_take id amount value timestamp id.account id.token
      rw [same, if_pos ⟨rfl, Scope.mem_reached_iff.mpr (.inl rfl)⟩, left_eq_add] at total
      exact absurd total something
  | queueWithdrawal id amount timestamp =>
      obtain rfl := Option.some.inj asked
      exact absurd rfl something
  | credit => exact ⟨fun _ => rfl, fun _ => rfl⟩
  | debit => exact ⟨fun _ => rfl, fun _ => rfl⟩
  | moveStalk => exact ⟨fun _ => rfl, fun _ => rfl⟩
  | moveSeeds => exact ⟨fun _ => rfl, fun _ => rfl⟩
  | _ => simp [Operation.request?] at asked

/-- A refusal by the balances of solvent accounts leaves everything but the record
of the deposit and the eras as it was. -/
theorem recorded_frame_of_overdrawn
    (solvent : ∀ scope token, (ledger.balance scope token).Solvent) {operation : Operation}
    {request : BalanceRequest} {other : Scope}
    (asked : operation.request? ledger = some request)
    (overdrawn : ledger.overdrawn? request.scope request.token request.change = some other) :
    ∃ deposits eras, operation.recorded ledger = { ledger with deposits, eras } := by
  cases operation with
  | putDeposit id =>
      obtain ⟨eras, opened⟩ := ledger.openEra_frame id.token id.key.scheme
      exact ⟨_, eras, by simp only [Operation.recorded, opened]; rfl⟩
  | takeDeposit => exact ⟨_, ledger.eras, rfl⟩
  | queueWithdrawal id amount timestamp =>
      obtain rfl := Option.some.inj asked
      rw [overdrawn?_eq_none_of_deposited_eq_zero solvent rfl] at overdrawn
      contradiction
  | credit => exact ⟨ledger.deposits, ledger.eras, rfl⟩
  | debit => exact ⟨ledger.deposits, ledger.eras, rfl⟩
  | moveStalk => exact ⟨ledger.deposits, ledger.eras, rfl⟩
  | moveSeeds => exact ⟨ledger.deposits, ledger.eras, rfl⟩
  | _ => simp [Operation.request?] at asked

/-- After every run from the empty ledger, a refused operation leaves the ledger,
its journal included, as it was unless it puts into a deposit or takes from one
and is refused by the balances; then, and only then, something has changed, and
that is at most the record of the deposit and the eras. -/
theorem refused_unchanged_iff (v31Period : Option Int) (operations : List Operation)
    (operation : Operation) (failure : LedgerFailure)
    (refused : (operation.perform ((Ledger.empty v31Period).run operations)).result =
      .error failure) :
    ((operation.perform ((Ledger.empty v31Period).run operations)).ledger =
        (Ledger.empty v31Period).run operations ↔
      operation.deposit? = none ∨ failure.code ≠ "negative_balance") ∧
    ∃ deposits eras,
      (operation.perform ((Ledger.empty v31Period).run operations)).ledger =
          { (Ledger.empty v31Period).run operations with deposits, eras } ∧
        ∀ id, operation.deposit? ≠ some id →
          deposits.get? id = ((Ledger.empty v31Period).run operations).deposits.get? id := by
  have solvent := ((reconciled_empty v31Period).run operations).solvent
  generalize (Ledger.empty v31Period).run operations = ledger at solvent refused ⊢
  cases operation.ending ledger with
  | rejected reason admission performed =>
      rw [performed] at refused ⊢
      obtain rfl := Except.error.inj refused
      have otherReason : reason.code ≠ "negative_balance" := by
        intro same
        obtain ⟨scope, token, value, amount, rfl⟩ := LedgerFailure.code_eq_iff.mp same
        exact operation.admission_ne_negativeBalance ledger _ _ _ _ admission
      exact ⟨⟨fun _ => .inr otherReason, fun _ => rfl⟩, ledger.deposits, ledger.eras, rfl,
        fun _ _ => rfl⟩
  | plain admission asked performed =>
      rw [performed] at refused
      contradiction
  | booked request admission asked passed performed =>
      rw [performed] at refused
      contradiction
  | overdrawn request other admission asked overdrawn performed =>
      rw [performed] at refused ⊢
      obtain rfl := Except.error.inj refused
      obtain ⟨deposits, eras, frame⟩ := recorded_frame_of_overdrawn solvent asked overdrawn
      refine ⟨?_, deposits, eras, frame, fun id elsewhere => ?_⟩
      · rw [recorded_eq_iff_of_overdrawn solvent asked overdrawn]
        simp [overdraft, LedgerFailure.code]
      · have kept := Operation.get?_deposits_recorded_of_ne elsewhere ledger
        rw [frame] at kept
        exact kept

/-- A put of less than nothing is refused by the balances, and what it recorded
stays; the ledger is not the empty one any more. -/
theorem refused_put_changes_empty :
    let put : Operation := .putDeposit ⟨"0xa", "0xt", .season 1⟩ (-5) (-5) 1
    (put.perform ((Ledger.empty none).run [])).result =
        .error (.negativeBalance "0xa" "0xt" (-5) (-5)) ∧
      (put.perform ((Ledger.empty none).run [])).ledger ≠ (Ledger.empty none).run [] := by
  intro put
  have refused : (put.perform ((Ledger.empty none).run [])).result =
      .error (.negativeBalance "0xa" "0xt" (-5) (-5)) := by rfl
  refine ⟨refused, fun same => ?_⟩
  obtain none | otherReason := (refused_unchanged_iff none [] put _ refused).1.mp same
  · contradiction
  · exact otherReason rfl

/-- Taking out a deposit of which a part was debited is refused by the balances, and
yet the deposit is empty afterwards. -/
theorem refused_take_empties_deposit :
    let id : DepositId := ⟨"0xa", "0xt", .season 1⟩
    let ledger := (Ledger.empty none).run
      [.putDeposit id 100 100 1, .debit "0xa" "0xt" ⟨60, 60, 0, 0, 0⟩ 2]
    let taken := (Operation.takeDeposit id 100 (some 100) 3).perform ledger
    taken.result = .error (.negativeBalance "0xa" "0xt" (-60) (-60)) ∧
      (ledger.deposits.get? id).map Deposit.amount = some 100 ∧
      (taken.ledger.deposits.get? id).map Deposit.amount = some 0 ∧
      taken.ledger ≠ ledger := by
  intro id ledger taken
  have before : (ledger.deposits.get? id).map Deposit.amount = some 100 := by rfl
  have after : (taken.ledger.deposits.get? id).map Deposit.amount = some 0 := by rfl
  refine ⟨by rfl, before, after, fun same => ?_⟩
  rw [same, before] at after
  contradiction

end Ledger

end DepositYield
