import DepositYield.Ledger.Operation

/-!
# Runs of operations

A run is a fold over its operations.  The replies of a run say how each of its
operations ended.
-/

namespace DepositYield.Ledger

@[simp]
theorem run_nil (ledger : Ledger) : ledger.run [] = ledger :=
  rfl

@[simp]
theorem run_cons (ledger : Ledger) (operation : Operation) (operations : List Operation) :
    ledger.run (operation :: operations) = (operation.perform ledger).ledger.run operations :=
  rfl

theorem run_append (ledger : Ledger) (earlier later : List Operation) :
    ledger.run (earlier ++ later) = (ledger.run earlier).run later :=
  List.foldl_append

/-- What every operation preserves, every run preserves. -/
theorem run_preserves (invariant : Ledger → Prop)
    (step : ∀ ledger, invariant ledger →
      ∀ operation : Operation, invariant (operation.perform ledger).ledger)
    {ledger : Ledger} (start : invariant ledger) (operations : List Operation) :
    invariant (ledger.run operations) := by
  induction operations generalizing ledger with
  | nil => exact start
  | cons operation operations ih => exact ih (step ledger start operation)

/-- The operations of a run, each with what the ledger answered to it. -/
def replies (ledger : Ledger) :
    List Operation → List (Operation × Except LedgerFailure Reply)
  | [] => []
  | operation :: operations =>
      (operation, (operation.perform ledger).result) ::
        (operation.perform ledger).ledger.replies operations

end DepositYield.Ledger
