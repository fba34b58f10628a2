import DepositYield.Proofs.Event.Order
import DepositYield.Proofs.Ledger.Run

/-!
# Calls as operations

Whatever a follower is asked for, its ledger performs operations.  An event is a move of the
period, never backwards, and the operation that it stands for unless it is late.  So every mix
of events and operations leaves the ledger that some run of operations leaves.
-/

namespace DepositYield

/-- A period that is not behind is moved to. -/
theorem Operation.perform_advanceTo {ledger : Ledger} {period : Int}
    (ahead : ledger.period ≤ period) :
    ((Operation.advanceTo period).perform ledger).ledger = { ledger with period } := by
  simp [perform, Ledger.advanceTo, Outcome.map, Int.not_lt.mpr ahead]

namespace ChainFollower

/-- The operations that the ledger performs to answer a call. -/
def operationsOf (follower : ChainFollower) : FollowerCall → List Operation
  | .operation operation => [operation]
  | .event event =>
      .advanceTo (max follower.ledger.period event.position.period) ::
        if follower.lateness? event = none then [event.operation] else []

/-- The operations that the ledger performs to answer calls in a row. -/
def operationsOfAll (follower : ChainFollower) : List FollowerCall → List Operation
  | [] => []
  | call :: calls => follower.operationsOf call ++ (follower.answer call).operationsOfAll calls

theorem ledger_answer (follower : ChainFollower) (call : FollowerCall) :
    (follower.answer call).ledger = follower.ledger.run (follower.operationsOf call) := by
  cases call with
  | operation operation => rfl
  | event event =>
      have moved := Operation.perform_advanceTo
        (Int.le_max_left follower.ledger.period event.position.period)
      rw [operationsOf, Ledger.run_cons, moved, answer, apply_eq]
      cases late : follower.lateness? event with
      | none => rfl
      | some failure => rfl

theorem answerAll_cons (follower : ChainFollower) (call : FollowerCall)
    (calls : List FollowerCall) :
    follower.answerAll (call :: calls) = (follower.answer call).answerAll calls :=
  rfl

theorem answerAll_append (follower : ChainFollower) (earlier later : List FollowerCall) :
    follower.answerAll (earlier ++ later) = (follower.answerAll earlier).answerAll later :=
  List.foldl_append

/-- Calls in a row are a run of the ledger. -/
theorem ledger_answerAll (follower : ChainFollower) (calls : List FollowerCall) :
    (follower.answerAll calls).ledger = follower.ledger.run (follower.operationsOfAll calls) := by
  induction calls generalizing follower with
  | nil => rfl
  | cons call calls ih =>
      rw [answerAll_cons, ih, operationsOfAll, Ledger.run_append, ledger_answer]

end ChainFollower

end DepositYield
