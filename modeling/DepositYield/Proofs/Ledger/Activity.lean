import DepositYield.Proofs.Ledger.Standing
import DepositYield.Proofs.Ledger.Run

/-!
# Active accounts and stalk

Only a move of stalk brings the active accounts up to date.  Credits and debits move stalk,
too, but leave the active accounts as they are until the next move of stalk of the account.
So an account is active exactly if the stalk that it had at the last move is above zero,
which is its stalk less all that was credited and debited since.
-/

namespace DepositYield

namespace Operation

/-- The stalk of an account that credits and debits have moved since its place among the
active accounts was last brought up to date, once an operation is performed. -/
def unrefreshed (ledger : Ledger) (account : Scope) (moved : Int) (operation : Operation) : Int :=
  match operation.granted? ledger with
  | none => moved
  | some request =>
      if operation.refreshed? = some account then 0
      else if account = request.scope then moved + request.change.stalk
      else moved

/-- Nothing but credits and debits leaves stalk that is not taken account of. -/
theorem unrefreshed_zero {operation : Operation} {account : Scope}
    (isAccount : account ≠ protocolScope) (indirect : ¬operation.MovesStalkDirectly account)
    (ledger : Ledger) : operation.unrefreshed ledger account 0 = 0 := by
  unfold unrefreshed
  cases granted : operation.granted? ledger with
  | none => rfl
  | some request =>
      simp only [zero_add]
      split
      · rfl
      · next stale =>
          split
          · next own =>
              subst own
              have asked := request?_of_granted? granted
              rcases refreshed?_or_stalk_eq_zero asked isAccount indirect with
                refreshed | ⟨-, noStalk⟩
              · exact absurd refreshed stale
              · exact noStalk
          · rfl

end Operation

namespace Ledger

variable {ledger : Ledger} {account : Scope} {moved : Int}

/-- The stalk of an account that credits and debits of a run have moved since its place among
the active accounts was last brought up to date. -/
def unrefreshedStalk (ledger : Ledger) (account : Scope) (moved : Int) : List Operation → Int
  | [] => moved
  | operation :: operations =>
      (operation.perform ledger).ledger.unrefreshedStalk account
        (operation.unrefreshed ledger account moved) operations

theorem unrefreshedStalk_zero {operations : List Operation} (isAccount : account ≠ protocolScope)
    (indirect : ∀ operation ∈ operations, ¬operation.MovesStalkDirectly account) :
    ledger.unrefreshedStalk account 0 operations = 0 := by
  induction operations generalizing ledger with
  | nil => rfl
  | cons operation operations ih =>
      obtain ⟨first, rest⟩ := List.forall_mem_cons.mp indirect
      unfold unrefreshedStalk
      rw [Operation.unrefreshed_zero isAccount first]
      exact ih rest

/-- An account is active exactly if its stalk is above zero but for what has been moved since
it was last brought up to date. -/
def ActiveUpTo (ledger : Ledger) (account : Scope) (moved : Int) : Prop :=
  account ∈ ledger.activeAccounts ↔ 0 < (ledger.totals account).stalk - moved

theorem activeUpTo_empty (v31Period : Option Int) (account : Scope) :
    (Ledger.empty v31Period).ActiveUpTo account 0 := by
  constructor
  · intro inside
    exact absurd inside List.not_mem_nil
  · intro positive
    exact (Int.lt_irrefl 0 positive).elim

namespace ActiveUpTo

/-- Every operation either takes account of the stalk moved so far or adds to it. -/
theorem perform (active : ledger.ActiveUpTo account moved) (isAccount : account ≠ protocolScope)
    (operation : Operation) :
    (operation.perform ledger).ledger.ActiveUpTo account
      (operation.unrefreshed ledger account moved) := by
  have stalk := operation.stalk_totals_perform ledger isAccount
  unfold ActiveUpTo at active ⊢
  rw [operation.mem_activeAccounts_perform ledger account]
  unfold Operation.unrefreshed
  cases granted : operation.granted? ledger with
  | none =>
      simp only [granted, add_zero] at stalk
      simpa [stalk] using active
  | some request =>
      simp only [granted] at stalk
      simp only [Option.isSome_some, true_and]
      -- a move of stalk settles the account; what else is granted counts on both sides
      split
      · rw [sub_zero]
      · rw [active, stalk]
        split
        · rw [add_sub_add_right_eq_sub]
        · rw [add_zero]

theorem run (active : ledger.ActiveUpTo account moved) (isAccount : account ≠ protocolScope)
    (operations : List Operation) :
    (ledger.run operations).ActiveUpTo account
      (ledger.unrefreshedStalk account moved operations) := by
  induction operations generalizing ledger moved with
  | nil => exact active
  | cons operation operations ih => exact ih (active.perform isAccount operation)

end ActiveUpTo

/-- After every run from the empty ledger, an account is active exactly if its stalk less what
credits and debits have moved since its last move of stalk is above zero.  So the active
accounts are those with stalk above zero as long as credits and debits move none. -/
theorem mem_activeAccounts_run_iff (v31Period : Option Int) (operations : List Operation)
    (account : Scope) (isAccount : account ≠ protocolScope) :
    let start := Ledger.empty v31Period
    let ledger := start.run operations
    (account ∈ ledger.activeAccounts ↔
      0 < (ledger.totals account).stalk - start.unrefreshedStalk account 0 operations) ∧
    ((∀ operation ∈ operations, ¬operation.MovesStalkDirectly account) →
      (account ∈ ledger.activeAccounts ↔ 0 < (ledger.totals account).stalk)) := by
  intro start ledger
  have active : account ∈ ledger.activeAccounts ↔
      0 < (ledger.totals account).stalk - start.unrefreshedStalk account 0 operations :=
    (activeUpTo_empty v31Period account).run isAccount operations
  refine ⟨active, fun indirect => ?_⟩
  rw [active, unrefreshedStalk_zero isAccount indirect, sub_zero]

/-- A credit takes more stalk from an account than it has, and it stays active.  Where credits
move none, and the stalk of another account does not count, it is active as its stalk is. -/
theorem active_until_next_move :
    let overdrawing : List Operation :=
      [.moveStalk "0xa" "0xt" 100 0 1, .credit "0xa" "0xs" ⟨10, 5, -150, 0, 0⟩ 2]
    let moving : List Operation :=
      [.moveStalk "0xa" "0xt" 100 0 1, .credit "0xa" "0xs" ⟨10, 5, 0, 7, 0⟩ 2,
        .debit "0xb" "0xs" ⟨0, 0, 30, 0, 0⟩ 3, .moveStalk "0xa" "0xs" (-40) 0 4]
    let left := (Ledger.empty none).run overdrawing
    let moved := (Ledger.empty none).run moving
    ("0xa" ≠ protocolScope ∧
      (Ledger.empty none).unrefreshedStalk "0xa" 0 overdrawing = -150 ∧
      (left.totals "0xa").stalk = -50 ∧ "0xa" ∈ left.activeAccounts) ∧
    (∀ operation ∈ moving, ¬operation.MovesStalkDirectly "0xa") ∧
      (moved.totals "0xa").stalk = 60 ∧ "0xa" ∈ moved.activeAccounts := by
  intro overdrawing moving left moved
  have isAccount : "0xa" ≠ protocolScope := by decide
  have unrefreshed : (Ledger.empty none).unrefreshedStalk "0xa" 0 overdrawing = -150 := by
    decide +kernel
  have overdrawn : (left.totals "0xa").stalk = -50 := by decide +kernel
  have indirect : ∀ operation ∈ moving, ¬operation.MovesStalkDirectly "0xa" := by
    simp [moving, Operation.MovesStalkDirectly]
  have held : (moved.totals "0xa").stalk = 60 := by decide +kernel
  refine ⟨⟨isAccount, unrefreshed, overdrawn, ?_⟩, indirect, held, ?_⟩
  · rw [(mem_activeAccounts_run_iff none overdrawing "0xa" isAccount).1, unrefreshed, overdrawn]
    decide
  · rw [(mem_activeAccounts_run_iff none moving "0xa" isAccount).2 indirect, held]
    decide

/-- A credit of stalk to an account does not make it active. -/
theorem credited_stalk_leaves_inactive :
    ¬∀ (v31Period : Option Int) (operations : List Operation) (account : Scope),
      account ≠ protocolScope →
        (account ∈ ((Ledger.empty v31Period).run operations).activeAccounts ↔
          0 < (((Ledger.empty v31Period).run operations).totals account).stalk) := by
  intro active
  have credited := active none [.credit "0xa" "0xt" ⟨0, 0, 5, 0, 0⟩ 1] "0xa" (by decide)
  have held : 0 < (((Ledger.empty none).run
      [.credit "0xa" "0xt" ⟨0, 0, 5, 0, 0⟩ 1]).totals "0xa").stalk := by decide +kernel
  exact absurd (credited.mpr held) (by decide +kernel)

end Ledger

end DepositYield
