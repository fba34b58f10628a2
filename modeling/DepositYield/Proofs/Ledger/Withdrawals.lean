import DepositYield.Proofs.Ledger.Refusal

/-!
# Withdrawals of the season era

Queueing a withdrawal writes its record first and asks the balances second.  They never
refuse, because nothing deposited moves and all balances are solvent.  So the withdrawn amount
of every balance is what was queued in the withdrawals that count for it; like a deposit, a
withdrawal counts for its account and for the protocol.  Claiming a withdrawal moves nothing,
and no operation takes a claim back.
-/

namespace DepositYield

namespace Operation

/-- The record of a withdrawal that an operation writes, if it writes one. -/
def writtenWithdrawal? (ledger : Ledger) : Operation → Option (WithdrawalId × Withdrawal)
  | .queueWithdrawal id amount timestamp =>
      some (id, ledger.withdrawalAfterQueue id amount timestamp)
  | .markClaimed id => some (id, { ledger.withdrawalAt id 0 with claimed := true })
  | _ => none

/-- What an operation queues in a withdrawal that counts for a scope and token. -/
def queued (scope : Scope) (token : Token) : Operation → Int
  | .queueWithdrawal id amount _ =>
      if token = id.token ∧ scope ∈ id.account.reached then amount else 0
  | _ => 0

/-- Every operation leaves the withdrawals with the record that it writes. -/
theorem withdrawals_perform (operation : Operation) (ledger : Ledger) :
    (operation.perform ledger).ledger.withdrawals =
      match operation.writtenWithdrawal? ledger with
      | some (id, withdrawal) => ledger.withdrawals.set id withdrawal
      | none => ledger.withdrawals := by
  cases admission : operation.admission ledger with
  | error failure =>
      rw [perform_of_rejected admission]
      cases operation with
      | queueWithdrawal => simp [Operation.admission] at admission
      | markClaimed => simp [Operation.admission] at admission
      | _ => rfl
  | ok _ =>
      obtain ⟨_, _, _, _, left⟩ := perform_frame_of_admitted admission
      rw [left]
      cases operation with
      | putDeposit id =>
          obtain ⟨eras, opened⟩ := ledger.openEra_frame id.token id.key.scheme
          simp only [recorded, opened]
          rfl
      | dewhitelist token =>
          simp only [recorded, Ledger.dewhitelist]
          split <;> rfl
      | _ => rfl

/-- The only change that a withdrawn amount is asked to make is that of a queued withdrawal. -/
theorem withdrawnAmount_of_request? {operation : Operation} {ledger : Ledger}
    {request : BalanceRequest} (asked : operation.request? ledger = some request)
    (scope : Scope) (token : Token) :
    (if token = request.token ∧ scope ∈ request.scope.reached then request.change.withdrawnAmount
      else 0) = operation.queued scope token := by
  cases operation with
  | queueWithdrawal =>
      obtain rfl := Option.some.inj asked
      rfl
  | credit | debit | putDeposit | takeDeposit | moveStalk | moveSeeds =>
      obtain rfl := Option.some.inj asked
      exact ite_self 0
  | _ => contradiction

end Operation

namespace Ledger

variable {ledger : Ledger}

/-! ## Queued amounts -/

/-- What was queued in a withdrawal, nothing if there is no record of it. -/
def queuedIn (ledger : Ledger) (id : WithdrawalId) : Int :=
  (ledger.withdrawalAt id 0).amount

theorem amount_withdrawalAt (ledger : Ledger) (id : WithdrawalId) (createdAt : Int) :
    (ledger.withdrawalAt id createdAt).amount = ledger.queuedIn id := by
  unfold queuedIn withdrawalAt Table.getD
  cases ledger.withdrawals.get? id <;> rfl

/-- What was queued in the withdrawals that count for a scope and token. -/
def queuedTotal (ledger : Ledger) (scope : Scope) (token : Token) : Int :=
  ledger.withdrawals.sumOver fun id withdrawal =>
    if token = id.token ∧ scope ∈ id.account.reached then withdrawal.amount else 0

/-- The withdrawals of an account and token in all seasons, in the order of their creation. -/
def accountWithdrawals (ledger : Ledger) (account : Scope) (token : Token) :
    List (WithdrawalId × Withdrawal) :=
  ledger.withdrawals.entries.filter fun entry =>
    entry.1.account = account ∧ entry.1.token = token

/-- What was queued in the withdrawals that count for an account is the sum over the
withdrawals of the account. -/
theorem queuedTotal_eq_sum (ledger : Ledger) {account : Scope}
    (isAccount : account ≠ protocolScope) (token : Token) :
    ledger.queuedTotal account token =
      ((ledger.accountWithdrawals account token).map fun entry => entry.2.amount).sum := by
  unfold queuedTotal Table.sumOver accountWithdrawals
  induction ledger.withdrawals.entries with
  | nil => rfl
  | cons entry entries ih =>
      obtain ⟨id, withdrawal⟩ := entry
      simp only [Scope.mem_reached_iff_eq isAccount] at ih ⊢
      by_cases counts : id.account = account ∧ id.token = token
      · obtain ⟨rfl, rfl⟩ := counts
        simp [ih]
      · have other : ¬(token = id.token ∧ account = id.account) := fun same =>
          counts ⟨same.2.symm, same.1.symm⟩
        simp [counts, other, ih]

/-- Writing a withdrawal changes what is queued for its account and for the protocol by as
much as the withdrawal changed. -/
theorem queuedTotal_writeWithdrawal (ledger : Ledger) (id : WithdrawalId)
    (withdrawal : Withdrawal) (scope : Scope) (token : Token) :
    (ledger.writeWithdrawal id withdrawal).queuedTotal scope token =
      ledger.queuedTotal scope token +
        if token = id.token ∧ scope ∈ id.account.reached then
          withdrawal.amount - ledger.queuedIn id
        else 0 := by
  refine (ledger.withdrawals.sumOver_set _ id withdrawal ⟨0, false, 0⟩ (ite_self 0)).trans
    (congrArg _ ?_)
  split
  · rfl
  · exact sub_zero 0

/-- Every operation adds what it queues. -/
theorem queuedTotal_perform (operation : Operation) (ledger : Ledger) (scope : Scope)
    (token : Token) :
    (operation.perform ledger).ledger.queuedTotal scope token =
      ledger.queuedTotal scope token + operation.queued scope token := by
  have written : (operation.perform ledger).ledger.queuedTotal scope token =
      match operation.writtenWithdrawal? ledger with
      | some (id, withdrawal) => (ledger.writeWithdrawal id withdrawal).queuedTotal scope token
      | none => ledger.queuedTotal scope token := by
    unfold queuedTotal
    rw [operation.withdrawals_perform]
    cases operation.writtenWithdrawal? ledger <;> rfl
  rw [written]
  cases operation with
  | queueWithdrawal id amount timestamp =>
      have added : (ledger.withdrawalAfterQueue id amount timestamp).amount =
          ledger.queuedIn id + amount := by
        rw [← ledger.amount_withdrawalAt id timestamp]
        rfl
      refine (ledger.queuedTotal_writeWithdrawal id _ scope token).trans (congrArg _ ?_)
      rw [added, add_sub_cancel_left]
      rfl
  | markClaimed id =>
      refine (ledger.queuedTotal_writeWithdrawal id _ scope token).trans (congrArg _ ?_)
      exact (ite_congr rfl (fun _ => sub_self _) fun _ => rfl).trans (ite_self 0)
  | _ => exact (add_zero _).symm

/-! ## Withdrawn amounts -/

/-- As long as all balances are solvent, every operation adds what it queues to the withdrawn
amounts of the balances that it reaches. -/
theorem withdrawnAmount_perform (solvent : ∀ scope token, (ledger.balance scope token).Solvent)
    (operation : Operation) (scope : Scope) (token : Token) :
    ((operation.perform ledger).ledger.balance scope token).withdrawnAmount =
      (ledger.balance scope token).withdrawnAmount + operation.queued scope token := by
  rw [operation.balance_perform]
  cases granted : operation.granted? ledger with
  | none =>
      have nothing : operation.queued scope token = 0 := by
        cases operation with
        | queueWithdrawal id amount timestamp =>
            -- This one is always granted: its change moves nothing that is checked.
            let request : BalanceRequest :=
              ⟨id.account, id.token, { Amounts.zero with withdrawnAmount := amount }, timestamp⟩
            have passed : ledger.overdrawn? request.scope request.token request.change = none :=
              overdrawn?_eq_none_of_deposited_eq_zero solvent rfl
            have goesThrough : (Operation.queueWithdrawal id amount timestamp).granted? ledger =
                some request := Operation.granted?_of_passed rfl rfl passed
            exact absurd (goesThrough.symm.trans granted) (Option.some_ne_none request)
        | _ => rfl
      rw [nothing]
      rfl
  | some request =>
      rw [← Operation.withdrawnAmount_of_request? (Operation.request?_of_granted? granted)]
      simp only
      split <;> rfl

/-- The withdrawn amount of every balance is what was queued in the withdrawals that count for
it, after every run from a ledger in which it is. -/
theorem withdrawnAmount_run {direct : Token → Amounts} (reconciled : ledger.Reconciled direct)
    (queued : ∀ scope token,
      (ledger.balance scope token).withdrawnAmount = ledger.queuedTotal scope token)
    (operations : List Operation) (scope : Scope) (token : Token) :
    ((ledger.run operations).balance scope token).withdrawnAmount =
      (ledger.run operations).queuedTotal scope token := by
  induction operations generalizing ledger direct with
  | nil => exact queued scope token
  | cons operation operations ih =>
      refine ih (reconciled.perform operation) fun scope token => ?_
      rw [withdrawnAmount_perform reconciled.solvent, queuedTotal_perform, queued]

/-! ## Claims -/

theorem claimed_withdrawalAt (ledger : Ledger) (id : WithdrawalId) (createdAt : Int) :
    (ledger.withdrawalAt id createdAt).claimed = (ledger.withdrawalAt id 0).claimed := by
  unfold withdrawalAt Table.getD
  cases ledger.withdrawals.get? id <;> rfl

/-- A withdrawal has a record, and it is claimed. -/
def IsClaimed (ledger : Ledger) (id : WithdrawalId) : Prop :=
  ∃ withdrawal, ledger.withdrawal id = some withdrawal ∧ withdrawal.claimed = true

theorem isClaimed_iff {id : WithdrawalId} :
    ledger.IsClaimed id ↔ (ledger.withdrawalAt id 0).claimed = true := by
  unfold IsClaimed Ledger.withdrawal withdrawalAt Table.getD
  cases ledger.withdrawals.get? id <;> simp

theorem withdrawalAt_perform (operation : Operation) (ledger : Ledger) (id : WithdrawalId) :
    (operation.perform ledger).ledger.withdrawalAt id 0 =
      match operation.writtenWithdrawal? ledger with
      | some (own, withdrawal) => if own = id then withdrawal else ledger.withdrawalAt id 0
      | none => ledger.withdrawalAt id 0 := by
  unfold withdrawalAt
  rw [operation.withdrawals_perform]
  cases operation.writtenWithdrawal? ledger with
  | none => rfl
  | some entry => exact Table.getD_set _ _ _ _ _

/-- No operation takes a claim back. -/
theorem IsClaimed.perform {id : WithdrawalId} (claimed : ledger.IsClaimed id)
    (operation : Operation) : (operation.perform ledger).ledger.IsClaimed id := by
  rw [isClaimed_iff] at claimed ⊢
  rw [withdrawalAt_perform]
  cases operation with
  | queueWithdrawal own amount timestamp =>
      simp only [Operation.writtenWithdrawal?]
      split
      · next same =>
          subst same
          exact (ledger.claimed_withdrawalAt own timestamp).trans claimed
      · exact claimed
  | markClaimed own =>
      simp only [Operation.writtenWithdrawal?]
      split
      · rfl
      · exact claimed
  | _ => exact claimed

/-- No run takes a claim back. -/
theorem IsClaimed.run {id : WithdrawalId} (claimed : ledger.IsClaimed id)
    (operations : List Operation) : (ledger.run operations).IsClaimed id :=
  run_preserves (fun ledger => ledger.IsClaimed id) (fun _ => IsClaimed.perform) claimed operations

/-- A withdrawal is claimed by claiming it, whether anything was queued in it or not. -/
theorem isClaimed_markClaimed (ledger : Ledger) (id : WithdrawalId) :
    (ledger.markClaimed id).IsClaimed id :=
  ⟨_, (ledger.withdrawals.get?_set id id _).trans (if_pos rfl), rfl⟩

/-- Claiming a withdrawal leaves what was queued in it and in all others. -/
theorem queuedIn_markClaimed (ledger : Ledger) (id other : WithdrawalId) :
    (ledger.markClaimed id).queuedIn other = ledger.queuedIn other := by
  have written : (ledger.markClaimed id).withdrawalAt other 0 =
      if id = other then { ledger.withdrawalAt id 0 with claimed := true }
      else ledger.withdrawalAt other 0 :=
    ledger.withdrawalAt_perform (.markClaimed id) other
  unfold queuedIn
  rw [written]
  split
  · next same => rw [same]
  · rfl

/-- After every run from the empty ledger, the withdrawn amount of an account in a token is
the sum of its withdrawals in all seasons.  Claiming one goes through and writes nothing but
its record, of which it keeps the amount; and what is claimed stays claimed, whatever is done
later. -/
theorem withdrawn_and_claimed_run (v31Period : Option Int) (operations : List Operation) :
    let ledger := (Ledger.empty v31Period).run operations
    (∀ account token, account ≠ protocolScope →
      (ledger.balance account token).withdrawnAmount =
        ((ledger.accountWithdrawals account token).map fun entry => entry.2.amount).sum) ∧
    (∀ id, ∃ withdrawals,
      (Operation.markClaimed id).perform ledger =
          { result := .ok .done, ledger := { ledger with withdrawals } } ∧
        { ledger with withdrawals }.IsClaimed id ∧
        (∀ other, { ledger with withdrawals }.queuedIn other = ledger.queuedIn other) ∧
        ∀ other, other ≠ id → withdrawals.get? other = ledger.withdrawals.get? other) ∧
    ∀ id, ledger.IsClaimed id → ∀ later, (ledger.run later).IsClaimed id := by
  intro ledger
  refine ⟨?_, ?_, ?_⟩
  · intro account token isAccount
    rw [← ledger.queuedTotal_eq_sum isAccount]
    exact withdrawnAmount_run (reconciled_empty v31Period) (fun _ _ => rfl) operations account
      token
  · intro id
    refine ⟨(ledger.markClaimed id).withdrawals, rfl, ledger.isClaimed_markClaimed id,
      ledger.queuedIn_markClaimed id, ?_⟩
    intro other different
    exact (ledger.withdrawals.get?_set id other _).trans (if_neg (Ne.symm different))
  · intro id claimed later
    exact claimed.run later

/-- Two seasons of one account, one of them claimed before anything was queued in it.  What is
queued after the claim, negative amounts included, counts as well, and the claim stays. -/
theorem claimed_season_keeps_counting :
    let first : WithdrawalId := ⟨"0xa", "0xt", 7⟩
    let second : WithdrawalId := ⟨"0xa", "0xt", 8⟩
    let earlier : List Operation :=
      [.markClaimed first, .queueWithdrawal second 50 1, .queueWithdrawal ⟨"0xb", "0xt", 7⟩ 9 1]
    let later : List Operation := [.queueWithdrawal first 30 2, .queueWithdrawal second (-20) 3]
    let ledger := (Ledger.empty none).run earlier
    let final := (Ledger.empty none).run (earlier ++ later)
    "0xa" ≠ protocolScope ∧ ledger.IsClaimed first ∧ final.IsClaimed first ∧
      final.withdrawal first = some ⟨30, true, 0⟩ ∧
      (final.balance "0xa" "0xt").withdrawnAmount = 60 := by
  intro first second earlier later ledger final
  have isAccount : "0xa" ≠ protocolScope := by decide
  have claimed : ledger.IsClaimed first := ⟨⟨0, true, 0⟩, by decide, rfl⟩
  have continued : final = ledger.run later := run_append (Ledger.empty none) earlier later
  have stays : final.IsClaimed first := by
    rw [continued]
    exact (withdrawn_and_claimed_run none earlier).2.2 first claimed later
  have sum := (withdrawn_and_claimed_run none (earlier ++ later)).1 "0xa" "0xt" isAccount
  have queued :
      ((final.accountWithdrawals "0xa" "0xt").map fun entry => entry.2.amount).sum = 60 := by
    decide
  exact ⟨isAccount, claimed, stays, by decide, sum.trans queued⟩

end Ledger

end DepositYield
