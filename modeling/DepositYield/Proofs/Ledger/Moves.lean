import DepositYield.Proofs.Ledger.Era
import DepositYield.Proofs.Ledger.GrownStalk

/-!
# Moves into and out of a deposit

Putting into a deposit or taking out of it, when it goes through, moves the same amounts in
the deposit and in the balances that the deposit counts for, and the stalk of the value in
the counter.  Of these it moves nothing else, and it keeps the settings and the eras that
are set.
-/

namespace DepositYield

namespace Ledger

variable {ledger : Ledger} {id : DepositId} {amount timestamp : Int} {value : Option Int}

/-- What is left in a deposit, nothing if there is no record of it. -/
def remaining (ledger : Ledger) (id : DepositId) : Amounts :=
  (ledger.depositAt id 0).remaining

theorem remaining_depositAt (ledger : Ledger) (id : DepositId) (createdAt : Int) :
    (ledger.depositAt id createdAt).remaining = ledger.remaining id := by
  unfold remaining depositAt Table.getD
  cases ledger.deposits.get? id <;> rfl

theorem remaining_of_get? {deposit : Deposit} (held : ledger.deposits.get? id = some deposit) :
    ledger.remaining id = deposit.remaining := by
  unfold remaining depositAt Table.getD
  rw [held]
  rfl

/-- If no record of a deposit is negative, none is where there is no record either. -/
theorem solvent_remaining
    (solvent : ∀ id deposit, ledger.deposits.get? id = some deposit → deposit.remaining.Solvent)
    (id : DepositId) : (ledger.remaining id).Solvent := by
  cases held : ledger.deposits.get? id with
  | none =>
      unfold remaining depositAt Table.getD
      rw [held]
      exact Amounts.solvent_zero
  | some deposit =>
      rw [remaining_of_get? held]
      exact solvent id deposit held

theorem admission_of_accepted {operation : Operation} {reply : Reply}
    (accepted : (operation.perform ledger).result = .ok reply) :
    operation.admission ledger = .ok () := by
  cases admission : operation.admission ledger with
  | ok _ => rfl
  | error failure =>
      rw [Operation.perform_of_rejected admission] at accepted
      contradiction

theorem grownStalkOf_neg (ledger : Ledger) (token : Token) (value : Int) :
    ledger.grownStalkOf token (-value) = -ledger.grownStalkOf token value := by
  unfold grownStalkOf proportion
  rw [neg_mul, Int.neg_tdiv]

/-- One ledger comes from another by moving amounts into a deposit. -/
structure Moved (id : DepositId) (change : Amounts) (before after : Ledger) : Prop where
  balance : ∀ scope token, after.balance scope token = before.balance scope token +
    if token = id.token ∧ scope ∈ id.account.reached then change else 0
  remaining : ∀ other, after.remaining other = before.remaining other +
    if id = other then change else 0
  grownStalk : after.grownStalkPerSeason =
    before.grownStalkPerSeason + before.grownStalkOf id.token change.depositedValue
  settings : after.settings = before.settings
  eras : ∀ token era, before.eras.get? token = some era → after.eras.get? token = some era

/-- An operation that writes a deposit and goes through moves what it asks for. -/
theorem moved_of_accepted {operation : Operation} {deposit : Deposit} {change : Amounts}
    {reply : Reply} (accepted : (operation.perform ledger).result = .ok reply)
    (asked : operation.request? ledger = some ⟨id.account, id.token, change, timestamp⟩)
    (written : operation.written? ledger = some (id, deposit))
    (left : deposit.remaining = ledger.remaining id + change)
    (grows : operation.growth ledger = ledger.grownStalkOf id.token change.depositedValue) :
    Moved id change ledger (operation.perform ledger).ledger := by
  have granted : operation.granted? ledger =
      some ⟨id.account, id.token, change, timestamp⟩ := by
    unfold Operation.granted?
    rw [accepted]
    exact asked
  have admitted := admission_of_accepted accepted
  have about := Operation.pair?_of_request? asked
  refine ⟨fun scope token => ?_, fun other => ?_, ?_, ?_, fun token era set => ?_⟩
  · have balance := operation.balance_perform ledger scope token
    rwa [granted] at balance
  · have deposits := operation.get?_deposits_recorded ledger other
    rw [written, ← Operation.deposits_perform admitted] at deposits
    by_cases own : id = other
    · subst own
      simp only [if_true] at deposits ⊢
      rw [remaining_of_get? deposits, left]
    · simp only [if_neg own, add_zero] at deposits ⊢
      rw [← remaining_depositAt _ other 0, ← remaining_depositAt _ other 0]
      unfold depositAt Table.getD
      rw [deposits]
      cases ledger.deposits.get? other <;> rfl
  · have grown := operation.grown_eq ledger
    unfold Operation.grown at grown
    rw [granted] at grown
    rw [← grows]
    exact eq_add_of_sub_eq' grown
  · obtain ⟨_, _, _, _, performed⟩ := Operation.perform_frame_of_admitted admitted
    obtain ⟨_, _, _, recorded⟩ := Operation.recorded_frame_of_pair? about ledger
    rw [performed, recorded]
  · rw [(Operation.shared_perform about ledger).2 token, set]
    rfl

/-- A put that goes through moves its amount and value into the deposit. -/
theorem moved_of_put {put : Int} {reply : Reply}
    (accepted : ((Operation.putDeposit id amount put timestamp).perform ledger).result =
      .ok reply) :
    Moved id (depositChange amount put) ledger
      ((Operation.putDeposit id amount put timestamp).perform ledger).ledger := by
  refine moved_of_accepted accepted rfl rfl ?_ rfl
  rw [remaining_depositAfterPut, remaining_depositAt]

/-- A put that goes through is of the era of its token from then on. -/
theorem era_of_put {put : Int} {reply : Reply}
    (accepted : ((Operation.putDeposit id amount put timestamp).perform ledger).result =
      .ok reply) :
    ((Operation.putDeposit id amount put timestamp).perform ledger).ledger.eras.get? id.token =
      some id.key.scheme := by
  have admitted : ledger.requireEra id.token id.key = .ok () := admission_of_accepted accepted
  rw [(Operation.shared_perform rfl ledger).2 id.token]
  rcases requireEra_eq_ok_iff.mp admitted with unset | set
  · rw [show ledger.eras.get? id.token = none from unset]
    exact if_pos rfl
  · rw [show ledger.eras.get? id.token = some id.key.scheme from set]
    rfl

/-- A take that goes through moves its amount and the value taken out of the deposit. -/
theorem moved_of_take {reply : Reply}
    (accepted : ((Operation.takeDeposit id amount value timestamp).perform ledger).result =
      .ok reply) :
    Moved id (-depositChange amount (ledger.valueTaken id amount value)) ledger
      ((Operation.takeDeposit id amount value timestamp).perform ledger).ledger :=
  moved_of_accepted accepted rfl rfl (remaining_depositAfterTake id amount value timestamp)
    (ledger.grownStalkOf_neg id.token _).symm

/-- A take sets no era. -/
theorem requireEra_take (token : Token) (key : DepositKey) :
    ((Operation.takeDeposit id amount value timestamp).perform ledger).ledger.requireEra token
        key = ledger.requireEra token key := by
  have about : (Operation.takeDeposit id amount value timestamp).pair? =
      some (id.account, id.token) := rfl
  have eras := (Operation.shared_perform about ledger).2 token
  unfold requireEra
  rw [eras]
  cases ledger.eras.get? token <;> rfl

/-- What the era admits, the deposit holds and the balances bear can be taken out. -/
theorem take_accepted (era : ledger.requireEra id.token id.key = .ok ())
    (amountHeld : amount ≤ (ledger.remaining id).depositedAmount)
    (valueHeld : ledger.valueTaken id amount value ≤ (ledger.remaining id).depositedValue)
    (borne : ∀ scope ∈ id.account.reached, (ledger.balance scope id.token +
      -depositChange amount (ledger.valueTaken id amount value)).Solvent) :
    ((Operation.takeDeposit id amount value timestamp).perform ledger).result =
      .ok (.amount (ledger.valueTaken id amount value)) := by
  have within : ¬ ((ledger.depositAt id 0).amount < amount ∨
      (ledger.depositAt id 0).value < ledger.valueTaken id amount value) := by
    rintro (amountOver | valueOver)
    · exact Int.not_lt.mpr amountHeld amountOver
    · exact Int.not_lt.mpr valueHeld valueOver
  have admitted :
      (Operation.takeDeposit id amount value timestamp).admission ledger = .ok () := by
    simp only [Operation.admission, era]
    exact if_neg within
  rw [Operation.perform_eq, admitted]
  simp only [Operation.request?, overdrawn?_eq_none_iff.mpr borne, Operation.reply]

end Ledger

end DepositYield
