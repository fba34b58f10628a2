import DepositYield.Ledger.Operation
import DepositYield.Proofs.Ledger.Change

/-!
# Operations in phases

Every operation runs through the same phases: it is admitted or rejected, it
writes its records, it asks for at most one change of a balance, and when that
is booked it brings the counters up to date.  A change that is refused leaves
the records written.
-/

namespace DepositYield

/-- A change of a balance that an operation asks for. -/
structure BalanceRequest where
  scope : Scope
  token : Token
  change : Amounts
  timestamp : Int

namespace Ledger

/-- The record of a deposit once an amount and its value have been put in. -/
def depositAfterPut (ledger : Ledger) (id : DepositId) (amount value timestamp : Int) : Deposit :=
  let held := ledger.depositAt id timestamp
  { held with
    amount := held.amount + amount
    value := held.value + value
    updatedAt := timestamp }

/-- The value that is taken out of a deposit along with an amount. -/
def valueTaken (ledger : Ledger) (id : DepositId) (amount : Int) (value : Option Int) : Int :=
  removedValue (ledger.depositAt id 0) amount value

/-- The record of a deposit once an amount and its value have been taken out. -/
def depositAfterTake (ledger : Ledger) (id : DepositId) (amount : Int) (value : Option Int)
    (timestamp : Int) : Deposit :=
  let held := ledger.depositAt id 0
  { held with
    amount := held.amount - amount
    value := held.value - ledger.valueTaken id amount value
    withdrawnAmount := held.withdrawnAmount + amount
    withdrawnValue := held.withdrawnValue + ledger.valueTaken id amount value
    updatedAt := timestamp }

/-- The record of a withdrawal once an amount has been queued. -/
def withdrawalAfterQueue (ledger : Ledger) (id : WithdrawalId) (amount timestamp : Int) :
    Withdrawal :=
  let held := ledger.withdrawalAt id timestamp
  { held with amount := held.amount + amount }

end Ledger

namespace Operation

/-- The scope and the token that an operation is about, if it is about a scope. -/
def pair? : Operation → Option (Scope × Token)
  | .credit scope token _ _ => some (scope, token)
  | .debit scope token _ _ => some (scope, token)
  | .readDeposit id => some (id.account, id.token)
  | .putDeposit id _ _ _ => some (id.account, id.token)
  | .takeDeposit id _ _ _ => some (id.account, id.token)
  | .moveStalk account token _ _ _ => some (account, token)
  | .moveSeeds account token _ _ => some (account, token)
  | .queueWithdrawal id _ _ => some (id.account, id.token)
  | .markClaimed id => some (id.account, id.token)
  | _ => none

/-- The deposit that an operation puts into or takes from, if it does either. -/
def deposit? : Operation → Option DepositId
  | .putDeposit id _ _ _ => some id
  | .takeDeposit id _ _ _ => some id
  | _ => none

/-- What is checked before anything is written. -/
def admission (ledger : Ledger) : Operation → Except LedgerFailure Unit
  | .readDeposit id => ledger.requireEra id.token id.key
  | .putDeposit id _ _ _ => ledger.requireEra id.token id.key
  | .takeDeposit id amount value _ =>
      match ledger.requireEra id.token id.key with
      | .error failure => .error failure
      | .ok () =>
          let held := ledger.depositAt id 0
          let removed := ledger.valueTaken id amount value
          if held.amount < amount ∨ held.value < removed then
            .error (.withdrawalExceedsDeposit id held.amount held.value amount removed)
          else
            .ok ()
  | .advanceTo period =>
      if period < ledger.period then .error (.periodRegression period ledger.period) else .ok ()
  | _ => .ok ()

/-- The ledger with everything that is written before the balances are asked. -/
def recorded (ledger : Ledger) : Operation → Ledger
  | .putDeposit id amount value timestamp =>
      (ledger.openEra id.token id.key.scheme).writeDeposit id
        (ledger.depositAfterPut id amount value timestamp)
  | .takeDeposit id amount value timestamp =>
      ledger.writeDeposit id (ledger.depositAfterTake id amount value timestamp)
  | .queueWithdrawal id amount timestamp =>
      ledger.writeWithdrawal id (ledger.withdrawalAfterQueue id amount timestamp)
  | .adoptStems token => ledger.adoptStems token
  | .markClaimed id => ledger.markClaimed id
  | .whitelist token setting timestamp => ledger.whitelist token setting timestamp
  | .dewhitelist token => ledger.dewhitelist token
  | .setStalkPerSeason token season stalkEarnedPerSeason timestamp =>
      ledger.setStalkPerSeason token season stalkEarnedPerSeason timestamp
  | .configureGauge token gaugePoints optimalPercent pointRule timestamp =>
      ledger.configureGauge token gaugePoints optimalPercent pointRule timestamp
  | .setPointRatio ratio => ledger.setPointRatio ratio
  | .germinate token period value => ledger.germinate token period value
  | .finishGermination token period => (ledger.finishGermination token period).2
  | .advanceTo period => { ledger with period }
  | _ => ledger

/-- The record of a deposit that an operation writes, if it writes one. -/
def written? (ledger : Ledger) : Operation → Option (DepositId × Deposit)
  | .putDeposit id amount value timestamp =>
      some (id, ledger.depositAfterPut id amount value timestamp)
  | .takeDeposit id amount value timestamp =>
      some (id, ledger.depositAfterTake id amount value timestamp)
  | _ => none

/-- The change of a balance that an operation asks for, if any. -/
def request? (ledger : Ledger) : Operation → Option BalanceRequest
  | .credit scope token movement timestamp => some ⟨scope, token, movement.amounts, timestamp⟩
  | .debit scope token movement timestamp => some ⟨scope, token, -movement.amounts, timestamp⟩
  | .putDeposit id amount value timestamp =>
      some ⟨id.account, id.token, Ledger.depositChange amount value, timestamp⟩
  | .takeDeposit id amount value timestamp =>
      some ⟨id.account, id.token,
        -Ledger.depositChange amount (ledger.valueTaken id amount value), timestamp⟩
  | .moveStalk account token stalk roots timestamp =>
      some ⟨account, token, { Amounts.zero with stalk, roots }, timestamp⟩
  | .moveSeeds account token seeds timestamp =>
      some ⟨account, token, { Amounts.zero with seeds }, timestamp⟩
  | .queueWithdrawal id amount timestamp =>
      some ⟨id.account, id.token, { Amounts.zero with withdrawnAmount := amount }, timestamp⟩
  | _ => none

/-- What an operation adds to the stalk grown per season. -/
def growth (ledger : Ledger) : Operation → Int
  | .putDeposit id _ value _ => ledger.grownStalkOf id.token value
  | .takeDeposit id amount value _ =>
      -ledger.grownStalkOf id.token (ledger.valueTaken id amount value)
  | _ => 0

/-- The ledger with the counters brought up to date after a change was booked. -/
def completed (ledger booked : Ledger) : Operation → Ledger
  | .moveStalk account _ _ _ _ =>
      if account = protocolScope then booked else booked.refreshActive account
  | operation => booked.addGrownStalk (operation.growth ledger)

/-- The reply to an operation that goes through. -/
def reply (ledger : Ledger) : Operation → Reply
  | .readDeposit id => .deposit id (ledger.depositAt id 0)
  | .putDeposit id amount value timestamp =>
      .deposit id (ledger.depositAfterPut id amount value timestamp)
  | .takeDeposit id amount value _ => .amount (ledger.valueTaken id amount value)
  | .queueWithdrawal id amount timestamp =>
      .withdrawal id (ledger.withdrawalAfterQueue id amount timestamp)
  | .finishGermination token period => .amount ((ledger.germination token).bucket period)
  | _ => .done

end Operation

namespace Ledger

/-- A deposit is taken from after the admission of the key and of the amounts. -/
theorem takeDeposit_eq (ledger : Ledger) (id : DepositId) (amount : Int) (value : Option Int)
    (timestamp : Int) :
    ledger.takeDeposit id amount value timestamp =
      match ledger.requireEra id.token id.key with
      | .error failure => { result := .error failure, ledger }
      | .ok () =>
          let held := ledger.depositAt id 0
          let removed := ledger.valueTaken id amount value
          if held.amount < amount ∨ held.value < removed then
            { result := .error
                (.withdrawalExceedsDeposit id held.amount held.value amount removed)
              ledger }
          else
            let recorded := ledger.writeDeposit id
              (ledger.depositAfterTake id amount value timestamp)
            match recorded.change id.account id.token (-depositChange amount removed)
                timestamp with
            | .error failure => { result := .error failure, ledger := recorded }
            | .ok debited =>
                { result := .ok removed
                  ledger := debited.addGrownStalk (-debited.grownStalkOf id.token removed) } :=
  rfl

/-! ## What the phases leave alone -/

/-- Opening an era changes nothing else. -/
theorem openEra_frame (ledger : Ledger) (token : Token) (scheme : KeyScheme) :
    ∃ eras, ledger.openEra token scheme = { ledger with eras } := by
  unfold openEra
  split
  · exact ⟨ledger.eras, rfl⟩
  · exact ⟨_, rfl⟩

/-- Refreshing the active accounts changes nothing else. -/
theorem refreshActive_frame (ledger : Ledger) (account : Scope) :
    ∃ activeAccounts, ledger.refreshActive account = { ledger with activeAccounts } := by
  unfold refreshActive
  split
  · exact ⟨_, rfl⟩
  · exact ⟨_, rfl⟩

@[simp]
theorem addGrownStalk_zero (ledger : Ledger) : ledger.addGrownStalk 0 = ledger := by
  simp [addGrownStalk]

end Ledger

namespace Operation

/-- Recording leaves the balances, the journal and the counters alone. -/
theorem recorded_frame (operation : Operation) (ledger : Ledger) :
    (operation.recorded ledger).balances = ledger.balances ∧
      (operation.recorded ledger).journal = ledger.journal ∧
      (operation.recorded ledger).activeAccounts = ledger.activeAccounts ∧
      (operation.recorded ledger).grownStalkPerSeason = ledger.grownStalkPerSeason := by
  cases operation with
  | putDeposit id =>
      obtain ⟨eras, opened⟩ := ledger.openEra_frame id.token id.key.scheme
      simp [recorded, opened, Ledger.writeDeposit]
  | dewhitelist token =>
      simp only [recorded, Ledger.dewhitelist]
      split <;> exact ⟨rfl, rfl, rfl, rfl⟩
  | _ => exact ⟨rfl, rfl, rfl, rfl⟩

theorem pair?_of_request? {operation : Operation} {ledger : Ledger} {request : BalanceRequest}
    (asked : operation.request? ledger = some request) :
    operation.pair? = some (request.scope, request.token) := by
  cases operation <;> simp only [request?, Option.some.injEq, reduceCtorEq] at asked <;>
    subst asked <;> rfl

/-- An operation on an account and a token writes only records of deposits and
withdrawals, and eras. -/
theorem recorded_frame_of_pair? {operation : Operation} {pair : Scope × Token}
    (about : operation.pair? = some pair) (ledger : Ledger) :
    ∃ deposits withdrawals eras,
      operation.recorded ledger = { ledger with deposits, withdrawals, eras } := by
  cases operation with
  | putDeposit id =>
      obtain ⟨eras, opened⟩ := ledger.openEra_frame id.token id.key.scheme
      exact ⟨_, ledger.withdrawals, eras, by simp only [recorded, opened]; rfl⟩
  | takeDeposit => exact ⟨_, _, _, rfl⟩
  | readDeposit => exact ⟨_, _, _, rfl⟩
  | queueWithdrawal => exact ⟨_, _, _, rfl⟩
  | markClaimed => exact ⟨_, _, _, rfl⟩
  | credit => exact ⟨_, _, _, rfl⟩
  | debit => exact ⟨_, _, _, rfl⟩
  | moveStalk => exact ⟨_, _, _, rfl⟩
  | moveSeeds => exact ⟨_, _, _, rfl⟩
  | _ => simp [pair?] at about

/-- An operation writes no deposits but the record of its own. -/
theorem deposits_recorded (operation : Operation) (ledger : Ledger) :
    (operation.recorded ledger).deposits =
      match operation.written? ledger with
      | some (id, deposit) => ledger.deposits.set id deposit
      | none => ledger.deposits := by
  cases operation with
  | putDeposit id =>
      obtain ⟨eras, opened⟩ := ledger.openEra_frame id.token id.key.scheme
      simp only [recorded, opened]
      rfl
  | dewhitelist token =>
      simp only [recorded, Ledger.dewhitelist]
      split <;> rfl
  | _ => rfl

theorem get?_deposits_recorded (operation : Operation) (ledger : Ledger) (id : DepositId) :
    (operation.recorded ledger).deposits.get? id =
      match operation.written? ledger with
      | some (own, deposit) => if own = id then some deposit else ledger.deposits.get? id
      | none => ledger.deposits.get? id := by
  rw [deposits_recorded]
  cases operation.written? ledger with
  | none => rfl
  | some entry => exact Table.get?_set _ _ _ _

/-- The only record of a deposit that an operation writes is that of its own. -/
theorem get?_deposits_recorded_of_ne {operation : Operation} {id : DepositId}
    (other : operation.deposit? ≠ some id) (ledger : Ledger) :
    (operation.recorded ledger).deposits.get? id = ledger.deposits.get? id := by
  rw [get?_deposits_recorded]
  cases operation with
  | putDeposit own => exact if_neg fun same => other (congrArg some same)
  | takeDeposit own => exact if_neg fun same => other (congrArg some same)
  | _ => rfl

theorem written?_eq_none_of_request? {operation : Operation} {ledger : Ledger}
    (asked : operation.request? ledger = none) : operation.written? ledger = none := by
  cases operation with
  | putDeposit => simp [request?] at asked
  | takeDeposit => simp [request?] at asked
  | _ => rfl

/-- Completing touches only the active accounts and the stalk grown per
season. -/
theorem completed_frame (operation : Operation) (ledger booked : Ledger) :
    ∃ activeAccounts grownStalkPerSeason,
      operation.completed ledger booked =
        { booked with activeAccounts, grownStalkPerSeason } := by
  cases operation with
  | moveStalk account =>
      simp only [completed]
      split
      · exact ⟨_, _, rfl⟩
      · obtain ⟨accounts, refreshed⟩ := booked.refreshActive_frame account
        exact ⟨accounts, booked.grownStalkPerSeason, refreshed⟩
  | _ => exact ⟨_, _, rfl⟩

/-! ## The phases in a row -/

/-- An operation is its phases, one after the other. -/
theorem perform_eq (operation : Operation) (ledger : Ledger) :
    operation.perform ledger =
      match operation.admission ledger with
      | .error failure => { result := .error failure, ledger }
      | .ok () =>
          match operation.request? ledger with
          | none =>
              { result := .ok (operation.reply ledger), ledger := operation.recorded ledger }
          | some request =>
              match ledger.overdrawn? request.scope request.token request.change with
              | some other =>
                  { result := .error (ledger.overdraft other request.token request.change)
                    ledger := operation.recorded ledger }
              | none =>
                  { result := .ok (operation.reply ledger)
                    ledger := operation.completed ledger
                      ((operation.recorded ledger).book request.scope request.token
                        request.change request.timestamp) } := by
  cases operation with
  | readDeposit id =>
      simp only [perform, admission, request?, Ledger.deposit]
      cases ledger.requireEra id.token id.key <;> rfl
  | putDeposit id amount value timestamp =>
      obtain ⟨eras, opened⟩ := ledger.openEra_frame id.token id.key.scheme
      simp only [perform, admission, request?, Ledger.putDeposit]
      cases ledger.requireEra id.token id.key with
      | error failure => rfl
      | ok _ =>
          simp only
          rw [Ledger.change_eq_of_balances_eq ledger _ (by rw [opened]; rfl)]
          cases ledger.overdrawn? id.account id.token (Ledger.depositChange amount value) with
          | some other => rfl
          | none =>
              simp only [completed, growth, recorded, opened]
              rfl
  | takeDeposit id amount value timestamp =>
      simp only [perform, admission, request?, Ledger.takeDeposit_eq]
      cases ledger.requireEra id.token id.key with
      | error failure => rfl
      | ok _ =>
          simp only
          split
          · rfl
          · rw [Ledger.change_eq_of_balances_eq ledger (ledger.writeDeposit id _) rfl]
            cases ledger.overdrawn? id.account id.token
              (-Ledger.depositChange amount (ledger.valueTaken id amount value)) <;> rfl
  | queueWithdrawal id amount timestamp =>
      simp only [perform, admission, request?, Ledger.queueWithdrawal]
      rw [Ledger.change_eq_of_balances_eq ledger (ledger.writeWithdrawal id _) rfl]
      cases ledger.overdrawn? id.account id.token
          { Amounts.zero with withdrawnAmount := amount } with
      | some other => rfl
      | none =>
          simp [Outcome.map, Except.map, completed, growth, recorded, reply,
            Ledger.withdrawalAfterQueue]
  | credit scope token movement timestamp =>
      simp only [perform, admission, request?, Ledger.credit, Ledger.changeOnly_eq]
      cases ledger.overdrawn? scope token movement.amounts <;>
        simp [Outcome.map, Except.map, completed, growth, recorded, reply]
  | debit scope token movement timestamp =>
      simp only [perform, admission, request?, Ledger.debit, Ledger.changeOnly_eq]
      cases ledger.overdrawn? scope token (-movement.amounts) <;>
        simp [Outcome.map, Except.map, completed, growth, recorded, reply]
  | moveStalk account token stalk roots timestamp =>
      simp only [perform, admission, request?, Ledger.moveStalk, Ledger.change_eq]
      cases ledger.overdrawn? account token { Amounts.zero with stalk, roots } <;> rfl
  | moveSeeds account token seeds timestamp =>
      simp only [perform, admission, request?, Ledger.moveSeeds, Ledger.changeOnly_eq]
      cases ledger.overdrawn? account token { Amounts.zero with seeds } <;>
        simp [Outcome.map, Except.map, completed, growth, recorded, reply]
  | advanceTo period =>
      simp only [perform, admission, request?, Ledger.advanceTo]
      by_cases regression : period < ledger.period
      · simp only [if_pos regression]
        rfl
      · simp only [if_neg regression]
        rfl
  | _ => rfl

/-- The ways in which an operation can end, each with its outcome. -/
inductive Ending (operation : Operation) (ledger : Ledger) : Prop where
  /-- A check fails before anything is written. -/
  | rejected (failure : LedgerFailure) (admission : operation.admission ledger = .error failure)
      (performed : operation.perform ledger = { result := .error failure, ledger })
  /-- No balance is asked to change. -/
  | plain (admission : operation.admission ledger = .ok ())
      (asked : operation.request? ledger = none)
      (performed : operation.perform ledger =
        { result := .ok (operation.reply ledger), ledger := operation.recorded ledger })
  /-- The balances refuse, after the records were written. -/
  | overdrawn (request : BalanceRequest) (other : Scope)
      (admission : operation.admission ledger = .ok ())
      (asked : operation.request? ledger = some request)
      (overdrawn : ledger.overdrawn? request.scope request.token request.change = some other)
      (performed : operation.perform ledger =
        { result := .error (ledger.overdraft other request.token request.change)
          ledger := operation.recorded ledger })
  /-- The change is booked. -/
  | booked (request : BalanceRequest) (admission : operation.admission ledger = .ok ())
      (asked : operation.request? ledger = some request)
      (passed : ledger.overdrawn? request.scope request.token request.change = none)
      (performed : operation.perform ledger =
        { result := .ok (operation.reply ledger)
          ledger := operation.completed ledger
            ((operation.recorded ledger).book request.scope request.token request.change
              request.timestamp) })

theorem ending (operation : Operation) (ledger : Ledger) : operation.Ending ledger := by
  have performed := operation.perform_eq ledger
  cases admission : operation.admission ledger with
  | error failure =>
      rw [admission] at performed
      exact .rejected failure admission performed
  | ok _ =>
      cases asked : operation.request? ledger with
      | none =>
          rw [admission, asked] at performed
          exact .plain admission asked performed
      | some request =>
          rw [admission, asked] at performed
          cases passed : ledger.overdrawn? request.scope request.token request.change with
          | none =>
              simp only [passed] at performed
              exact .booked request admission asked passed performed
          | some other =>
              simp only [passed] at performed
              exact .overdrawn request other admission asked passed performed

/-- A rejected operation leaves the ledger as it was. -/
theorem perform_of_rejected {operation : Operation} {ledger : Ledger} {failure : LedgerFailure}
    (rejected : operation.admission ledger = .error failure) :
    operation.perform ledger = { result := .error failure, ledger } := by
  rw [perform_eq, rejected]

/-- Every admitted operation leaves what it records, also when the balances refuse; only the
balances, the journal and the counters may have moved since. -/
theorem perform_frame_of_admitted {operation : Operation} {ledger : Ledger}
    (admitted : operation.admission ledger = .ok ()) :
    ∃ balances journal activeAccounts grownStalkPerSeason,
      (operation.perform ledger).ledger =
        { operation.recorded ledger with
          balances, journal, activeAccounts, grownStalkPerSeason } := by
  cases operation.ending ledger with
  | rejected failure rejected performed =>
      rw [admitted] at rejected
      contradiction
  | plain admission asked performed => exact ⟨_, _, _, _, by rw [performed]⟩
  | overdrawn request other admission asked overdrawn performed =>
      exact ⟨_, _, _, _, by rw [performed]⟩
  | booked request admission asked passed performed =>
      obtain ⟨activeAccounts, grownStalk, completed⟩ := operation.completed_frame ledger
        ((operation.recorded ledger).book request.scope request.token request.change
          request.timestamp)
      exact ⟨_, _, activeAccounts, grownStalk, by rw [performed, completed]; rfl⟩

/-- Every admitted operation leaves the deposits that it records. -/
theorem deposits_perform {operation : Operation} {ledger : Ledger}
    (admitted : operation.admission ledger = .ok ()) :
    (operation.perform ledger).ledger.deposits = (operation.recorded ledger).deposits := by
  obtain ⟨_, _, _, _, left⟩ := perform_frame_of_admitted admitted
  rw [left]

/-- A deposit has a record after an operation if it had one before or if the operation is
admitted to it. -/
theorem isSome_get?_deposits_perform_iff (operation : Operation) (ledger : Ledger)
    (id : DepositId) :
    ((operation.perform ledger).ledger.deposits.get? id).isSome ↔
      (ledger.deposits.get? id).isSome ∨
        operation.admission ledger = .ok () ∧ operation.deposit? = some id := by
  cases admission : operation.admission ledger with
  | error failure => simp [perform_of_rejected admission]
  | ok _ =>
      rw [deposits_perform admission]
      by_cases own : operation.deposit? = some id
      · rw [get?_deposits_recorded]
        cases operation with
        | putDeposit =>
            obtain rfl := Option.some.inj own
            simp [written?, deposit?]
        | takeDeposit =>
            obtain rfl := Option.some.inj own
            simp [written?, deposit?]
        | _ => contradiction
      · simp [get?_deposits_recorded_of_ne own, own]

/-- What is rejected has the wrong key, exceeds its deposit or moves the period back. -/
theorem code_of_admission {operation : Operation} {ledger : Ledger} {failure : LedgerFailure}
    (rejected : operation.admission ledger = .error failure) :
    failure.code = "deposit_version_mismatch" ∨ failure.code = "withdraw_exceeds_deposit" ∨
      failure.code = "period_regression" := by
  have era : ∀ {token key}, ledger.requireEra token key = .error failure →
      failure.code = "deposit_version_mismatch" := by
    intro token key refused
    unfold Ledger.requireEra at refused
    split at refused
    · split at refused
      · contradiction
      · obtain rfl := Except.error.inj refused
        rfl
    · contradiction
  cases operation with
  | readDeposit => exact .inl (era rejected)
  | putDeposit => exact .inl (era rejected)
  | takeDeposit =>
      simp only [admission] at rejected
      split at rejected
      · next mismatched =>
          obtain rfl := Except.error.inj rejected
          exact .inl (era mismatched)
      · split at rejected
        · obtain rfl := Except.error.inj rejected
          exact .inr (.inl rfl)
        · contradiction
  | advanceTo =>
      simp only [admission] at rejected
      split at rejected
      · obtain rfl := Except.error.inj rejected
        exact .inr (.inr rfl)
      · contradiction
  | _ => contradiction

/-- Nothing is rejected for want of a balance. -/
theorem admission_ne_negativeBalance (operation : Operation) (ledger : Ledger) (scope : Scope)
    (token : Token) (value amount : Int) :
    operation.admission ledger ≠ .error (.negativeBalance scope token value amount) := by
  intro rejected
  simpa [LedgerFailure.code] using code_of_admission rejected

/-- Nothing that is performed is refused for its place in an order. -/
theorem code_of_perform {operation : Operation} {ledger : Ledger} {failure : LedgerFailure}
    (refused : (operation.perform ledger).result = .error failure) :
    failure.code ≠ "out_of_order" := by
  cases operation.ending ledger with
  | rejected reason admission performed =>
      rw [performed] at refused
      obtain rfl := Except.error.inj refused
      rcases code_of_admission admission with code | code | code <;> simp [code]
  | overdrawn request other admission asked overdrawn performed =>
      rw [performed] at refused
      obtain rfl := Except.error.inj refused
      simp [Ledger.overdraft, LedgerFailure.code]
  | plain admission asked performed =>
      rw [performed] at refused
      contradiction
  | booked request admission asked passed performed =>
      rw [performed] at refused
      contradiction

/-- What is admitted for taking is left in the deposit. -/
theorem of_admission_takeDeposit {ledger : Ledger} {id : DepositId} {amount timestamp : Int}
    {value : Option Int}
    (admitted : (takeDeposit id amount value timestamp).admission ledger = .ok ()) :
    amount ≤ (ledger.depositAt id 0).amount ∧
      ledger.valueTaken id amount value ≤ (ledger.depositAt id 0).value := by
  simp only [admission] at admitted
  split at admitted
  · contradiction
  · split at admitted
    · contradiction
    · omega

/-! ## Granted changes -/

/-- The change of a balance that an operation asks for and is granted. -/
def granted? (ledger : Ledger) (operation : Operation) : Option BalanceRequest :=
  match (operation.perform ledger).result with
  | .ok _ => operation.request? ledger
  | .error _ => none

theorem request?_of_granted? {operation : Operation} {ledger : Ledger} {request : BalanceRequest}
    (granted : operation.granted? ledger = some request) :
    operation.request? ledger = some request := by
  unfold granted? at granted
  split at granted
  · exact granted
  · contradiction

theorem granted?_of_passed {operation : Operation} {ledger : Ledger} {request : BalanceRequest}
    (admitted : operation.admission ledger = .ok ())
    (asked : operation.request? ledger = some request)
    (passed : ledger.overdrawn? request.scope request.token request.change = none) :
    operation.granted? ledger = some request := by
  unfold granted?
  rw [perform_eq, admitted, asked]
  simp only [passed]

theorem granted?_of_request?_eq_none {operation : Operation} {ledger : Ledger}
    (asked : operation.request? ledger = none) : operation.granted? ledger = none := by
  unfold granted?
  rw [asked]
  split <;> rfl

/-- Only a granted change moves the balances. -/
theorem balances_perform (operation : Operation) (ledger : Ledger) :
    (operation.perform ledger).ledger.balances =
      match operation.granted? ledger with
      | none => ledger.balances
      | some request =>
          (ledger.book request.scope request.token request.change request.timestamp).balances := by
  unfold granted?
  have untouched := (operation.recorded_frame ledger).1
  cases operation.ending ledger with
  | rejected failure admission performed => rw [performed]
  | plain admission asked performed =>
      rw [performed, asked]
      exact untouched
  | overdrawn request other admission asked overdrawn performed =>
      rw [performed]
      exact untouched
  | booked request admission asked passed performed =>
      obtain ⟨deposits, withdrawals, eras, recorded⟩ :=
        recorded_frame_of_pair? (pair?_of_request? asked) ledger
      obtain ⟨activeAccounts, grownStalk, completed⟩ := operation.completed_frame ledger
        ((operation.recorded ledger).book request.scope request.token request.change
          request.timestamp)
      rw [performed, completed, recorded, asked]
      rfl

/-- Every operation adds what it is granted to the balances that the change reaches. -/
theorem balance_perform (operation : Operation) (ledger : Ledger) (scope : Scope)
    (token : Token) :
    (operation.perform ledger).ledger.balance scope token =
      ledger.balance scope token +
        match operation.granted? ledger with
        | none => 0
        | some request =>
            if token = request.token ∧ scope ∈ request.scope.reached then request.change
            else 0 := by
  have balances := operation.balances_perform ledger
  cases granted : operation.granted? ledger with
  | none =>
      rw [granted] at balances
      unfold Ledger.balance
      rw [balances, add_zero]
  | some request =>
      rw [granted] at balances
      rw [← ledger.balance_book request.scope request.token request.change request.timestamp]
      unfold Ledger.balance
      rw [balances]

/-- A granted change leaves solvent every balance that it reaches. -/
theorem solvent_of_granted? {operation : Operation} {ledger : Ledger} {request : BalanceRequest}
    (granted : operation.granted? ledger = some request) :
    ∀ other ∈ request.scope.reached,
      (ledger.balance other request.token + request.change).Solvent := by
  unfold granted? at granted
  cases operation.ending ledger with
  | rejected failure admission performed =>
      rw [performed] at granted
      contradiction
  | plain admission asked performed =>
      rw [performed, asked] at granted
      contradiction
  | overdrawn request other admission asked overdrawn performed =>
      rw [performed] at granted
      contradiction
  | booked granting admission asked passed performed =>
      rw [performed, asked] at granted
      obtain rfl := Option.some.inj granted
      exact Ledger.overdrawn?_eq_none_iff.mp passed

end Operation

end DepositYield
