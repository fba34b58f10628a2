import DepositYield.Proofs.Ledger.Phases
import DepositYield.Proofs.Ledger.Run

/-!
# Deposits back balances

While deposited amounts move only by putting into deposits and taking out of
them, the deposited part of every balance is the sum of the deposits that count
for it.  A deposit counts for its account and for the protocol.  The record and
the balances are written one after the other, but what the record admits the
balances always bear, so taking out fails before anything is written or not at
all.
-/

namespace DepositYield

/-- The deposited value and amount of a balance or of a change. -/
def Amounts.deposited (amounts : Amounts) : Amounts :=
  Ledger.depositChange amounts.depositedAmount amounts.depositedValue

theorem Amounts.deposited_add (left right : Amounts) :
    (left + right).deposited = left.deposited + right.deposited :=
  rfl

theorem Amounts.solvent_deposited_iff {amounts : Amounts} :
    amounts.deposited.Solvent ↔ amounts.Solvent :=
  Iff.rfl

namespace Deposit

/-- What is left in a deposit. -/
def remaining (deposit : Deposit) : Amounts :=
  Ledger.depositChange deposit.amount deposit.value

@[simp]
theorem remaining_depositedAmount (deposit : Deposit) :
    deposit.remaining.depositedAmount = deposit.amount :=
  rfl

@[simp]
theorem remaining_depositedValue (deposit : Deposit) :
    deposit.remaining.depositedValue = deposit.value :=
  rfl

/-- What is left in a deposit and what was taken out of it together. -/
def everPut (deposit : Deposit) : Amounts :=
  Ledger.depositChange (deposit.amount + deposit.withdrawnAmount)
    (deposit.value + deposit.withdrawnValue)

end Deposit

namespace Ledger

/-- What is left in the deposits that count for a scope and token. -/
def remainingTotal (ledger : Ledger) (scope : Scope) (token : Token) : Amounts :=
  ledger.deposits.sumOver fun id deposit =>
    if token = id.token ∧ scope ∈ id.account.reached then deposit.remaining else 0

variable {ledger : Ledger}

/-- Writing a deposit changes a sum over the deposits by as much as the weight of the
deposit, where unused ones weigh nothing. -/
theorem sumOver_writeDeposit {M : Type} [AddCommGroup M] (ledger : Ledger)
    (weight : DepositId → Deposit → M)
    (weightless : ∀ id version createdAt, weight id (.unused version createdAt) = 0)
    (id : DepositId) (deposit : Deposit) (createdAt : Int) :
    (ledger.writeDeposit id deposit).deposits.sumOver weight =
      ledger.deposits.sumOver weight +
        (weight id deposit - weight id (ledger.depositAt id createdAt)) := by
  have held : weight id (ledger.deposits.getD id (.unused .season 0)) =
      weight id (ledger.depositAt id createdAt) := by
    unfold depositAt Table.getD
    cases ledger.deposits.get? id with
    | none => exact (weightless id .season 0).trans (weightless id _ createdAt).symm
    | some deposit => rfl
  rw [← held]
  exact ledger.deposits.sumOver_set weight id deposit _ (weightless id .season 0)

/-- What was ever put into a deposit, nothing if there is no record of it. -/
def everPut (ledger : Ledger) (id : DepositId) : Amounts :=
  ((ledger.deposits.get? id).map Deposit.everPut).getD 0

theorem everPut_depositAt (id : DepositId) (createdAt : Int) :
    (ledger.depositAt id createdAt).everPut = ledger.everPut id := by
  unfold depositAt Table.getD everPut
  cases ledger.deposits.get? id <;> rfl

/-- Writing a deposit changes what is left in the deposits of its account and of
the protocol by as much as the deposit changed. -/
theorem remainingTotal_writeDeposit (ledger : Ledger) (id : DepositId) (deposit : Deposit)
    (createdAt : Int) (scope : Scope) (token : Token) :
    (ledger.writeDeposit id deposit).remainingTotal scope token =
      ledger.remainingTotal scope token +
        if token = id.token ∧ scope ∈ id.account.reached then
          deposit.remaining - (ledger.depositAt id createdAt).remaining
        else 0 := by
  refine (ledger.sumOver_writeDeposit _ (fun _ _ _ => ite_eq_right_iff.mpr fun _ => rfl) id
    deposit createdAt).trans (congrArg _ ?_)
  split
  · rfl
  · exact sub_zero 0

theorem remaining_depositAfterPut (id : DepositId) (amount value timestamp : Int) :
    (ledger.depositAfterPut id amount value timestamp).remaining =
      (ledger.depositAt id timestamp).remaining + depositChange amount value :=
  rfl

theorem remaining_depositAfterTake (id : DepositId) (amount : Int) (value : Option Int)
    (timestamp : Int) :
    (ledger.depositAfterTake id amount value timestamp).remaining =
      (ledger.depositAt id 0).remaining +
        -depositChange amount (ledger.valueTaken id amount value) :=
  rfl

theorem everPut_depositAfterPut (id : DepositId) (amount value timestamp : Int) :
    (ledger.depositAfterPut id amount value timestamp).everPut =
      ledger.everPut id + depositChange amount value := by
  rw [← everPut_depositAt id timestamp]
  change depositChange _ _ = depositChange _ _
  congr 1 <;> exact add_right_comm _ _ _

theorem everPut_depositAfterTake (id : DepositId) (amount : Int) (value : Option Int)
    (timestamp : Int) :
    (ledger.depositAfterTake id amount value timestamp).everPut = ledger.everPut id := by
  rw [← everPut_depositAt id 0]
  change depositChange _ _ = depositChange _ _
  congr 1 <;> exact sub_add_add_cancel _ _ _

/-- A recorded put adds its amounts to what is left in the deposits that count
for the balances it reaches. -/
theorem remainingTotal_put (ledger : Ledger) (id : DepositId)
    (amount value timestamp : Int) (scope : Scope) (token : Token) :
    ((Operation.putDeposit id amount value timestamp).recorded ledger).remainingTotal scope token =
      ledger.remainingTotal scope token +
        if token = id.token ∧ scope ∈ id.account.reached then depositChange amount value
        else 0 := by
  have written := ledger.remainingTotal_writeDeposit id
    (ledger.depositAfterPut id amount value timestamp) timestamp scope token
  rw [remaining_depositAfterPut, add_sub_cancel_left] at written
  unfold remainingTotal at written ⊢
  rw [Operation.deposits_recorded]
  exact written

/-- A recorded taking takes its amounts off what is left in the deposits that
count for the balances it reaches. -/
theorem remainingTotal_take (ledger : Ledger) (id : DepositId) (amount : Int)
    (value : Option Int) (timestamp : Int) (scope : Scope) (token : Token) :
    ((Operation.takeDeposit id amount value timestamp).recorded ledger).remainingTotal scope token =
      ledger.remainingTotal scope token +
        if token = id.token ∧ scope ∈ id.account.reached then
          -depositChange amount (ledger.valueTaken id amount value)
        else 0 := by
  have written := ledger.remainingTotal_writeDeposit id
    (ledger.depositAfterTake id amount value timestamp) 0 scope token
  rw [remaining_depositAfterTake, add_sub_cancel_left] at written
  exact written

end Ledger

/-! ## The invariant -/

namespace Operation

/-- The operation moves deposited amounts through deposits only, and puts nothing
negative into them. -/
def MovesThroughDeposits : Operation → Prop
  | .credit _ _ movement _ => movement.depositedValue = 0 ∧ movement.depositedAmount = 0
  | .debit _ _ movement _ => movement.depositedValue = 0 ∧ movement.depositedAmount = 0
  | .putDeposit _ amount value _ => 0 ≤ amount ∧ 0 ≤ value
  | _ => True

/-- What an operation is to put into a deposit. -/
def offered (id : DepositId) : Operation → Amounts
  | .putDeposit other amount value _ =>
      if other = id then Ledger.depositChange amount value else 0
  | _ => 0

/-- What an operation puts into a deposit, nothing if it is refused. -/
def putInto (ledger : Ledger) (id : DepositId) (operation : Operation) : Amounts :=
  match (operation.perform ledger).result with
  | .ok _ => operation.offered id
  | .error _ => 0

end Operation

namespace Ledger

theorem everPut_recorded_eq (operation : Operation) (ledger : Ledger) (id : DepositId) :
    (operation.recorded ledger).everPut id =
      match operation.written? ledger with
      | some (own, deposit) => if own = id then deposit.everPut else ledger.everPut id
      | none => ledger.everPut id := by
  unfold everPut
  rw [Operation.get?_deposits_recorded]
  rcases operation.written? ledger with _ | ⟨own, deposit⟩
  · rfl
  · by_cases same : own = id <;> simp [same]

/-- What an operation records as put into a deposit is what it offers. -/
theorem everPut_recorded (operation : Operation) (ledger : Ledger) (id : DepositId) :
    (operation.recorded ledger).everPut id = ledger.everPut id + operation.offered id := by
  rw [everPut_recorded_eq]
  cases operation with
  | putDeposit own amount value timestamp =>
      simp only [Operation.written?, Operation.offered, everPut_depositAfterPut]
      split
      · next same => rw [same]
      · rw [add_zero]
  | takeDeposit own amount value timestamp =>
      simp only [Operation.written?, Operation.offered, everPut_depositAfterTake, add_zero]
      split
      · next same => rw [same]
      · rfl
  | _ => exact (add_zero _).symm

/-- What the operations of a run put into a deposit. -/
def putInto (ledger : Ledger) (id : DepositId) : List Operation → Amounts
  | [] => 0
  | operation :: operations =>
      operation.putInto ledger id + (operation.perform ledger).ledger.putInto id operations

/-- Every balance is backed by the deposits that count for it, no deposit is
negative, and every deposit holds, with what was taken out, what was put in. -/
structure Backed (ledger : Ledger) (put : DepositId → Amounts) : Prop where
  backed : ∀ scope token,
    (ledger.balance scope token).deposited = ledger.remainingTotal scope token
  solvent : ∀ id deposit, ledger.deposits.get? id = some deposit → deposit.remaining.Solvent
  everPut : ∀ id, ledger.everPut id = put id

theorem backed_empty (v31Period : Option Int) : (Ledger.empty v31Period).Backed fun _ => 0 where
  backed _ _ := rfl
  solvent _ _ held := by simp [Ledger.empty] at held
  everPut _ := rfl

namespace Backed

variable {ledger : Ledger} {put : DepositId → Amounts}

theorem solvent_remainingTotal
    (solvent : ∀ id deposit, ledger.deposits.get? id = some deposit → deposit.remaining.Solvent)
    (scope : Scope) (token : Token) : (ledger.remainingTotal scope token).Solvent := by
  refine Table.sumOver_induction Amounts.solvent_zero (fun _ _ => Amounts.Solvent.add) ?_
  intro id deposit held
  split
  · exact solvent id deposit held
  · exact Amounts.solvent_zero

/-- An operation that writes no deposit asks for no deposited amounts. -/
theorem deposited_eq_zero_of_written? {operation : Operation} {request : BalanceRequest}
    (through : operation.MovesThroughDeposits) (asked : operation.request? ledger = some request)
    (written : operation.written? ledger = none) : request.change.deposited = 0 := by
  cases operation with
  | putDeposit => simp [Operation.written?] at written
  | takeDeposit => simp [Operation.written?] at written
  | credit =>
      obtain rfl := Option.some.inj asked
      simp only [Amounts.deposited, Movement.amounts, through.1, through.2]
      rfl
  | debit =>
      obtain rfl := Option.some.inj asked
      simp only [Amounts.deposited, Movement.amounts, through.1, through.2]
      rfl
  | moveStalk =>
      obtain rfl := Option.some.inj asked
      rfl
  | moveSeeds =>
      obtain rfl := Option.some.inj asked
      rfl
  | queueWithdrawal =>
      obtain rfl := Option.some.inj asked
      rfl
  | _ => simp [Operation.request?] at asked

/-- What an operation records changes what is left in the deposits by the deposited
part of the change that it asks for. -/
theorem remainingTotal_recorded {operation : Operation} {request : BalanceRequest}
    (through : operation.MovesThroughDeposits) (asked : operation.request? ledger = some request)
    (scope : Scope) (token : Token) :
    (operation.recorded ledger).remainingTotal scope token =
      ledger.remainingTotal scope token +
        if token = request.token ∧ scope ∈ request.scope.reached then request.change.deposited
        else 0 := by
  cases written : operation.written? ledger with
  | none =>
      rw [deposited_eq_zero_of_written? through asked written, ite_self, add_zero]
      unfold remainingTotal
      rw [Operation.deposits_recorded, written]
  | some entry =>
      cases operation with
      | putDeposit id amount value timestamp =>
          obtain rfl := Option.some.inj asked
          exact ledger.remainingTotal_put id amount value timestamp scope token
      | takeDeposit id amount value timestamp =>
          obtain rfl := Option.some.inj asked
          exact ledger.remainingTotal_take id amount value timestamp scope token
      | _ => simp [Operation.written?] at written

/-- What is admitted leaves no deposit negative. -/
theorem solvent_recorded (backed : ledger.Backed put) {operation : Operation}
    (through : operation.MovesThroughDeposits) (admitted : operation.admission ledger = .ok ())
    {id : DepositId} {deposit : Deposit}
    (held : (operation.recorded ledger).deposits.get? id = some deposit) :
    deposit.remaining.Solvent := by
  have solventAt : ∀ other createdAt, (ledger.depositAt other createdAt).remaining.Solvent := by
    intro other createdAt
    unfold depositAt Table.getD
    cases found : ledger.deposits.get? other with
    | none => exact Amounts.solvent_zero
    | some present => exact backed.solvent other present found
  rw [Operation.get?_deposits_recorded] at held
  cases operation with
  | putDeposit own amount value timestamp =>
      simp only [Operation.written?] at held
      split at held
      · obtain rfl := Option.some.inj held
        rw [remaining_depositAfterPut]
        exact Amounts.Solvent.add (solventAt own timestamp) ⟨through.2, through.1⟩
      · exact backed.solvent id deposit held
  | takeDeposit own amount value timestamp =>
      simp only [Operation.written?] at held
      split at held
      · obtain rfl := Option.some.inj held
        obtain ⟨amountLeft, valueLeft⟩ := Operation.of_admission_takeDeposit admitted
        exact ⟨Int.sub_nonneg_of_le valueLeft, Int.sub_nonneg_of_le amountLeft⟩
      · exact backed.solvent id deposit held
  | _ => exact backed.solvent id deposit held

/-- What the deposits admit, the balances bear. -/
theorem passed (backed : ledger.Backed put) {operation : Operation} {request : BalanceRequest}
    (through : operation.MovesThroughDeposits) (admitted : operation.admission ledger = .ok ())
    (asked : operation.request? ledger = some request) :
    ledger.overdrawn? request.scope request.token request.change = none := by
  rw [overdrawn?_eq_none_iff]
  intro scope inside
  have total := remainingTotal_recorded through asked scope request.token
  rw [if_pos ⟨rfl, inside⟩, ← backed.backed, ← Amounts.deposited_add] at total
  rw [← Amounts.solvent_deposited_iff, ← total]
  exact solvent_remainingTotal (fun _ _ => backed.solvent_recorded through admitted) scope
    request.token

/-- Every balance stays backed by what an operation records. -/
theorem backed_book (backed : ledger.Backed put) {operation : Operation}
    {request : BalanceRequest} (through : operation.MovesThroughDeposits)
    (asked : operation.request? ledger = some request) (timestamp : Int) (scope : Scope)
    (token : Token) :
    ((ledger.book request.scope request.token request.change timestamp).balance scope
        token).deposited =
      (operation.recorded ledger).remainingTotal scope token := by
  rw [remainingTotal_recorded through asked, balance_book, Amounts.deposited_add,
    backed.backed]
  split <;> rfl

/-- What the deposits admit goes through. -/
theorem exists_reply (backed : ledger.Backed put) {operation : Operation}
    (through : operation.MovesThroughDeposits) (admitted : operation.admission ledger = .ok ()) :
    ∃ reply, (operation.perform ledger).result = .ok reply := by
  cases operation.ending ledger with
  | rejected failure rejected performed =>
      rw [admitted] at rejected
      contradiction
  | plain admission asked performed => exact ⟨_, by rw [performed]⟩
  | overdrawn request other admission asked overdrawn performed =>
      rw [backed.passed through admission asked] at overdrawn
      contradiction
  | booked request admission asked passed performed => exact ⟨_, by rw [performed]⟩

/-- Every operation of the allowed kind keeps the deposits backing the balances. -/
theorem perform (backed : ledger.Backed put) {operation : Operation}
    (through : operation.MovesThroughDeposits) :
    (operation.perform ledger).ledger.Backed fun id => put id + operation.putInto ledger id := by
  have balances := operation.balances_perform ledger
  unfold Operation.putInto
  cases admission : operation.admission ledger with
  | error failure =>
      rw [operation.perform_eq, admission]
      simpa using backed
  | ok _ =>
      have deposits := Operation.deposits_perform admission
      obtain ⟨reply, accepted⟩ := backed.exists_reply through admission
      rw [accepted]
      refine ⟨fun scope token => ?_, fun id deposit held => ?_, fun id => ?_⟩
      · cases asked : operation.request? ledger with
        | none =>
            rw [Operation.granted?_of_request?_eq_none asked] at balances
            have balanced := backed.backed scope token
            unfold balance remainingTotal at balanced ⊢
            rwa [balances, deposits, Operation.deposits_recorded,
              Operation.written?_eq_none_of_request? asked]
        | some request =>
            rw [Operation.granted?_of_passed admission asked
              (backed.passed through admission asked)] at balances
            have balanced := backed.backed_book through asked request.timestamp scope token
            unfold balance remainingTotal at balanced ⊢
            rwa [balances, deposits]
      · rw [deposits] at held
        exact backed.solvent_recorded through admission held
      · rw [← backed.everPut, ← everPut_recorded]
        unfold Ledger.everPut
        rw [deposits]

/-- Every run of such operations keeps the deposits backing the balances. -/
theorem run (backed : ledger.Backed put) {operations : List Operation}
    (through : ∀ operation ∈ operations, operation.MovesThroughDeposits) :
    (ledger.run operations).Backed fun id => put id + ledger.putInto id operations := by
  induction operations generalizing ledger put with
  | nil => simpa [putInto] using backed
  | cons operation operations ih =>
      have later := ih (backed.perform (through operation List.mem_cons_self))
        (fun other inside => through other (List.mem_cons_of_mem operation inside))
      simpa [putInto, add_assoc] using later

/-- While deposits back the balances, taking out of a deposit changes the whole
ledger or nothing. -/
theorem unchanged_of_take_refused (backed : ledger.Backed put) {id : DepositId} {amount : Int}
    {value : Option Int} {timestamp : Int} {failure : LedgerFailure}
    (refused : ((Operation.takeDeposit id amount value timestamp).perform ledger).result =
      .error failure) :
    ((Operation.takeDeposit id amount value timestamp).perform ledger).ledger = ledger := by
  have through : (Operation.takeDeposit id amount value timestamp).MovesThroughDeposits := trivial
  cases (Operation.takeDeposit id amount value timestamp).ending ledger with
  | rejected _ _ performed => rw [performed]
  | plain _ _ performed =>
      rw [performed] at refused
      contradiction
  | overdrawn request other admission asked overdrawn performed =>
      rw [backed.passed through admission asked] at overdrawn
      contradiction
  | booked _ _ _ _ performed =>
      rw [performed] at refused
      contradiction

end Backed

/-! ## Sums over the deposits of an account -/

/-- What is left in the deposits that count for an account is the sum over the
deposits of the account. -/
theorem remainingTotal_eq_sum (ledger : Ledger) {account : Scope}
    (isAccount : account ≠ protocolScope) (token : Token) :
    (ledger.remainingTotal account token).depositedAmount =
        ((ledger.accountDeposits account (some token)).map fun entry => entry.2.amount).sum ∧
      (ledger.remainingTotal account token).depositedValue =
        ((ledger.accountDeposits account (some token)).map fun entry => entry.2.value).sum := by
  unfold remainingTotal Table.sumOver accountDeposits
  induction ledger.deposits.entries with
  | nil => exact ⟨rfl, rfl⟩
  | cons entry entries ih =>
      obtain ⟨id, deposit⟩ := entry
      simp only [Scope.mem_reached_iff_eq isAccount, Option.isNone_some, Bool.false_or,
        Option.some.injEq] at ih ⊢
      by_cases counts : token = id.token ∧ account = id.account
      · obtain ⟨rfl, rfl⟩ := counts
        simp [ih]
      · have other : ¬ (id.account = account ∧ token = id.token) := fun same =>
          counts ⟨same.2, same.1.symm⟩
        simp [counts, other, ih]

/-- After every run from the empty ledger in which deposited amounts move through
deposits only, every account holds of each token the sum of its deposits; no
deposit is negative, and each holds, with what was taken out of it, what was put
into it; and taking out of a deposit changes the whole ledger or nothing. -/
theorem deposits_back_balances (v31Period : Option Int) (operations : List Operation)
    (through : ∀ operation ∈ operations, operation.MovesThroughDeposits) :
    (∀ account token, account ≠ protocolScope →
      (((Ledger.empty v31Period).run operations).balance account token).depositedAmount =
          ((((Ledger.empty v31Period).run operations).accountDeposits account
            (some token)).map fun entry => entry.2.amount).sum ∧
        (((Ledger.empty v31Period).run operations).balance account token).depositedValue =
          ((((Ledger.empty v31Period).run operations).accountDeposits account
            (some token)).map fun entry => entry.2.value).sum) ∧
    (∀ id deposit,
      ((Ledger.empty v31Period).run operations).deposits.get? id = some deposit →
        0 ≤ deposit.amount ∧ 0 ≤ deposit.value ∧
          deposit.amount + deposit.withdrawnAmount =
            ((Ledger.empty v31Period).putInto id operations).depositedAmount ∧
          deposit.value + deposit.withdrawnValue =
            ((Ledger.empty v31Period).putInto id operations).depositedValue) ∧
    (∀ id amount value timestamp failure,
      ((Operation.takeDeposit id amount value timestamp).perform
          ((Ledger.empty v31Period).run operations)).result = .error failure →
        ((Operation.takeDeposit id amount value timestamp).perform
          ((Ledger.empty v31Period).run operations)).ledger =
            (Ledger.empty v31Period).run operations) := by
  have backed := (backed_empty v31Period).run through
  refine ⟨fun account token isAccount => ?_, fun id deposit held => ?_, fun id amount value
    timestamp failure refused => backed.unchanged_of_take_refused refused⟩
  · have total := backed.backed account token
    have sums := remainingTotal_eq_sum ((Ledger.empty v31Period).run operations) isAccount token
    rw [← total] at sums
    exact sums
  · have remaining := backed.solvent id deposit held
    have put := backed.everPut id
    rw [zero_add, Ledger.everPut, held] at put
    exact ⟨remaining.2, remaining.1, congrArg Amounts.depositedAmount put,
      congrArg Amounts.depositedValue put⟩

/-- A balance of both key schemes, after an inferred value was taken out in the
season era; what exceeds a deposit is refused and changes nothing. -/
theorem season_and_stem_deposits_back_balance :
    let operations : List Operation :=
      [.putDeposit ⟨"0xa", "0xt", .season 1⟩ 3 10 1,
        .takeDeposit ⟨"0xa", "0xt", .season 1⟩ 1 none 2,
        .adoptStems "0xt",
        .moveStalk "0xa" "0xt" 7 7 3,
        .putDeposit ⟨"0xa", "0xt", .stem 5⟩ 20 30 4]
    let ledger := (Ledger.empty none).run operations
    let excess : Operation := .takeDeposit ⟨"0xa", "0xt", .stem 5⟩ 21 none 5
    (∀ operation ∈ operations, operation.MovesThroughDeposits) ∧
      (ledger.balance "0xa" "0xt").depositedAmount = 22 ∧
      (ledger.balance "0xa" "0xt").depositedAmount =
        ((ledger.accountDeposits "0xa" (some "0xt")).map fun entry => entry.2.amount).sum ∧
      (excess.perform ledger).ledger = ledger := by
  intro operations ledger excess
  have through : ∀ operation ∈ operations, operation.MovesThroughDeposits := by
    simp [operations, Operation.MovesThroughDeposits]
  have backing := deposits_back_balances none operations through
  have refused : (excess.perform ledger).result =
      .error (.withdrawalExceedsDeposit ⟨"0xa", "0xt", .stem 5⟩ 20 30 21 31) := by rfl
  exact ⟨through, by rfl, (backing.1 "0xa" "0xt" (by decide)).1, backing.2.2 _ _ _ _ _ refused⟩

end Ledger

end DepositYield
