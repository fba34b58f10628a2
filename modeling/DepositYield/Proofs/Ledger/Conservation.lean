import DepositYield.Proofs.Ledger.Phases
import DepositYield.Proofs.Ledger.Run

/-!
# Conservation

The protocol holds what the accounts hold together and what was moved on it
directly, and no balance falls below zero.  Both facts need each other: the
check of the protocol never refuses a change of an account because the
protocol's balance is a sum of solvent balances.
-/

namespace DepositYield

namespace Ledger

/-! ## Totals over selected balances -/

/-- The sum of the balances of the selected scopes and tokens. -/
def totalWhere (ledger : Ledger) (selected : Scope × Token → Prop) [DecidablePred selected] :
    Amounts :=
  ledger.balances.sumOver fun pair amounts => if selected pair then amounts else 0

/-- What the accounts hold of a token together. -/
def accountTotal (ledger : Ledger) (token : Token) : Amounts :=
  ledger.totalWhere fun pair => pair.1 ≠ protocolScope ∧ pair.2 = token

variable {ledger : Ledger} {scope : Scope} {token : Token} {change : Amounts}

/-- A table of balances in which one balance has grown by a change. -/
theorem sumOver_set_add (balances : Table (Scope × Token) Amounts)
    (selected : Scope × Token → Prop) [DecidablePred selected] (pair : Scope × Token)
    (change : Amounts) :
    (balances.set pair (balances.getD pair 0 + change)).sumOver
        (fun other amounts => if selected other then amounts else 0) =
      balances.sumOver (fun other amounts => if selected other then amounts else 0) +
        if selected pair then change else 0 := by
  rw [balances.sumOver_set _ pair _ 0 (by simp)]
  by_cases chosen : selected pair <;> simp [chosen]

/-- A booked change adds its amounts once for each selected balance that it
reaches. -/
theorem totalWhere_book (ledger : Ledger) (scope : Scope) (token : Token) (change : Amounts)
    (timestamp : Int) (selected : Scope × Token → Prop) [DecidablePred selected] :
    (ledger.book scope token change timestamp).totalWhere selected =
      ledger.totalWhere selected +
        (scope.reached.map fun other => if selected (other, token) then change else 0).sum := by
  unfold totalWhere book Scope.reached
  by_cases isProtocol : scope = protocolScope
  · simp only [isProtocol, if_true, List.foldl_cons, List.foldl_nil, List.map_cons, List.map_nil,
      List.sum_cons, List.sum_nil, add_zero]
    exact sumOver_set_add ledger.balances selected (protocolScope, token) change
  · have different : (scope, token) ≠ (protocolScope, token) := by simpa using isProtocol
    have held : ledger.balance protocolScope token =
        (ledger.balances.set (scope, token) (ledger.balance scope token + change)).getD
          (protocolScope, token) 0 := by
      rw [Table.getD_set, if_neg different]
      rfl
    simp only [isProtocol, if_false, List.foldl_cons, List.foldl_nil, List.map_cons, List.map_nil,
      List.sum_cons, List.sum_nil, add_zero]
    rw [held, sumOver_set_add]
    have own := sumOver_set_add ledger.balances selected (scope, token) change
    unfold Ledger.balance
    rw [own, add_assoc]

theorem accountTotal_book (ledger : Ledger) (scope : Scope) (token : Token) (change : Amounts)
    (timestamp : Int) (other : Token) :
    (ledger.book scope token change timestamp).accountTotal other =
      ledger.accountTotal other +
        if scope ≠ protocolScope ∧ token = other then change else 0 := by
  unfold accountTotal
  rw [totalWhere_book]
  by_cases isProtocol : scope = protocolScope <;> simp [Scope.reached, isProtocol]

end Ledger

/-! ## Changes of the protocol alone -/

namespace Operation

/-- What an operation that is addressed to the protocol adds to its balance of a
token, nothing if it is refused. -/
def directChange (ledger : Ledger) (token : Token) (operation : Operation) : Amounts :=
  match operation.granted? ledger with
  | some request =>
      if request.scope = protocolScope ∧ request.token = token then request.change else 0
  | none => 0

theorem directChange_eq_zero {operation : Operation}
    (indirect : ∀ token, operation.pair? ≠ some (protocolScope, token)) (ledger : Ledger)
    (token : Token) : operation.directChange ledger token = 0 := by
  unfold directChange
  cases granted : operation.granted? ledger with
  | none => rfl
  | some request =>
      refine if_neg ?_
      rintro ⟨isProtocol, -⟩
      have pair := pair?_of_request? (request?_of_granted? granted)
      rw [isProtocol] at pair
      exact indirect request.token pair

end Operation

namespace Ledger

/-- What the operations of a run that are addressed to the protocol add to its
balance of a token. -/
def directChanges (ledger : Ledger) (token : Token) : List Operation → Amounts
  | [] => 0
  | operation :: operations =>
      operation.directChange ledger token +
        (operation.perform ledger).ledger.directChanges token operations

theorem directChanges_eq_zero {operations : List Operation}
    (indirect : ∀ operation ∈ operations, ∀ token,
      operation.pair? ≠ some (protocolScope, token)) (ledger : Ledger) (token : Token) :
    ledger.directChanges token operations = 0 := by
  induction operations generalizing ledger with
  | nil => rfl
  | cons operation operations ih =>
      obtain ⟨first, rest⟩ := List.forall_mem_cons.mp indirect
      rw [directChanges, Operation.directChange_eq_zero first, ih rest, add_zero]

/-! ## The invariant -/

/-- The protocol holds what the accounts hold and what was moved on it directly,
and every balance is solvent. -/
structure Reconciled (ledger : Ledger) (direct : Token → Amounts) : Prop where
  conserved : ∀ token,
    ledger.balance protocolScope token = ledger.accountTotal token + direct token
  solvent : ∀ scope token, (ledger.balance scope token).Solvent

theorem reconciled_empty (v31Period : Option Int) :
    (Ledger.empty v31Period).Reconciled fun _ => 0 where
  conserved _ := rfl
  solvent _ _ := Amounts.solvent_zero

namespace Reconciled

variable {ledger : Ledger} {direct : Token → Amounts}

/-- Reconciliation is a matter of the balances alone. -/
theorem of_balances_eq (reconciled : ledger.Reconciled direct) {other : Ledger}
    (same : other.balances = ledger.balances) : other.Reconciled direct where
  conserved token := by
    have conserved := reconciled.conserved token
    unfold balance accountTotal totalWhere at conserved ⊢
    rwa [same]
  solvent scope token := by
    have solvent := reconciled.solvent scope token
    unfold balance at solvent ⊢
    rwa [same]

/-- A change that passes its checks keeps the ledger reconciled. -/
theorem book (reconciled : ledger.Reconciled direct) {scope : Scope} {token : Token}
    {change : Amounts} (timestamp : Int)
    (passed : ∀ other ∈ scope.reached, (ledger.balance other token + change).Solvent) :
    (ledger.book scope token change timestamp).Reconciled fun other =>
      direct other + if scope = protocolScope ∧ token = other then change else 0 where
  conserved other := by
    rw [balance_book, accountTotal_book, reconciled.conserved other]
    by_cases sameToken : token = other
    · by_cases isProtocol : scope = protocolScope <;>
        simp [sameToken, isProtocol, Scope.mem_reached_iff, add_assoc, add_comm, add_left_comm]
    · simp [sameToken, Ne.symm sameToken]
  solvent := solvent_balance_book passed reconciled.solvent

/-- Every operation keeps the ledger reconciled; what is addressed to the
protocol counts as moved on it directly. -/
theorem perform (reconciled : ledger.Reconciled direct) (operation : Operation) :
    (operation.perform ledger).ledger.Reconciled fun token =>
      direct token + operation.directChange ledger token := by
  have balances := operation.balances_perform ledger
  unfold Operation.directChange
  cases granted : operation.granted? ledger with
  | none =>
      rw [granted] at balances
      simpa using reconciled.of_balances_eq balances
  | some request =>
      rw [granted] at balances
      exact (reconciled.book request.timestamp
        (Operation.solvent_of_granted? granted)).of_balances_eq balances

/-- Every run keeps the ledger reconciled. -/
theorem run (reconciled : ledger.Reconciled direct) (operations : List Operation) :
    (ledger.run operations).Reconciled fun token =>
      direct token + ledger.directChanges token operations := by
  induction operations generalizing ledger direct with
  | nil => simpa [directChanges] using reconciled
  | cons operation operations ih =>
      have later := ih (reconciled.perform operation)
      simpa [directChanges, add_assoc] using later

/-- When nothing was moved on the protocol directly, its check refuses no change
of an account that the account itself can bear: with the change the protocol
holds the sum of solvent balances. -/
theorem solvent_protocol (reconciled : ledger.Reconciled fun _ => 0) {scope : Scope}
    (isAccount : scope ≠ protocolScope) {token : Token} {change : Amounts}
    (own : (ledger.balance scope token + change).Solvent) :
    (ledger.balance protocolScope token + change).Solvent := by
  have grown := sumOver_set_add ledger.balances
    (fun pair => pair.1 ≠ protocolScope ∧ pair.2 = token) (scope, token) change
  rw [if_pos ⟨isAccount, rfl⟩] at grown
  have total : ledger.balance protocolScope token + change =
      (ledger.balances.set (scope, token) (ledger.balance scope token + change)).sumOver
        (fun pair amounts => if pair.1 ≠ protocolScope ∧ pair.2 = token then amounts else 0) := by
    rw [reconciled.conserved token, add_zero]
    exact grown.symm
  rw [total]
  refine Table.sumOver_induction Amounts.solvent_zero (fun _ _ => Amounts.Solvent.add) ?_
  intro pair amounts held
  rw [Table.get?_set] at held
  split
  · split at held
    · obtain rfl := Option.some.inj held
      exact own
    · have solvent := reconciled.solvent pair.1 pair.2
      rwa [Ledger.balance, Table.getD, held] at solvent
  · exact Amounts.solvent_zero

/-- When nothing was moved on the protocol directly, whether a change of an account
goes through is decided by the balance of the account. -/
theorem overdrawn?_eq (reconciled : ledger.Reconciled fun _ => 0) {scope : Scope}
    (isAccount : scope ≠ protocolScope) (token : Token) (change : Amounts) :
    ledger.overdrawn? scope token change =
      if (ledger.balance scope token + change).Solvent then none else some scope := by
  split
  · next own =>
      rw [overdrawn?_eq_none_iff]
      intro other inside
      obtain rfl | rfl := Scope.mem_reached_iff.mp inside
      · exact own
      · exact reconciled.solvent_protocol isAccount own
  · next own => simp [overdrawn?, Scope.reached, isAccount, own]

/-- When nothing was moved on the protocol directly, only the account itself can
be overdrawn by a change of an account. -/
theorem eq_of_overdrawn? (reconciled : ledger.Reconciled fun _ => 0) {scope other : Scope}
    (isAccount : scope ≠ protocolScope) {token : Token} {change : Amounts}
    (overdrawn : ledger.overdrawn? scope token change = some other) : other = scope := by
  rw [reconciled.overdrawn?_eq isAccount] at overdrawn
  split at overdrawn
  · contradiction
  · exact (Option.some.inj overdrawn).symm

end Reconciled

variable {ledger : Ledger}

/-- In a reconciled ledger on whose protocol nothing was moved directly, a refusal
by the balances names the account that the operation is addressed to. -/
theorem Reconciled.pair?_of_negativeBalance (reconciled : ledger.Reconciled fun _ => 0)
    {operation : Operation}
    (indirect : ∀ token, operation.pair? ≠ some (protocolScope, token))
    {scope : Scope} {token : Token} {value amount : Int}
    (refused : (operation.perform ledger).result =
      .error (.negativeBalance scope token value amount)) :
    operation.pair? = some (scope, token) ∧ scope ≠ protocolScope := by
  cases operation.ending ledger with
  | rejected failure admission performed =>
      rw [performed] at refused
      obtain rfl := Except.error.inj refused
      exact absurd admission (operation.admission_ne_negativeBalance ledger _ _ _ _)
  | plain admission asked performed =>
      rw [performed] at refused
      contradiction
  | booked request admission asked passed performed =>
      rw [performed] at refused
      contradiction
  | overdrawn request other admission asked overdrawn performed =>
      rw [performed] at refused
      obtain ⟨rfl, rfl, -, -⟩ := LedgerFailure.negativeBalance.inj (Except.error.inj refused)
      have pair := Operation.pair?_of_request? asked
      have isAccount : request.scope ≠ protocolScope := by
        intro isProtocol
        rw [isProtocol] at pair
        exact indirect request.token pair
      rw [reconciled.eq_of_overdrawn? isAccount overdrawn]
      exact ⟨pair, isAccount⟩

/-- In a run that is never addressed to the protocol, every refusal by the
balances names the account that the operation is addressed to. -/
theorem Reconciled.pair?_of_reply (reconciled : ledger.Reconciled fun _ => 0)
    {operations : List Operation}
    (indirect : ∀ operation ∈ operations, ∀ token,
      operation.pair? ≠ some (protocolScope, token))
    {operation : Operation} {scope : Scope} {token : Token} {value amount : Int}
    (refused : (operation, .error (.negativeBalance scope token value amount)) ∈
      ledger.replies operations) :
    operation.pair? = some (scope, token) ∧ scope ≠ protocolScope := by
  induction operations generalizing ledger with
  | nil => simp [replies] at refused
  | cons first operations ih =>
      have later : ∀ other ∈ operations, ∀ token, other.pair? ≠ some (protocolScope, token) :=
        fun other inside => indirect other (List.mem_cons_of_mem first inside)
      rw [replies, List.mem_cons] at refused
      obtain here | there := refused
      · obtain ⟨rfl, result⟩ := Prod.mk.inj here
        exact reconciled.pair?_of_negativeBalance (indirect operation List.mem_cons_self)
          result.symm
      · refine ih ?_ later there
        have next := reconciled.perform first
        have still := Operation.directChange_eq_zero (indirect first List.mem_cons_self) ledger
        simpa [still] using next

/-- After every run from the empty ledger, refused operations included, the
protocol holds of each token what the accounts hold together and the net of what
was moved on it directly; no stored balance is below zero; and unless an operation
is addressed to the protocol, a refusal by the balances never names it but the
account that is addressed. -/
theorem protocol_balance_run (v31Period : Option Int) (operations : List Operation) :
    (∀ token,
      ((Ledger.empty v31Period).run operations).balance protocolScope token =
        ((Ledger.empty v31Period).run operations).accountTotal token +
          (Ledger.empty v31Period).directChanges token operations) ∧
    (∀ scope token amounts,
      ((Ledger.empty v31Period).run operations).balances.get? (scope, token) = some amounts →
        0 ≤ amounts.depositedValue ∧ 0 ≤ amounts.depositedAmount) ∧
    ((∀ operation ∈ operations, ∀ token, operation.pair? ≠ some (protocolScope, token)) →
      ∀ operation scope token value amount,
        (operation, .error (.negativeBalance scope token value amount)) ∈
            (Ledger.empty v31Period).replies operations →
          operation.pair? = some (scope, token) ∧ scope ≠ protocolScope) := by
  have start := reconciled_empty v31Period
  have reconciled := start.run operations
  refine ⟨fun token => ?_, fun scope token amounts held => ?_, fun indirect operation scope token
    value amount refused => start.pair?_of_reply indirect refused⟩
  · simpa using reconciled.conserved token
  · have solvent := reconciled.solvent scope token
    rwa [balance, Table.getD, held] at solvent

/-- A debit that the protocol could bear is refused for the account that could
not. -/
theorem debit_refused_for_account :
    let operations : List Operation :=
      [.putDeposit ⟨"0xa", "0xt", .season 1⟩ 100 100 1,
        .putDeposit ⟨"0xb", "0xt", .season 1⟩ 50 50 2,
        .debit "0xb" "0xt" ⟨60, 60, 0, 0, 0⟩ 3]
    let refused : Operation × Except LedgerFailure Reply :=
      (.debit "0xb" "0xt" ⟨60, 60, 0, 0, 0⟩ 3, .error (.negativeBalance "0xb" "0xt" (-10) (-10)))
    refused ∈ (Ledger.empty none).replies operations ∧
      (∀ operation ∈ operations, ∀ token, operation.pair? ≠ some (protocolScope, token)) ∧
      (refused.1.pair? = some ("0xb", "0xt") ∧ "0xb" ≠ protocolScope) := by
  intro operations refused
  have inside : refused ∈ (Ledger.empty none).replies operations := by
    have third : ((Ledger.empty none).replies operations)[2]? = some refused := by decide
    exact List.mem_of_getElem? third
  have indirect : ∀ operation ∈ operations, ∀ token,
      operation.pair? ≠ some (protocolScope, token) := by
    simp [operations, Operation.pair?, protocolScope]
  exact ⟨inside, indirect, (protocol_balance_run none operations).2.2 indirect _ _ _ _ _ inside⟩

end Ledger

end DepositYield
