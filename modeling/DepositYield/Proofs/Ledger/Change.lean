import DepositYield.Ledger.Basic
import DepositYield.Proofs.Ledger.Amounts
import DepositYield.Proofs.Table

/-!
# Changes of balances

A change of a scope reaches the scope and the protocol.  It goes through exactly
when every balance it reaches stays solvent, and then adds the same amounts to
each of them and nothing to any other.
-/

namespace DepositYield

/-- The scopes whose balances a change of a scope reaches, in the order in which
they are checked and written. -/
def Scope.reached (scope : Scope) : List Scope :=
  if scope = protocolScope then [protocolScope] else [scope, protocolScope]

theorem Scope.mem_reached_iff {scope other : Scope} :
    other ∈ scope.reached ↔ other = scope ∨ other = protocolScope := by
  unfold Scope.reached
  split
  · next same => simp [same]
  · simp

/-- Of two scopes that are not the protocol, a change reaches only its own. -/
theorem Scope.mem_reached_iff_eq {scope other : Scope} (isAccount : other ≠ protocolScope) :
    other ∈ scope.reached ↔ other = scope := by
  simp [mem_reached_iff, isAccount]

namespace Ledger

/-- The ledger after a change of a scope that has passed its checks. -/
def book (ledger : Ledger) (scope : Scope) (token : Token) (change : Amounts)
    (timestamp : Int) : Ledger :=
  { ledger with
    balances := scope.reached.foldl
      (fun balances other => balances.set (other, token) (ledger.balance other token + change))
      ledger.balances
    journal := ledger.journal ++ scope.reached.map fun other =>
      { scope := other
        token
        period := ledger.period
        timestamp
        change
        balance := ledger.balance other token + change } }

variable {ledger after : Ledger} {scope : Scope} {token : Token} {change changed : Amounts}
  {timestamp : Int} {failure : LedgerFailure}

/-! ## One balance -/

theorem changedBalance_of_solvent (solvent : (ledger.balance scope token + change).Solvent) :
    ledger.changedBalance scope token change = .ok (ledger.balance scope token + change) := by
  unfold changedBalance
  obtain ⟨value, amount⟩ := solvent
  exact if_neg (by omega)

theorem changedBalance_of_not_solvent
    (overdrawn : ¬ (ledger.balance scope token + change).Solvent) :
    ledger.changedBalance scope token change =
      .error (.negativeBalance scope token
        (ledger.balance scope token + change).depositedValue
        (ledger.balance scope token + change).depositedAmount) := by
  unfold changedBalance
  exact if_pos (by unfold Amounts.Solvent at overdrawn; omega)

/-! ## All balances that a change reaches -/

/-- The first scope that a change reaches and would overdraw. -/
def overdrawn? (ledger : Ledger) (scope : Scope) (token : Token) (change : Amounts) :
    Option Scope :=
  scope.reached.find? fun other => ¬ (ledger.balance other token + change).Solvent

/-- The refusal of a change that would overdraw a scope. -/
def overdraft (ledger : Ledger) (scope : Scope) (token : Token) (change : Amounts) :
    LedgerFailure :=
  .negativeBalance scope token (ledger.balance scope token + change).depositedValue
    (ledger.balance scope token + change).depositedAmount

/-- A change is refused for the first scope that it would overdraw; if there is
none, it is booked. -/
theorem change_eq (ledger : Ledger) (scope : Scope) (token : Token) (change : Amounts)
    (timestamp : Int) :
    ledger.change scope token change timestamp =
      match ledger.overdrawn? scope token change with
      | some other => .error (ledger.overdraft other token change)
      | none => .ok (ledger.book scope token change timestamp) := by
  unfold Ledger.change overdrawn? Scope.reached book overdraft
  by_cases isProtocol : scope = protocolScope
  · subst isProtocol
    by_cases own : (ledger.balance protocolScope token + change).Solvent
    · simp [own, changedBalance_of_solvent own, Scope.reached, writeBalance, bind, Except.bind,
        pure, Except.pure]
    · simp [own, changedBalance_of_not_solvent own, bind, Except.bind]
  · by_cases own : (ledger.balance scope token + change).Solvent
    · by_cases protocol : (ledger.balance protocolScope token + change).Solvent
      · simp [isProtocol, own, protocol, changedBalance_of_solvent own,
          changedBalance_of_solvent protocol, Scope.reached, writeBalance, bind, Except.bind,
          pure, Except.pure]
      · simp [isProtocol, own, protocol, changedBalance_of_solvent own,
          changedBalance_of_not_solvent protocol, bind, Except.bind]
    · simp [isProtocol, own, changedBalance_of_not_solvent own, bind, Except.bind]

/-- What a change of one ledger meets depends on the balances only. -/
theorem change_eq_of_balances_eq (ledger other : Ledger)
    (same : other.balances = ledger.balances) (scope : Scope) (token : Token)
    (change : Amounts) (timestamp : Int) :
    other.change scope token change timestamp =
      match ledger.overdrawn? scope token change with
      | some overdrawn => .error (ledger.overdraft overdrawn token change)
      | none => .ok (other.book scope token change timestamp) := by
  have balances : other.balance = ledger.balance := by
    unfold Ledger.balance
    rw [same]
  rw [change_eq]
  unfold overdrawn? overdraft
  rw [balances]

theorem changeOnly_eq (ledger : Ledger) (scope : Scope) (token : Token) (change : Amounts)
    (timestamp : Int) :
    ledger.changeOnly scope token change timestamp =
      match ledger.overdrawn? scope token change with
      | some other => { result := .error (ledger.overdraft other token change), ledger }
      | none => { result := .ok (), ledger := ledger.book scope token change timestamp } := by
  unfold changeOnly
  rw [change_eq]
  cases ledger.overdrawn? scope token change <;> rfl

/-- A change overdraws nothing when every balance it reaches stays solvent. -/
theorem overdrawn?_eq_none_iff :
    ledger.overdrawn? scope token change = none ↔
      ∀ other ∈ scope.reached, (ledger.balance other token + change).Solvent := by
  simp [overdrawn?]

/-! ## The balances after a change -/

theorem get?_balances_book (ledger : Ledger) (scope : Scope) (token : Token) (change : Amounts)
    (timestamp : Int) (other : Scope) (otherToken : Token) :
    (ledger.book scope token change timestamp).balances.get? (other, otherToken) =
      if otherToken = token ∧ other ∈ scope.reached then
        some (ledger.balance other token + change)
      else ledger.balances.get? (other, otherToken) := by
  unfold book Scope.reached
  by_cases isProtocol : scope = protocolScope <;>
    simp only [isProtocol, if_true, if_false, List.foldl_cons, List.foldl_nil, Table.get?_set,
      Prod.mk.injEq, List.mem_cons, List.not_mem_nil, or_false] <;>
    grind

/-- A change adds its amounts to the balances that it reaches. -/
theorem balance_book (ledger : Ledger) (scope : Scope) (token : Token) (change : Amounts)
    (timestamp : Int) (other : Scope) (otherToken : Token) :
    (ledger.book scope token change timestamp).balance other otherToken =
      ledger.balance other otherToken +
        if otherToken = token ∧ other ∈ scope.reached then change else 0 := by
  unfold Ledger.balance Table.getD
  rw [get?_balances_book]
  split
  · next reached =>
      obtain ⟨rfl, _⟩ := reached
      rfl
  · simp

/-- A booked change keeps balances solvent. -/
theorem solvent_balance_book
    (passed : ∀ other ∈ scope.reached, (ledger.balance other token + change).Solvent)
    (solvent : ∀ other otherToken, (ledger.balance other otherToken).Solvent)
    (other : Scope) (otherToken : Token) :
    ((ledger.book scope token change timestamp).balance other otherToken).Solvent := by
  rw [balance_book]
  split
  · next reached =>
      obtain ⟨rfl, inside⟩ := reached
      exact passed other inside
  · rw [add_zero]
    exact solvent other otherToken

end Ledger

end DepositYield
