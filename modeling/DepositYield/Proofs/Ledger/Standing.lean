import DepositYield.Proofs.Ledger.Conservation
import DepositYield.Proofs.Lists

/-!
# Ledgers that follow accounts

As long as balances change only through deposits, stalk, seeds and withdrawals of
accounts, the protocol has a balance of exactly the tokens that some account has
one of, and the active accounts are those whose stalk is above zero.  Credits and
debits move stalk without regard to the active accounts and are left out.
-/

namespace DepositYield

/-- An operation by which accounts are followed: not a credit or a debit, and not
addressed to the protocol. -/
def Operation.FollowsAccounts : Operation → Prop
  | .credit _ _ _ _ => False
  | .debit _ _ _ _ => False
  | operation => ∀ token, operation.pair? ≠ some (protocolScope, token)

/-- A credit or a debit of an account that moves its stalk. -/
def Operation.MovesStalkDirectly (account : Scope) : Operation → Prop
  | .credit scope _ movement _ => scope = account ∧ movement.stalk ≠ 0
  | .debit scope _ movement _ => scope = account ∧ movement.stalk ≠ 0
  | _ => False

/-- The account whose place among the active accounts an operation brings up to date, once
its change is booked. -/
def Operation.refreshed? : Operation → Option Scope
  | .moveStalk account _ _ _ _ => if account = protocolScope then none else some account
  | _ => none

/-- A change of an account brings the active accounts up to date or moves no stalk, unless it
is a direct one. -/
theorem Operation.refreshed?_or_stalk_eq_zero {operation : Operation} {ledger : Ledger}
    {request : BalanceRequest} (asked : operation.request? ledger = some request)
    (isAccount : request.scope ≠ protocolScope)
    (indirect : ¬operation.MovesStalkDirectly request.scope) :
    operation.refreshed? = some request.scope ∨
      operation.refreshed? = none ∧ request.change.stalk = 0 := by
  cases operation with
  | moveStalk =>
      obtain rfl := Option.some.inj asked
      exact .inl (if_neg isAccount)
  | credit =>
      obtain rfl := Option.some.inj asked
      exact .inr ⟨rfl, not_not.mp fun moves => indirect ⟨rfl, moves⟩⟩
  | debit =>
      obtain rfl := Option.some.inj asked
      exact .inr ⟨rfl, Int.neg_eq_zero.mpr (not_not.mp fun moves => indirect ⟨rfl, moves⟩)⟩
  | putDeposit =>
      obtain rfl := Option.some.inj asked
      exact .inr ⟨rfl, rfl⟩
  | takeDeposit =>
      obtain rfl := Option.some.inj asked
      exact .inr ⟨rfl, rfl⟩
  | moveSeeds =>
      obtain rfl := Option.some.inj asked
      exact .inr ⟨rfl, rfl⟩
  | queueWithdrawal =>
      obtain rfl := Option.some.inj asked
      exact .inr ⟨rfl, rfl⟩
  | _ => simp [request?] at asked

namespace Operation.FollowsAccounts

variable {operation : Operation}

theorem indirect (follows : operation.FollowsAccounts) (token : Token) :
    operation.pair? ≠ some (protocolScope, token) := by
  cases operation with
  | credit => exact follows.elim
  | debit => exact follows.elim
  | _ => exact follows token

theorem isAccount_of_request? (follows : operation.FollowsAccounts) {ledger : Ledger}
    {request : BalanceRequest} (asked : operation.request? ledger = some request) :
    request.scope ≠ protocolScope := by
  intro isProtocol
  have about := pair?_of_request? asked
  rw [isProtocol] at about
  exact follows.indirect request.token about

theorem not_movesStalkDirectly (follows : operation.FollowsAccounts) (account : Scope) :
    ¬operation.MovesStalkDirectly account := by
  intro direct
  cases operation with
  | credit => exact follows
  | debit => exact follows
  | _ => exact direct

end Operation.FollowsAccounts

namespace Ledger

/-! ## The stalk of an account -/

theorem scopeAmounts_eq (balances : Table (Scope × Token) Amounts) (scope : Scope) :
    scopeAmounts balances scope =
      balances.sumOver fun pair amounts => if pair.1 = scope then amounts else 0 :=
  foldl_ite_add_zero (fun entry : (Scope × Token) × Amounts => entry.1.1 = scope) Prod.snd
    balances.entries

/-- Balances of a scope that are the same for each token have the same totals. -/
theorem totals_eq_of_balances {left right : Ledger} {scope : Scope}
    (same : ∀ token, left.balances.get? (scope, token) = right.balances.get? (scope, token)) :
    left.totals scope = right.totals scope := by
  have sums : scopeAmounts left.balances scope = scopeAmounts right.balances scope := by
    rw [scopeAmounts_eq, scopeAmounts_eq]
    refine Table.sumOver_eq_of_get?_eq _ fun pair => ?_
    by_cases own : pair.1 = scope
    · subst own
      exact .inl (same pair.2)
    · exact .inr fun _ => if_neg own
  unfold totals scopeTotals
  rw [sums]

theorem stalk_totals (ledger : Ledger) (account : Scope) :
    (ledger.totals account).stalk = (ledger.totalWhere fun pair => pair.1 = account).stalk :=
  congrArg Amounts.stalk (scopeAmounts_eq ledger.balances account)

theorem stalk_totals_book (ledger : Ledger) (scope : Scope) (token : Token) (change : Amounts)
    (timestamp : Int) {account : Scope} (isAccount : account ≠ protocolScope) :
    ((ledger.book scope token change timestamp).totals account).stalk =
      (ledger.totals account).stalk + if account = scope then change.stalk else 0 := by
  rw [stalk_totals, stalk_totals, totalWhere_book, Amounts.add_stalk]
  congr 1
  by_cases own : account = scope
  · subst own
    simp [Scope.reached, isAccount, Ne.symm isAccount]
  · by_cases isProtocol : scope = protocolScope <;>
      simp [Scope.reached, isProtocol, own, isAccount, Ne.symm own, Ne.symm isAccount]

theorem mem_activeAccounts_refreshActive (ledger : Ledger) (account other : Scope) :
    other ∈ (ledger.refreshActive account).activeAccounts ↔
      if other = account then 0 < (ledger.totals account).stalk
      else other ∈ ledger.activeAccounts := by
  unfold refreshActive
  by_cases positive : 0 < (ledger.totals account).stalk <;>
    by_cases own : other = account <;> simp [positive, own]

end Ledger

namespace Operation

/-- Completing brings one account up to date or leaves the active accounts alone. -/
theorem mem_activeAccounts_completed (operation : Operation) (ledger booked : Ledger)
    (account : Scope) :
    account ∈ (operation.completed ledger booked).activeAccounts ↔
      if operation.refreshed? = some account then 0 < (booked.totals account).stalk
      else account ∈ booked.activeAccounts := by
  cases operation with
  | moveStalk own =>
      simp only [completed, refreshed?]
      by_cases isProtocol : own = protocolScope
      · simp [isProtocol]
      · simp only [isProtocol, if_false, Ledger.mem_activeAccounts_refreshActive,
          Option.some.injEq, eq_comm (a := own)]
        split
        · next same => rw [same]
        · rfl
  | _ => rfl

/-- Only a granted change moves the stalk of an account. -/
theorem stalk_totals_perform (operation : Operation) (ledger : Ledger) {account : Scope}
    (isAccount : account ≠ protocolScope) :
    ((operation.perform ledger).ledger.totals account).stalk =
      (ledger.totals account).stalk +
        match operation.granted? ledger with
        | none => 0
        | some request => if account = request.scope then request.change.stalk else 0 := by
  have moved := operation.balances_perform ledger
  cases granted : operation.granted? ledger with
  | none =>
      rw [granted] at moved
      have same : (operation.perform ledger).ledger.totals account = ledger.totals account :=
        Ledger.totals_eq_of_balances fun token => by rw [moved]
      rw [same, add_zero]
  | some request =>
      rw [granted] at moved
      have same : (operation.perform ledger).ledger.totals account =
          (ledger.book request.scope request.token request.change
            request.timestamp).totals account :=
        Ledger.totals_eq_of_balances fun token => by rw [moved]
      rw [same]
      exact ledger.stalk_totals_book _ _ _ _ isAccount

/-- Only a granted move of stalk changes the active accounts, and it puts the account where
its stalk belongs. -/
theorem mem_activeAccounts_perform (operation : Operation) (ledger : Ledger) (account : Scope) :
    account ∈ (operation.perform ledger).ledger.activeAccounts ↔
      if (operation.granted? ledger).isSome ∧ operation.refreshed? = some account then
        0 < ((operation.perform ledger).ledger.totals account).stalk
      else account ∈ ledger.activeAccounts := by
  obtain ⟨-, -, untouched, -⟩ := operation.recorded_frame ledger
  cases operation.ending ledger with
  | rejected failure admission performed => simp [granted?, performed]
  | plain admission asked performed =>
      simp [granted?_of_request?_eq_none asked, performed, untouched]
  | overdrawn request other admission asked overdrawn performed =>
      simp [granted?, performed, untouched]
  | booked request admission asked passed performed =>
      obtain ⟨accounts, grownStalk, completed⟩ := operation.completed_frame ledger
        ((operation.recorded ledger).book request.scope request.token request.change
          request.timestamp)
      have totals : (operation.perform ledger).ledger.totals account =
          ((operation.recorded ledger).book request.scope request.token request.change
            request.timestamp).totals account := by
        rw [performed, completed]
        rfl
      have booked : ((operation.recorded ledger).book request.scope request.token request.change
          request.timestamp).activeAccounts = ledger.activeAccounts := untouched
      rw [totals, granted?_of_passed admission asked passed, performed,
        mem_activeAccounts_completed, booked]
      simp only [Option.isSome_some, true_and]

end Operation

namespace Ledger

/-! ## The invariant -/

/-- The balances of accounts are solvent and make up those of the protocol, and the
active accounts are those with stalk. -/
structure Standing (ledger : Ledger) : Prop where
  reconciled : ledger.Reconciled fun _ => 0
  held : ∀ token, (ledger.balances.get? (protocolScope, token)).isSome ↔
    ∃ account, account ≠ protocolScope ∧ (ledger.balances.get? (account, token)).isSome
  active : ∀ account, account ∈ ledger.activeAccounts ↔
    account ≠ protocolScope ∧ 0 < (ledger.totals account).stalk

theorem standing_empty (v31Period : Option Int) : (Ledger.empty v31Period).Standing where
  reconciled := reconciled_empty v31Period
  held _ := by simp [Ledger.empty]
  active account := by
    constructor
    · intro inside
      exact absurd inside List.not_mem_nil
    · rintro ⟨-, positive⟩
      exact (Int.lt_irrefl 0 positive).elim

namespace Standing

variable {ledger : Ledger}

/-- The standing of a ledger is a matter of its balances and active accounts. -/
theorem of_eq (standing : ledger.Standing) {other : Ledger}
    (balances : other.balances = ledger.balances)
    (activeAccounts : other.activeAccounts = ledger.activeAccounts) : other.Standing where
  reconciled := standing.reconciled.of_balances_eq balances
  held := by
    rw [balances]
    exact standing.held
  active account := by
    unfold totals
    rw [activeAccounts, balances]
    exact standing.active account

/-- With a balance of an account the protocol gets one, too. -/
theorem held_book (standing : ledger.Standing) {scope : Scope}
    (isAccount : scope ≠ protocolScope) (token : Token) (change : Amounts) (timestamp : Int)
    (other : Token) :
    ((ledger.book scope token change timestamp).balances.get? (protocolScope, other)).isSome ↔
      ∃ account, account ≠ protocolScope ∧
        ((ledger.book scope token change timestamp).balances.get? (account, other)).isSome := by
  by_cases own : other = token
  · subst own
    constructor
    · intro _
      refine ⟨scope, isAccount, ?_⟩
      simp [get?_balances_book, Scope.mem_reached_iff]
    · intro _
      simp [get?_balances_book, Scope.mem_reached_iff]
  · simp only [get?_balances_book, own, false_and, if_false]
    exact standing.held other

/-- An operation that follows accounts keeps the active accounts those with stalk. -/
theorem active_perform (standing : ledger.Standing) {operation : Operation}
    (follows : operation.FollowsAccounts) (account : Scope) :
    account ∈ (operation.perform ledger).ledger.activeAccounts ↔
      account ≠ protocolScope ∧
        0 < ((operation.perform ledger).ledger.totals account).stalk := by
  rw [operation.mem_activeAccounts_perform ledger account]
  cases granted : operation.granted? ledger with
  | none =>
      simp only [Option.isSome_none, Bool.false_eq_true, false_and, if_false]
      refine (standing.active account).trans (and_congr_right fun isAccount => ?_)
      rw [operation.stalk_totals_perform ledger isAccount, granted, add_zero]
  | some request =>
      have asked := Operation.request?_of_granted? granted
      have isAccount := follows.isAccount_of_request? asked
      have stalk := Operation.refreshed?_or_stalk_eq_zero asked isAccount
        (follows.not_movesStalkDirectly request.scope)
      simp only [Option.isSome_some, true_and]
      split
      · next own =>
          rcases stalk with refreshed | ⟨nothing, -⟩
          · obtain rfl := Option.some.inj (refreshed.symm.trans own)
            simp [isAccount]
          · rw [nothing] at own
            contradiction
      · next other =>
          refine (standing.active account).trans (and_congr_right fun otherAccount => ?_)
          rw [operation.stalk_totals_perform ledger otherAccount, granted]
          rcases stalk with refreshed | ⟨-, noStalk⟩
          · have elsewhere : account ≠ request.scope := by
              rintro rfl
              exact other refreshed
            simp only [elsewhere, if_false, add_zero]
          · simp only [noStalk, ite_self, add_zero]

/-- Every operation that follows accounts keeps the standing of the ledger. -/
theorem perform (standing : ledger.Standing) {operation : Operation}
    (follows : operation.FollowsAccounts) : (operation.perform ledger).ledger.Standing where
  reconciled := by
    have reconciled := standing.reconciled.perform operation
    simpa only [Operation.directChange_eq_zero follows.indirect, add_zero] using reconciled
  held := by
    rw [operation.balances_perform ledger]
    cases granted : operation.granted? ledger with
    | none => exact standing.held
    | some request =>
        have asked := Operation.request?_of_granted? granted
        exact standing.held_book (follows.isAccount_of_request? asked) request.token
          request.change request.timestamp
  active := standing.active_perform follows

end Standing

end Ledger

end DepositYield
