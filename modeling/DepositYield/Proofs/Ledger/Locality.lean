import DepositYield.Proofs.Ledger.Conservation

/-!
# What operations on an account and token depend on

An operation on an account and a token reads and writes what belongs to the two.
It also reads the era of the token and the balance of the protocol.  The balance
of the protocol decides nothing as long as the ledger is reconciled.  The version
of a deposit depends on the period in which its record was created and is left
out of the comparison.
-/

namespace DepositYield

/-- A deposit without the version of its record. -/
def Deposit.unversioned (deposit : Deposit) : Deposit :=
  { deposit with version := .season }

/-- The token and the key that an operation is checked for, if it has a key. -/
def Operation.key? : Operation → Option (Token × DepositKey)
  | .readDeposit id => some (id.token, id.key)
  | .putDeposit id _ _ _ => some (id.token, id.key)
  | .takeDeposit id _ _ _ => some (id.token, id.key)
  | _ => none

namespace Ledger

/-- Two ledgers hold the same for an account and a token, apart from the versions
of deposits.  The balance of the protocol does not count. -/
structure SameOn (pair : Scope × Token) (left right : Ledger) : Prop where
  balance : pair.1 ≠ protocolScope → left.balances.get? pair = right.balances.get? pair
  deposits : ∀ key, (left.deposits.get? ⟨pair.1, pair.2, key⟩).map Deposit.unversioned =
    (right.deposits.get? ⟨pair.1, pair.2, key⟩).map Deposit.unversioned
  withdrawals : ∀ season, left.withdrawals.get? ⟨pair.1, pair.2, season⟩ =
    right.withdrawals.get? ⟨pair.1, pair.2, season⟩
  setting : left.setting pair.2 = right.setting pair.2

namespace SameOn

variable {pair : Scope × Token} {left right other : Ledger}

theorem refl (pair : Scope × Token) (ledger : Ledger) : SameOn pair ledger ledger where
  balance _ := rfl
  deposits _ := rfl
  withdrawals _ := rfl
  setting := rfl

theorem symm (same : SameOn pair left right) : SameOn pair right left where
  balance isAccount := (same.balance isAccount).symm
  deposits key := (same.deposits key).symm
  withdrawals season := (same.withdrawals season).symm
  setting := same.setting.symm

theorem trans (first : SameOn pair left right) (second : SameOn pair right other) :
    SameOn pair left other where
  balance isAccount := (first.balance isAccount).trans (second.balance isAccount)
  deposits key := (first.deposits key).trans (second.deposits key)
  withdrawals season := (first.withdrawals season).trans (second.withdrawals season)
  setting := first.setting.trans second.setting

/-! ## What is read -/

theorem balance_eq (same : SameOn pair left right) (isAccount : pair.1 ≠ protocolScope) :
    left.balance pair.1 pair.2 = right.balance pair.1 pair.2 :=
  congrArg (fun held => Option.getD held 0) (same.balance isAccount)

theorem unversioned_depositAt {id : DepositId} (same : SameOn (id.account, id.token) left right)
    (createdAt : Int) :
    (left.depositAt id createdAt).unversioned = (right.depositAt id createdAt).unversioned := by
  have held := same.deposits id.key
  unfold depositAt Table.getD
  cases leftHeld : left.deposits.get? id with
  | none =>
      cases rightHeld : right.deposits.get? id with
      | none => rfl
      | some deposit => simp [leftHeld, rightHeld] at held
  | some deposit =>
      cases rightHeld : right.deposits.get? id with
      | none => simp [leftHeld, rightHeld] at held
      | some rightDeposit => simpa [leftHeld, rightHeld] using held

theorem amount_depositAt {id : DepositId} (same : SameOn (id.account, id.token) left right)
    (createdAt : Int) :
    (left.depositAt id createdAt).amount = (right.depositAt id createdAt).amount := by
  have facts := congrArg Deposit.amount (same.unversioned_depositAt createdAt)
  exact facts

theorem value_depositAt {id : DepositId} (same : SameOn (id.account, id.token) left right)
    (createdAt : Int) :
    (left.depositAt id createdAt).value = (right.depositAt id createdAt).value := by
  have facts := congrArg Deposit.value (same.unversioned_depositAt createdAt)
  exact facts

theorem valueTaken_eq {id : DepositId} (same : SameOn (id.account, id.token) left right)
    (amount : Int) (value : Option Int) :
    left.valueTaken id amount value = right.valueTaken id amount value := by
  unfold valueTaken removedValue
  rw [same.amount_depositAt, same.value_depositAt]

theorem withdrawalAt_eq {id : WithdrawalId} (same : SameOn (id.account, id.token) left right)
    (createdAt : Int) : left.withdrawalAt id createdAt = right.withdrawalAt id createdAt := by
  unfold withdrawalAt Table.getD
  rw [same.withdrawals id.season]

theorem grownStalkOf_eq (same : SameOn pair left right) (value : Int) :
    left.grownStalkOf pair.2 value = right.grownStalkOf pair.2 value := by
  unfold grownStalkOf
  rw [same.setting]

/-! ## What is written -/

theorem writeDeposit {id : DepositId} (same : SameOn pair left right)
    {leftDeposit rightDeposit : Deposit}
    (written : leftDeposit.unversioned = rightDeposit.unversioned) :
    SameOn pair (left.writeDeposit id leftDeposit) (right.writeDeposit id rightDeposit) where
  balance := same.balance
  deposits key := by
    unfold Ledger.writeDeposit
    rw [Table.get?_set, Table.get?_set]
    split
    · exact congrArg some written
    · exact same.deposits key
  withdrawals := same.withdrawals
  setting := same.setting

theorem writeWithdrawal {id : WithdrawalId} (same : SameOn pair left right)
    (withdrawal : Withdrawal) :
    SameOn pair (left.writeWithdrawal id withdrawal) (right.writeWithdrawal id withdrawal) where
  balance := same.balance
  deposits := same.deposits
  withdrawals season := by
    unfold Ledger.writeWithdrawal
    rw [Table.get?_set, Table.get?_set]
    split
    · rfl
    · exact same.withdrawals season
  setting := same.setting

theorem openEra (same : SameOn pair left right) (token : Token) (scheme : KeyScheme) :
    SameOn pair (left.openEra token scheme) (right.openEra token scheme) := by
  obtain ⟨leftEras, leftOpened⟩ := left.openEra_frame token scheme
  obtain ⟨rightEras, rightOpened⟩ := right.openEra_frame token scheme
  rw [leftOpened, rightOpened]
  exact ⟨same.balance, same.deposits, same.withdrawals, same.setting⟩

theorem book (same : SameOn pair left right) (change : Amounts) (timestamp : Int) :
    SameOn pair (left.book pair.1 pair.2 change timestamp)
      (right.book pair.1 pair.2 change timestamp) where
  balance isAccount := by
    have reached : pair.2 = pair.2 ∧ pair.1 ∈ pair.1.reached :=
      ⟨rfl, Scope.mem_reached_iff.mpr (.inl rfl)⟩
    rw [show pair = (pair.1, pair.2) from rfl, get?_balances_book, get?_balances_book,
      if_pos reached, if_pos reached, same.balance_eq isAccount]
  deposits := same.deposits
  withdrawals := same.withdrawals
  setting := same.setting

end SameOn

/-! ## What is left alone -/

variable {pair own : Scope × Token} {ledger : Ledger}

theorem sameOn_writeDeposit {id : DepositId} (elsewhere : (id.account, id.token) ≠ pair)
    (deposit : Deposit) : SameOn pair ledger (ledger.writeDeposit id deposit) where
  balance _ := rfl
  deposits key := by
    have different : id ≠ ⟨pair.1, pair.2, key⟩ := by
      rintro rfl
      exact elsewhere rfl
    unfold writeDeposit
    rw [Table.get?_set, if_neg different]
  withdrawals _ := rfl
  setting := rfl

theorem sameOn_writeWithdrawal {id : WithdrawalId} (elsewhere : (id.account, id.token) ≠ pair)
    (withdrawal : Withdrawal) : SameOn pair ledger (ledger.writeWithdrawal id withdrawal) where
  balance _ := rfl
  deposits _ := rfl
  withdrawals season := by
    have different : id ≠ ⟨pair.1, pair.2, season⟩ := by
      rintro rfl
      exact elsewhere rfl
    unfold writeWithdrawal
    rw [Table.get?_set, if_neg different]
  setting := rfl

theorem sameOn_openEra (pair : Scope × Token) (ledger : Ledger) (token : Token)
    (scheme : KeyScheme) : SameOn pair ledger (ledger.openEra token scheme) := by
  obtain ⟨eras, opened⟩ := ledger.openEra_frame token scheme
  rw [opened]
  exact ⟨fun _ => rfl, fun _ => rfl, fun _ => rfl, rfl⟩

theorem sameOn_book {scope : Scope} {token : Token} (elsewhere : (scope, token) ≠ pair)
    (change : Amounts) (timestamp : Int) :
    SameOn pair ledger (ledger.book scope token change timestamp) where
  balance isAccount := by
    have outside : ¬ (pair.2 = token ∧ pair.1 ∈ scope.reached) := by
      rintro ⟨sameToken, inside⟩
      have sameScope := (Scope.mem_reached_iff_eq isAccount).mp inside
      exact elsewhere (Prod.ext sameScope.symm sameToken.symm)
    have kept := ledger.get?_balances_book scope token change timestamp pair.1 pair.2
    rw [if_neg outside] at kept
    exact kept.symm
  deposits _ := rfl
  withdrawals _ := rfl
  setting := rfl

end Ledger

namespace Operation

open Ledger

variable {pair own : Scope × Token} {left right ledger : Ledger} {operation : Operation}

/-! ## Stalk grown per season -/

/-- What performing an operation adds to the stalk grown per season. -/
def grown (ledger : Ledger) (operation : Operation) : Int :=
  (operation.perform ledger).ledger.grownStalkPerSeason - ledger.grownStalkPerSeason

theorem grownStalkPerSeason_recorded (operation : Operation) (ledger : Ledger) :
    (operation.recorded ledger).grownStalkPerSeason = ledger.grownStalkPerSeason :=
  (operation.recorded_frame ledger).2.2.2

theorem grownStalkPerSeason_completed (operation : Operation) (ledger booked : Ledger) :
    (operation.completed ledger booked).grownStalkPerSeason =
      booked.grownStalkPerSeason + operation.growth ledger := by
  cases operation with
  | moveStalk account =>
      obtain ⟨accounts, refreshed⟩ := booked.refreshActive_frame account
      simp only [completed, growth, add_zero]
      split
      · rfl
      · rw [refreshed]
  | _ => rfl

/-- Only a granted change adds to the stalk grown per season. -/
theorem grown_eq (operation : Operation) (ledger : Ledger) :
    operation.grown ledger =
      match operation.granted? ledger with
      | none => 0
      | some _ => operation.growth ledger := by
  unfold grown granted?
  cases operation.ending ledger with
  | rejected failure admission performed =>
      rw [performed]
      exact sub_self _
  | plain admission asked performed =>
      rw [performed, grownStalkPerSeason_recorded, asked]
      exact sub_self _
  | overdrawn request other admission asked overdrawn performed =>
      rw [performed, grownStalkPerSeason_recorded]
      exact sub_self _
  | booked request admission asked passed performed =>
      rw [performed, grownStalkPerSeason_completed, asked]
      have untouched := operation.grownStalkPerSeason_recorded ledger
      simp only [Ledger.book, untouched, add_sub_cancel_left]

/-! ## Eras and the period -/

/-- The scheme that an operation opens a token with, unless the token has one. -/
def opens? (token : Token) : Operation → Option KeyScheme
  | .putDeposit id _ _ _ => if id.token = token then some id.key.scheme else none
  | _ => none

/-- Only the adoption of stems sets the era of a token that has one. -/
theorem eras_recorded {token : Token} (keeps : operation ≠ .adoptStems token)
    (ledger : Ledger) :
    (operation.recorded ledger).eras.get? token =
      (ledger.eras.get? token).or (operation.opens? token) := by
  cases operation with
  | putDeposit id =>
      simp only [recorded, Ledger.writeDeposit, Ledger.openEra, opens?]
      cases set : ledger.eras.get? id.token with
      | some era =>
          by_cases sameToken : id.token = token
          · subst sameToken
            simp [set]
          · simp [sameToken]
      | none =>
          simp only [Table.get?_set]
          by_cases sameToken : id.token = token
          · subst sameToken
            simp [set]
          · simp [sameToken]
  | adoptStems other =>
      have elsewhere : other ≠ token := fun same => keeps (congrArg adoptStems same)
      simp only [recorded, Ledger.adoptStems, Table.get?_set, if_neg elsewhere]
      exact (Option.or_none).symm
  | dewhitelist other =>
      simp only [recorded, Ledger.dewhitelist]
      split <;> exact (Option.or_none).symm
  | _ => exact (Option.or_none).symm

/-- A deposit whose key is rejected is one of a token that has an era. -/
theorem or_opens?_of_admission {failure : LedgerFailure}
    (rejected : operation.admission ledger = .error failure) (token : Token) :
    (ledger.eras.get? token).or (operation.opens? token) = ledger.eras.get? token := by
  cases operation with
  | putDeposit id =>
      simp only [admission, Ledger.requireEra] at rejected
      simp only [opens?]
      by_cases sameToken : id.token = token
      · subst sameToken
        cases set : ledger.eras.get? id.token with
        | some era => rfl
        | none => simp [set] at rejected
      · simp [sameToken]
  | _ => exact Option.or_none

/-- Apart from the adoption of stems, the era of a token is set once, by the key of a
deposit that is put, also when the balances refuse. -/
theorem eras_perform {token : Token} (keeps : operation ≠ .adoptStems token)
    (ledger : Ledger) :
    (operation.perform ledger).ledger.eras.get? token =
      (ledger.eras.get? token).or (operation.opens? token) := by
  cases admission : operation.admission ledger with
  | error failure =>
      rw [perform_of_rejected admission]
      exact (or_opens?_of_admission admission token).symm
  | ok _ =>
      obtain ⟨_, _, _, _, left⟩ := perform_frame_of_admitted admission
      rw [left]
      exact eras_recorded keeps ledger

/-- An operation on an account and a token leaves the period alone and sets eras only
by the key of a deposit that is put. -/
theorem shared_perform (about : operation.pair? = some own) (ledger : Ledger) :
    (operation.perform ledger).ledger.period = ledger.period ∧
      ∀ token, (operation.perform ledger).ledger.eras.get? token =
        (ledger.eras.get? token).or (operation.opens? token) := by
  constructor
  · cases admission : operation.admission ledger with
    | error failure => rw [perform_of_rejected admission]
    | ok _ =>
        obtain ⟨_, _, _, _, left⟩ := perform_frame_of_admitted admission
        obtain ⟨_, _, _, recorded⟩ := recorded_frame_of_pair? about ledger
        rw [left, recorded]
  · intro token
    refine eras_perform ?_ ledger
    rintro rfl
    contradiction

/-! ## An operation of another account and token -/

theorem sameOn_recorded (about : operation.pair? = some own) (elsewhere : own ≠ pair) :
    SameOn pair ledger (operation.recorded ledger) := by
  cases operation with
  | putDeposit id =>
      obtain rfl := Option.some.inj about
      exact (sameOn_openEra pair ledger id.token id.key.scheme).trans
        (sameOn_writeDeposit elsewhere _)
  | takeDeposit id =>
      obtain rfl := Option.some.inj about
      exact sameOn_writeDeposit elsewhere _
  | queueWithdrawal id =>
      obtain rfl := Option.some.inj about
      exact sameOn_writeWithdrawal elsewhere _
  | markClaimed id =>
      obtain rfl := Option.some.inj about
      exact sameOn_writeWithdrawal elsewhere _
  | credit => exact .refl pair ledger
  | debit => exact .refl pair ledger
  | readDeposit => exact .refl pair ledger
  | moveStalk => exact .refl pair ledger
  | moveSeeds => exact .refl pair ledger
  | _ => simp [pair?] at about

theorem sameOn_completed (operation : Operation) (ledger booked : Ledger) :
    SameOn pair booked (operation.completed ledger booked) := by
  obtain ⟨activeAccounts, grownStalk, completed⟩ := operation.completed_frame ledger booked
  rw [completed]
  exact ⟨fun _ => rfl, fun _ => rfl, fun _ => rfl, rfl⟩

/-- An operation leaves alone what belongs to any other account and token. -/
theorem sameOn_perform (about : operation.pair? = some own) (elsewhere : own ≠ pair) :
    SameOn pair ledger (operation.perform ledger).ledger := by
  have recorded : SameOn pair ledger (operation.recorded ledger) :=
    sameOn_recorded about elsewhere
  cases operation.ending ledger with
  | rejected failure admission performed =>
      rw [performed]
      exact .refl pair ledger
  | plain admission asked performed =>
      rw [performed]
      exact recorded
  | overdrawn request other admission asked overdrawn performed =>
      rw [performed]
      exact recorded
  | booked request admission asked passed performed =>
      have booking : (request.scope, request.token) ≠ pair := by
        rw [pair?_of_request? asked] at about
        rwa [Option.some.inj about]
      rw [performed]
      exact (recorded.trans (sameOn_book booking request.change request.timestamp)).trans
        (operation.sameOn_completed ledger _)

/-! ## An operation of the account and token itself -/

theorem admission_eq_of_sameOn (same : SameOn pair left right)
    (about : operation.pair? = some pair)
    (keyed : ∀ token key, operation.key? = some (token, key) →
      left.requireEra token key = right.requireEra token key) :
    operation.admission left = operation.admission right := by
  cases operation with
  | readDeposit id => exact keyed id.token id.key rfl
  | putDeposit id => exact keyed id.token id.key rfl
  | takeDeposit id amount value timestamp =>
      obtain rfl := Option.some.inj about
      simp only [admission]
      rw [keyed id.token id.key rfl, same.amount_depositAt, same.value_depositAt,
        same.valueTaken_eq]
  | advanceTo => simp [pair?] at about
  | _ => rfl

theorem request?_eq_of_sameOn (same : SameOn pair left right)
    (about : operation.pair? = some pair) :
    operation.request? left = operation.request? right := by
  cases operation with
  | takeDeposit id amount value timestamp =>
      obtain rfl := Option.some.inj about
      simp only [request?]
      rw [same.valueTaken_eq]
  | _ => rfl

theorem growth_eq_of_sameOn (same : SameOn pair left right)
    (about : operation.pair? = some pair) : operation.growth left = operation.growth right := by
  cases operation with
  | putDeposit id amount value timestamp =>
      obtain rfl := Option.some.inj about
      exact same.grownStalkOf_eq value
  | takeDeposit id amount value timestamp =>
      obtain rfl := Option.some.inj about
      simp only [growth]
      rw [same.valueTaken_eq]
      exact congrArg Neg.neg (same.grownStalkOf_eq _)
  | _ => rfl

theorem recorded_sameOn (same : SameOn pair left right) (about : operation.pair? = some pair) :
    SameOn pair (operation.recorded left) (operation.recorded right) := by
  cases operation with
  | putDeposit id amount value timestamp =>
      obtain rfl := Option.some.inj about
      refine (same.openEra id.token id.key.scheme).writeDeposit ?_
      have held := same.unversioned_depositAt timestamp
      unfold Deposit.unversioned at held
      simp only [Deposit.mk.injEq, true_and] at held
      simp [depositAfterPut, Deposit.unversioned, held]
  | takeDeposit id amount value timestamp =>
      obtain rfl := Option.some.inj about
      refine same.writeDeposit ?_
      have held := same.unversioned_depositAt 0
      unfold Deposit.unversioned at held
      simp only [Deposit.mk.injEq, true_and] at held
      simp [depositAfterTake, Deposit.unversioned, held, same.valueTaken_eq]
  | queueWithdrawal id amount timestamp =>
      obtain rfl := Option.some.inj about
      simp only [recorded, withdrawalAfterQueue]
      rw [same.withdrawalAt_eq]
      exact same.writeWithdrawal _
  | markClaimed id =>
      obtain rfl := Option.some.inj about
      simp only [recorded, Ledger.markClaimed]
      rw [same.withdrawalAt_eq]
      exact same.writeWithdrawal _
  | credit => exact same
  | debit => exact same
  | readDeposit => exact same
  | moveStalk => exact same
  | moveSeeds => exact same
  | _ => simp [pair?] at about

theorem overdrawn?_eq_of_sameOn (same : SameOn pair left right)
    (leftReconciled : left.Reconciled fun _ => 0) (rightReconciled : right.Reconciled fun _ => 0)
    (isAccount : pair.1 ≠ protocolScope) (change : Amounts) :
    left.overdrawn? pair.1 pair.2 change = right.overdrawn? pair.1 pair.2 change := by
  rw [leftReconciled.overdrawn?_eq isAccount, rightReconciled.overdrawn?_eq isAccount,
    same.balance_eq isAccount]

section Own

variable (same : SameOn pair left right) (leftReconciled : left.Reconciled fun _ => 0)
  (rightReconciled : right.Reconciled fun _ => 0) (isAccount : pair.1 ≠ protocolScope)
  (about : operation.pair? = some pair)
  (keyed : ∀ token key, operation.key? = some (token, key) →
    left.requireEra token key = right.requireEra token key)

include same leftReconciled rightReconciled isAccount about keyed

/-- Whether an operation on an account is refused, and for what reason, depends only
on what belongs to it. -/
theorem result_eq_of_sameOn :
    ((operation.perform left).result.map fun _ => ()) =
      (operation.perform right).result.map fun _ => () := by
  rw [perform_eq, perform_eq, ← admission_eq_of_sameOn same about keyed,
    ← request?_eq_of_sameOn same about]
  cases operation.admission left with
  | error failure => rfl
  | ok _ =>
      cases asked : operation.request? left with
      | none => rfl
      | some request =>
          obtain rfl := Option.some.inj (about.symm.trans (pair?_of_request? asked))
          have checks := overdrawn?_eq_of_sameOn same leftReconciled rightReconciled isAccount
            request.change
          simp only [← checks]
          cases overdrawn : left.overdrawn? request.scope request.token request.change with
          | none => rfl
          | some other =>
              obtain rfl := leftReconciled.eq_of_overdrawn? isAccount overdrawn
              simp only [overdraft, same.balance_eq isAccount]

theorem granted?_eq_of_sameOn : operation.granted? left = operation.granted? right := by
  have results := result_eq_of_sameOn same leftReconciled rightReconciled isAccount about keyed
  unfold granted?
  rw [request?_eq_of_sameOn same about]
  cases leftResult : (operation.perform left).result <;>
    cases rightResult : (operation.perform right).result <;>
      simp [leftResult, rightResult, Except.map] at results ⊢

theorem grown_eq_of_sameOn : operation.grown left = operation.grown right := by
  rw [grown_eq, grown_eq, growth_eq_of_sameOn same about,
    granted?_eq_of_sameOn same leftReconciled rightReconciled isAccount about keyed]

/-- What belongs to an account and a token is changed by an operation on them in a
way that depends on nothing else. -/
theorem perform_sameOn :
    SameOn pair (operation.perform left).ledger (operation.perform right).ledger := by
  have recordings := recorded_sameOn same about
  rw [perform_eq, perform_eq, ← admission_eq_of_sameOn same about keyed,
    ← request?_eq_of_sameOn same about]
  cases operation.admission left with
  | error failure => exact same
  | ok _ =>
      cases asked : operation.request? left with
      | none => exact recordings
      | some request =>
          obtain rfl := Option.some.inj (about.symm.trans (pair?_of_request? asked))
          have checks := overdrawn?_eq_of_sameOn same leftReconciled rightReconciled isAccount
            request.change
          simp only [← checks]
          cases left.overdrawn? request.scope request.token request.change with
          | some other => exact recordings
          | none =>
              have bookings := recordings.book request.change request.timestamp
              exact ((operation.sameOn_completed left _).symm.trans bookings).trans
                (operation.sameOn_completed right _)

end Own

end Operation

end DepositYield
