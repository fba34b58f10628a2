import DepositYield.Proofs.Ledger.Moves

/-!
# Putting in and taking out again

What was put into deposits can be taken out of them again in any order, and the ledger
then holds what it held before.  Between the two it carries the outstanding stakes: every
balance, every deposit and the stalk grown per season are what they were, and what the
stakes come to in them.  The order of the stakes does not matter for that.
-/

namespace DepositYield

/-- An amount and its value that are put into a deposit and taken out of it again. -/
structure Stake where
  id : DepositId
  amount : Int
  value : Int
  deriving DecidableEq, Repr

namespace Stake

/-- The operation that puts a stake in. -/
def put (stake : Stake) (timestamp : Int) : Operation :=
  .putDeposit stake.id stake.amount stake.value timestamp

/-- The operation that takes a stake out, with the value given. -/
def take (stake : Stake) (timestamp : Int) : Operation :=
  .takeDeposit stake.id stake.amount (some stake.value) timestamp

/-- The amounts of a stake. -/
def amounts (stake : Stake) : Amounts :=
  Ledger.depositChange stake.amount stake.value

/-- What a stake comes to in a balance. -/
def inBalance (scope : Scope) (token : Token) (stake : Stake) : Amounts :=
  if token = stake.id.token ∧ scope ∈ stake.id.account.reached then stake.amounts else 0

/-- What a stake comes to in a deposit. -/
def inDeposit (id : DepositId) (stake : Stake) : Amounts :=
  if stake.id = id then stake.amounts else 0

theorem solvent_inBalance {stake : Stake} (solvent : stake.amounts.Solvent) (scope : Scope)
    (token : Token) : (stake.inBalance scope token).Solvent := by
  unfold inBalance
  split
  · exact solvent
  · exact Amounts.solvent_zero

theorem solvent_inDeposit {stake : Stake} (solvent : stake.amounts.Solvent) (id : DepositId) :
    (stake.inDeposit id).Solvent := by
  unfold inDeposit
  split
  · exact solvent
  · exact Amounts.solvent_zero

end Stake

theorem Amounts.solvent_sum {terms : List Amounts} (solvent : ∀ term ∈ terms, term.Solvent) :
    terms.sum.Solvent := by
  induction terms with
  | nil => exact Amounts.solvent_zero
  | cons term terms ih =>
      rw [List.sum_cons]
      exact (solvent term List.mem_cons_self).add
        (ih fun other inside => solvent other (List.mem_cons_of_mem term inside))

namespace Ledger

/-- Every operation of a run goes through. -/
def Accepts (ledger : Ledger) (operations : List Operation) : Prop :=
  ∀ entry ∈ ledger.replies operations, entry.2.isOk

instance (ledger : Ledger) (operations : List Operation) :
    Decidable (ledger.Accepts operations) :=
  inferInstanceAs (Decidable (∀ entry ∈ ledger.replies operations, entry.2.isOk))

theorem accepts_cons {ledger : Ledger} {operation : Operation} {operations : List Operation} :
    ledger.Accepts (operation :: operations) ↔
      (∃ reply, (operation.perform ledger).result = .ok reply) ∧
        (operation.perform ledger).ledger.Accepts operations := by
  unfold Accepts
  rw [replies, List.forall_mem_cons]
  cases (operation.perform ledger).result <;> simp [Except.isOk, Except.toBool]

/-- A ledger holds what another one did, and the outstanding stakes besides. -/
structure Carries (base : Ledger) (stakes : List Stake) (ledger : Ledger) : Prop where
  balance : ∀ scope token, ledger.balance scope token =
    base.balance scope token + (stakes.map (Stake.inBalance scope token)).sum
  remaining : ∀ id, ledger.remaining id =
    base.remaining id + (stakes.map (Stake.inDeposit id)).sum
  grownStalk : ledger.grownStalkPerSeason = base.grownStalkPerSeason +
    (stakes.map fun stake => base.grownStalkOf stake.id.token stake.value).sum
  settings : ledger.settings = base.settings
  eras : ∀ stake ∈ stakes, ledger.eras.get? stake.id.token = some stake.id.key.scheme

namespace Carries

variable {base ledger : Ledger} {stake : Stake} {stakes others : List Stake}

theorem nil (base : Ledger) : Carries base [] base where
  balance _ _ := (add_zero _).symm
  remaining _ := (add_zero _).symm
  grownStalk := (add_zero _).symm
  settings := rfl
  eras _ inside := by simp at inside

theorem grownStalkOf (carries : Carries base stakes ledger) (token : Token) (value : Int) :
    ledger.grownStalkOf token value = base.grownStalkOf token value := by
  unfold Ledger.grownStalkOf setting
  rw [carries.settings]

/-- The order of the outstanding stakes does not matter. -/
theorem perm (carries : Carries base stakes ledger) (reordered : stakes.Perm others) :
    Carries base others ledger where
  balance scope token :=
    (carries.balance scope token).trans (congrArg _ (reordered.map _).sum_eq)
  remaining id := (carries.remaining id).trans (congrArg _ (reordered.map _).sum_eq)
  grownStalk := carries.grownStalk.trans (congrArg _ (reordered.map _).sum_eq)
  settings := carries.settings
  eras other inside := carries.eras other (reordered.mem_iff.mpr inside)

/-- A put that goes through adds its stake to the outstanding ones. -/
theorem put (carries : Carries base stakes ledger) {timestamp : Int} {reply : Reply}
    (accepted : ((stake.put timestamp).perform ledger).result = .ok reply) :
    Carries base (stake :: stakes) ((stake.put timestamp).perform ledger).ledger := by
  have moved : Moved stake.id stake.amounts ledger ((stake.put timestamp).perform ledger).ledger :=
    moved_of_put accepted
  refine ⟨fun scope token => ?_, fun id => ?_, ?_, moved.settings.trans carries.settings,
    fun other inside => ?_⟩
  · rw [moved.balance, carries.balance, List.map_cons, List.sum_cons, add_assoc,
      add_comm (List.sum _)]
    rfl
  · rw [moved.remaining, carries.remaining, List.map_cons, List.sum_cons, add_assoc,
      add_comm (List.sum _)]
    rfl
  · rw [moved.grownStalk, carries.grownStalk, carries.grownStalkOf, List.map_cons,
      List.sum_cons, add_assoc, add_comm (List.sum _)]
    rfl
  · rcases List.mem_cons.mp inside with rfl | before
    · exact era_of_put accepted
    · exact moved.eras _ _ (carries.eras other before)

/-- The puts of a run that goes through add their stakes. -/
theorem puts (carries : Carries base stakes ledger) {entries : List (Stake × Int)}
    (accepted : ledger.Accepts (entries.map fun entry => entry.1.put entry.2)) :
    Carries base ((entries.map Prod.fst).reverse ++ stakes)
      (ledger.run (entries.map fun entry => entry.1.put entry.2)) := by
  induction entries generalizing ledger stakes with
  | nil => exact carries
  | cons entry entries ih =>
      obtain ⟨⟨reply, first⟩, rest⟩ := accepts_cons.mp accepted
      have later := ih (carries.put first) rest
      simpa using later

section Take

variable (baseBalances : ∀ scope token, (base.balance scope token).Solvent)
  (baseDeposits : ∀ id, (base.remaining id).Solvent)

include baseBalances baseDeposits

/-- An outstanding stake is taken out in full, and is outstanding no more. -/
theorem take (carries : Carries base (stake :: stakes) ledger) (timestamp : Int)
    (solvent : ∀ other ∈ stakes, other.amounts.Solvent) :
    ((stake.take timestamp).perform ledger).result = .ok (.amount stake.value) ∧
      Carries base stakes ((stake.take timestamp).perform ledger).ledger := by
  have era : ledger.requireEra stake.id.token stake.id.key = .ok () :=
    requireEra_eq_ok_iff.mpr (.inr (carries.eras stake List.mem_cons_self))
  -- What is left in the deposit and in the balances are the base and the other stakes.
  have leftInDeposit : (ledger.remaining stake.id + -stake.amounts).Solvent := by
    have held := carries.remaining stake.id
    rw [List.map_cons, List.sum_cons, Stake.inDeposit, if_pos rfl, add_left_comm] at held
    rw [held, add_comm, neg_add_cancel_left]
    refine (baseDeposits stake.id).add (Amounts.solvent_sum fun term inside => ?_)
    obtain ⟨other, isOther, rfl⟩ := List.mem_map.mp inside
    exact Stake.solvent_inDeposit (solvent other isOther) stake.id
  have borne : ∀ scope ∈ stake.id.account.reached,
      (ledger.balance scope stake.id.token + -stake.amounts).Solvent := by
    intro scope reached
    have held := carries.balance scope stake.id.token
    rw [List.map_cons, List.sum_cons, Stake.inBalance, if_pos ⟨rfl, reached⟩,
      add_left_comm] at held
    rw [held, add_comm, neg_add_cancel_left]
    refine (baseBalances scope stake.id.token).add (Amounts.solvent_sum fun term inside => ?_)
    obtain ⟨other, isOther, rfl⟩ := List.mem_map.mp inside
    exact Stake.solvent_inBalance (solvent other isOther) scope stake.id.token
  have accepted : ((stake.take timestamp).perform ledger).result =
      .ok (.amount stake.value) :=
    take_accepted era (Int.sub_nonneg.mp leftInDeposit.2) (Int.sub_nonneg.mp leftInDeposit.1)
      borne
  have moved :
      Moved stake.id (-stake.amounts) ledger ((stake.take timestamp).perform ledger).ledger :=
    moved_of_take accepted
  refine ⟨accepted, fun scope token => ?_, fun id => ?_, ?_,
    moved.settings.trans carries.settings, fun other inside => ?_⟩
  · rw [moved.balance, carries.balance, List.map_cons, List.sum_cons, Stake.inBalance]
    split
    · rw [add_left_comm, add_comm, neg_add_cancel_left]
    · rw [zero_add, add_zero]
  · rw [moved.remaining, carries.remaining, List.map_cons, List.sum_cons, Stake.inDeposit]
    split
    · rw [add_left_comm, add_comm, neg_add_cancel_left]
    · rw [zero_add, add_zero]
  · rw [moved.grownStalk, carries.grownStalk, carries.grownStalkOf, List.map_cons,
      List.sum_cons]
    have returned : base.grownStalkOf stake.id.token (-stake.amounts).depositedValue =
        -base.grownStalkOf stake.id.token stake.value := base.grownStalkOf_neg _ _
    rw [returned]
    ring
  · exact moved.eras _ _ (carries.eras other (List.mem_cons_of_mem stake inside))

/-- All outstanding stakes can be taken out, in any order. -/
theorem takes {entries : List (Stake × Int)} (carries : Carries base stakes ledger)
    (solvent : ∀ stake ∈ stakes, stake.amounts.Solvent)
    (reordered : (entries.map Prod.fst).Perm stakes) :
    ledger.replies (entries.map fun entry => entry.1.take entry.2) =
        (entries.map fun entry => (entry.1.take entry.2, .ok (.amount entry.1.value))) ∧
      Carries base [] (ledger.run (entries.map fun entry => entry.1.take entry.2)) := by
  induction entries generalizing ledger stakes with
  | nil =>
      obtain rfl := List.nil_perm.mp reordered
      exact ⟨rfl, carries⟩
  | cons entry entries ih =>
      have solventEntries : ∀ other ∈ entries.map Prod.fst, other.amounts.Solvent :=
        fun other inside =>
          solvent other (reordered.mem_iff.mp (List.mem_cons_of_mem entry.1 inside))
      obtain ⟨accepted, later⟩ := (carries.perm reordered.symm).take baseBalances baseDeposits
        entry.2 solventEntries
      obtain ⟨replies, empty⟩ := ih later solventEntries (.refl _)
      refine ⟨?_, empty⟩
      rw [List.map_cons, List.map_cons, Ledger.replies, accepted, replies]

end Take

end Carries

/-- Let no balance and no deposit be negative.  If amounts with their values, none of them
negative, are put into deposits and every put goes through, then they can be taken out again
in any order: every take goes through and gives the value that was put in, and afterwards
every balance, what is left in every deposit and the stalk grown per season are what they
were before the first put. -/
theorem put_take_restores (ledger : Ledger) (puts takes : List (Stake × Int))
    (balances : ∀ scope token, 0 ≤ (ledger.balance scope token).depositedValue ∧
      0 ≤ (ledger.balance scope token).depositedAmount)
    (deposits : ∀ id deposit, ledger.deposits.get? id = some deposit →
      0 ≤ deposit.value ∧ 0 ≤ deposit.amount)
    (stakes : ∀ entry ∈ puts, 0 ≤ entry.1.value ∧ 0 ≤ entry.1.amount)
    (accepted : ledger.Accepts (puts.map fun entry => entry.1.put entry.2))
    (reordered : (takes.map Prod.fst).Perm (puts.map Prod.fst)) :
    let between := ledger.run (puts.map fun entry => entry.1.put entry.2)
    let after := between.run (takes.map fun entry => entry.1.take entry.2)
    between.replies (takes.map fun entry => entry.1.take entry.2) =
        (takes.map fun entry => (entry.1.take entry.2, .ok (.amount entry.1.value))) ∧
      (∀ scope token, after.balance scope token = ledger.balance scope token) ∧
      (∀ id, (after.depositAt id 0).amount = (ledger.depositAt id 0).amount ∧
        (after.depositAt id 0).value = (ledger.depositAt id 0).value) ∧
      after.grownStalkPerSeason = ledger.grownStalkPerSeason := by
  intro between after
  have carries : Carries ledger _ between := (Carries.nil ledger).puts accepted
  rw [List.append_nil] at carries
  have outstanding := carries.perm (List.reverse_perm _)
  have solvent : ∀ stake ∈ puts.map Prod.fst, stake.amounts.Solvent := by
    intro stake inside
    obtain ⟨entry, isEntry, rfl⟩ := List.mem_map.mp inside
    exact stakes entry isEntry
  obtain ⟨replies, restored⟩ := outstanding.takes balances (solvent_remaining deposits) solvent
    reordered
  refine ⟨replies, fun scope token => ?_, fun id => ?_, ?_⟩
  · exact (restored.balance scope token).trans (add_zero _)
  · have left := (restored.remaining id).trans (add_zero _)
    exact ⟨congrArg Amounts.depositedAmount left, congrArg Amounts.depositedValue left⟩
  · exact restored.grownStalk.trans (add_zero _)

/-- Two stakes of one deposit that already holds something and one of another account, taken
out in another order.  The stalk grown per season has moved in between. -/
theorem stakes_of_two_accounts_return :
    let first : DepositId := ⟨"0xa", "0xt", .season 1⟩
    let second : DepositId := ⟨"0xb", "0xt", .season 2⟩
    let ledger := (Ledger.empty none).run
      [.setStalkPerSeason "0xt" 1 3000000 1, .putDeposit first 7 5 1]
    let puts : List (Stake × Int) := [(⟨first, 10, 4⟩, 2), (⟨second, 3, 0⟩, 3), (⟨first, 1, 9⟩, 4)]
    let takes : List (Stake × Int) :=
      [(⟨first, 1, 9⟩, 5), (⟨first, 10, 4⟩, 6), (⟨second, 3, 0⟩, 7)]
    let between := ledger.run (puts.map fun entry => entry.1.put entry.2)
    let after := between.run (takes.map fun entry => entry.1.take entry.2)
    ledger.Accepts (puts.map fun entry => entry.1.put entry.2) ∧
      (takes.map Prod.fst).Perm (puts.map Prod.fst) ∧
      between.grownStalkPerSeason = 54 ∧
      between.replies (takes.map fun entry => entry.1.take entry.2) =
        (takes.map fun entry => (entry.1.take entry.2, .ok (.amount entry.1.value))) ∧
      after.balance "0xa" "0xt" = ledger.balance "0xa" "0xt" ∧
      after.grownStalkPerSeason = 15 := by
  intro first second ledger puts takes between after
  have backed : ledger.Backed _ :=
    (backed_empty none).run (by simp [Operation.MovesThroughDeposits])
  have deposits : ∀ id deposit, ledger.deposits.get? id = some deposit →
      deposit.remaining.Solvent := backed.solvent
  have balances : ∀ scope token, (ledger.balance scope token).Solvent := fun scope token => by
    rw [← Amounts.solvent_deposited_iff, backed.backed]
    exact Backed.solvent_remainingTotal deposits scope token
  have accepted : ledger.Accepts (puts.map fun entry => entry.1.put entry.2) := by
    decide +kernel
  have reordered : (takes.map Prod.fst).Perm (puts.map Prod.fst) := by decide
  obtain ⟨replies, restored, -, grownStalk⟩ := put_take_restores ledger puts takes balances
    deposits (by decide) accepted reordered
  exact ⟨accepted, reordered, by decide +kernel, replies, restored "0xa" "0xt", grownStalk⟩

end Ledger

end DepositYield
