import DepositYield.Forecast.Check
import DepositYield.Proofs.Ledger.Conservation
import DepositYield.Proofs.Lists
import DepositYield.Proofs.Text.Surrogate

/-!
# What the check of a snapshot finds

The check walks over all balances once and over all of their tokens once.  It reports the
balances below zero in the order of the table and then, in the order of their names, the tokens
of which the protocol does not hold what all other scopes hold together.  Tokens without any
balance need no check: of them nobody holds anything.
-/

namespace DepositYield

namespace Snapshot

variable {snapshot : Snapshot} {token : Token}

/-- What all scopes but the protocol hold of a token together. -/
def accountTotal (snapshot : Snapshot) (token : Token) : Amounts :=
  snapshot.balances.sumOver fun pair amounts =>
    if pair.1 ≠ protocolScope ∧ pair.2 = token then amounts else 0

/-- The protocol holds of a token the value and the amount that all other scopes hold of it
together. -/
def Reconciles (snapshot : Snapshot) (token : Token) : Prop :=
  (snapshot.balance protocolScope token).depositedValue =
      (snapshot.accountTotal token).depositedValue ∧
    (snapshot.balance protocolScope token).depositedAmount =
      (snapshot.accountTotal token).depositedAmount

instance (snapshot : Snapshot) (token : Token) : Decidable (snapshot.Reconciles token) :=
  inferInstanceAs (Decidable (_ ∧ _))

/-- A token without any balance reconciles. -/
theorem reconciles_of_not_mem (absent : ∀ pair ∈ snapshot.balances.keys, pair.2 ≠ token) :
    snapshot.Reconciles token := by
  have nothing : snapshot.balance protocolScope token = 0 := by
    unfold balance Table.getD
    cases held : snapshot.balances.get? (protocolScope, token) with
    | none => rfl
    | some amounts =>
        have inside := List.mem_map_of_mem (f := Prod.fst) (Table.get?_eq_some_iff.mp held)
        exact absurd rfl (absent _ inside)
  have none : snapshot.accountTotal token = 0 := by
    refine List.sum_eq_zero fun amounts inside => ?_
    obtain ⟨entry, member, rfl⟩ := List.mem_map.mp inside
    exact if_neg fun own => absent _ (List.mem_map_of_mem member) own.2
  unfold Reconciles
  rw [nothing, none]
  exact ⟨rfl, rfl⟩

end Snapshot

namespace Check

open Text.Surrogate

variable {balances : Table (Scope × Token) Amounts} {token : Token}

/-- What is found of values in a row is one finding for each value that meets a condition. -/
theorem flatMap_findingIf {α : Type} (condition : α → Bool) (finding : α → Finding)
    (values : List α) :
    (values.flatMap fun value => findingIf (condition value) (finding value)) =
      (values.filter condition).map finding := by
  induction values with
  | nil => rfl
  | cons value rest ih =>
      rw [List.flatMap_cons, ih]
      cases met : condition value <;> simp [findingIf, met]

/-! ## The tokens of balances -/

theorem mem_balanceTokens :
    token ∈ balanceTokens balances ↔ ∃ pair ∈ balances.keys, pair.2 = token := by
  unfold balanceTokens
  rw [(List.mergeSort_perm _ _).mem_iff, List.mem_eraseDups, List.mem_map]

theorem nodup_balanceTokens (balances : Table (Scope × Token) Amounts) :
    (balanceTokens balances).Nodup :=
  (List.mergeSort_perm _ _).nodup_iff.mpr (nodup_eraseDups _)

/-- The tokens of balances ascend in the order of code points. -/
theorem ascending_balanceTokens (balances : Table (Scope × Token) Amounts) :
    (balanceTokens balances).Pairwise fun earlier later => codes earlier < codes later := by
  -- Sorting alone gives the weak order; it is strict because no token stands there twice.
  have sorted : (balanceTokens balances).Pairwise fun earlier later =>
      ¬codes later < codes earlier := by
    refine (List.pairwise_mergeSort ?_ ?_ _).imp of_decide_eq_true
    · intro first second third lower upper
      rw [decide_eq_true_eq, not_lt] at lower upper ⊢
      exact lower.trans upper
    · intro left right
      rw [Bool.or_eq_true, decide_eq_true_eq, decide_eq_true_eq, not_lt, not_lt]
      exact le_total _ _
  refine (sorted.and (nodup_balanceTokens balances)).imp fun both => ?_
  exact (codes_lt_or_gt both.2).resolve_right both.1

/-! ## Findings -/

theorem accountSum_eq (snapshot : Snapshot) (token : Token) :
    accountSum snapshot.balances token = snapshot.accountTotal token :=
  foldl_ite_add_zero
    (fun entry : (Scope × Token) × Amounts => entry.1.1 ≠ protocolScope ∧ entry.1.2 = token)
    Prod.snd snapshot.balances.entries

theorem differs_eq (snapshot : Snapshot) (token : Token) :
    (decide ((snapshot.balance protocolScope token).depositedValue ≠
          (snapshot.accountTotal token).depositedValue) ||
        decide ((snapshot.balance protocolScope token).depositedAmount ≠
          (snapshot.accountTotal token).depositedAmount)) =
      decide (¬snapshot.Reconciles token) := by
  rw [← Bool.decide_or]
  exact decide_eq_decide.mpr not_and_or.symm

/-- The findings of a snapshot, as those of the selected balances and tokens. -/
theorem snapshot_eq (snapshot : Snapshot) :
    Check.snapshot snapshot =
      ((snapshot.balances.entries.filter fun entry =>
            entry.2.depositedValue < 0 ∨ entry.2.depositedAmount < 0).map fun entry =>
          negativeBalance entry.1.1 entry.1.2 entry.2) ++
        ((balanceTokens snapshot.balances).filter fun token => ¬snapshot.Reconciles token).map
          fun token =>
            unreconciled token (snapshot.balance protocolScope token)
              (snapshot.accountTotal token) := by
  unfold Check.snapshot
  simp only [accountSum_eq, differs_eq, flatMap_findingIf, Bool.decide_or]

/-- A token that does not reconcile has a balance. -/
theorem mem_filter_balanceTokens {snapshot : Snapshot} :
    token ∈ (balanceTokens snapshot.balances).filter (fun token => ¬snapshot.Reconciles token) ↔
      ¬snapshot.Reconciles token := by
  rw [List.mem_filter, decide_eq_true_eq]
  refine and_iff_right_of_imp fun differs => mem_balanceTokens.mpr ?_
  by_contra absent
  exact differs (Snapshot.reconciles_of_not_mem fun pair inside own => absent ⟨pair, inside, own⟩)

/-- Nothing is found exactly if no stored balance is below zero and every token reconciles. -/
theorem snapshot_eq_nil_iff {snapshot : Snapshot} :
    Check.snapshot snapshot = [] ↔
      (∀ pair amounts, snapshot.balances.get? pair = some amounts → amounts.Solvent) ∧
        ∀ token, snapshot.Reconciles token := by
  rw [snapshot_eq, List.append_eq_nil_iff, List.map_eq_nil_iff, List.map_eq_nil_iff]
  refine and_congr ?_ ?_
  · rw [List.filter_eq_nil_iff]
    constructor
    · intro none pair amounts held
      have solvent := none (pair, amounts) (Table.get?_eq_some_iff.mp held)
      rw [decide_eq_true_eq, not_or] at solvent
      exact ⟨Int.not_lt.mp solvent.1, Int.not_lt.mp solvent.2⟩
    · intro solvent entry inside
      obtain ⟨value, amount⟩ := solvent entry.1 entry.2 (Table.get?_eq_some_iff.mpr inside)
      rw [decide_eq_true_eq, not_or]
      exact ⟨Int.not_lt.mpr value, Int.not_lt.mpr amount⟩
  · rw [List.eq_nil_iff_forall_not_mem]
    refine forall_congr' fun token => ?_
    rw [mem_filter_balanceTokens, not_not]

/-- A ledger on whose protocol nothing was moved directly passes the check. -/
theorem snapshot_of_reconciled {ledger : Ledger} (reconciled : ledger.Reconciled fun _ => 0) :
    Check.snapshot ledger.snapshot = [] := by
  rw [snapshot_eq_nil_iff]
  constructor
  · intro pair amounts held
    have solvent := reconciled.solvent pair.1 pair.2
    have stored : ledger.balances.get? pair = some amounts := held
    rwa [Ledger.balance, Table.getD, stored] at solvent
  · intro token
    have conserved := reconciled.conserved token
    rw [add_zero] at conserved
    exact ⟨congrArg Amounts.depositedValue conserved, congrArg Amounts.depositedAmount conserved⟩

/-- Every ledger that comes from the empty one by operations none of which is addressed to the
protocol passes the check, refused operations included. -/
theorem snapshot_run (v31Period : Option Int) {operations : List Operation}
    (indirect : ∀ operation ∈ operations, ∀ token,
      operation.pair? ≠ some (protocolScope, token)) :
    Check.snapshot ((Ledger.empty v31Period).run operations).snapshot = [] := by
  apply snapshot_of_reconciled
  have reconciled := (Ledger.reconciled_empty v31Period).run operations
  simpa only [Ledger.directChanges_eq_zero indirect, add_zero] using reconciled

/-- A check of a snapshot finds each stored balance of which the value or the amount is below
zero, in the order of the table, and then, in ascending order of their names, each token of which
the protocol does not hold what the other scopes hold together; each of them once, and nothing
else.  So it finds nothing exactly if no stored balance is below zero and every token
reconciles. -/
theorem findings_of_snapshot (snapshot : Snapshot) :
    (∃ tokens : List Token,
      Check.snapshot snapshot =
          ((snapshot.balances.entries.filter fun entry =>
                entry.2.depositedValue < 0 ∨ entry.2.depositedAmount < 0).map fun entry =>
              negativeBalance entry.1.1 entry.1.2 entry.2) ++
            (tokens.map fun token =>
              unreconciled token (snapshot.balance protocolScope token)
                (snapshot.accountTotal token)) ∧
        (tokens.Pairwise fun earlier later => codes earlier < codes later) ∧
        ∀ token, token ∈ tokens ↔ ¬snapshot.Reconciles token) ∧
    (Check.snapshot snapshot = [] ↔
      (∀ pair amounts, snapshot.balances.get? pair = some amounts →
        0 ≤ amounts.depositedValue ∧ 0 ≤ amounts.depositedAmount) ∧
      ∀ token, snapshot.Reconciles token) := by
  refine ⟨⟨(balanceTokens snapshot.balances).filter fun token => ¬snapshot.Reconciles token,
    snapshot_eq snapshot, ?_, ?_⟩, snapshot_eq_nil_iff⟩
  · exact (ascending_balanceTokens snapshot.balances).filter _
  · intro token
    exact mem_filter_balanceTokens

/-- A balance of the protocol that no account holds and one below zero of a token that the
protocol does not know, checked in the order of the table and of the names. -/
example :
    let snapshot : Snapshot :=
      { (Ledger.empty none).snapshot with
        balances := .ofList
          [((protocolScope, "0xt"), ⟨5, 0, 0, 0, 0, 0⟩), (("0xa", "0xs"), ⟨-1, 2, 0, 0, 0, 0⟩)] }
    (Check.snapshot snapshot).map (fun finding => (finding.category, finding.details.text)) =
      [(.bounds, "bdv=-1, amount=2"),
        (.conservation, "protocol bdv=0 amount=0, accounts bdv=-1 amount=2"),
        (.conservation, "protocol bdv=5 amount=0, accounts bdv=0 amount=0")] := by
  cbv

end Check

end DepositYield
