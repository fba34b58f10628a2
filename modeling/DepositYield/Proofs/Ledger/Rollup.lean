import DepositYield.Ledger.Rollup
import DepositYield.Proofs.Ledger.Amounts
import DepositYield.Proofs.Lists
import DepositYield.Proofs.Text.Surrogate
import Mathlib.Algebra.BigOperators.Group.List.Basic

/-!
# What the rollup depends on

The rollup depends only on how often each change was entered in each row.  The order of the
entries, their timestamps and the balances that they show do not count.
-/

namespace DepositYield

/-! ## The order of rows -/

namespace RollupKey

open Text.Surrogate

theorem le_iff {left right : RollupKey} :
    left.le right = true ↔ codes left.scope < codes right.scope ∨ left.scope = right.scope ∧
      (codes left.token < codes right.token ∨
        left.token = right.token ∧ left.period ≤ right.period) := by
  unfold le
  by_cases sameScope : left.scope = right.scope
  · by_cases sameToken : left.token = right.token
    · simp [sameScope, sameToken]
    · simp [sameScope, sameToken]
  · simp [sameScope]

theorem le_trans (first second third : RollupKey) (lower : first.le second = true)
    (upper : second.le third = true) : first.le third = true := by
  rw [le_iff] at lower upper ⊢
  grind [lt_trans]

theorem le_total (left right : RollupKey) : (left.le right || right.le left) = true := by
  rw [Bool.or_eq_true, le_iff, le_iff]
  grind [codes_lt_or_gt]

theorem le_antisymm {left right : RollupKey} (lower : left.le right = true)
    (upper : right.le left = true) : left = right := by
  rw [le_iff] at lower upper
  obtain ⟨scope, token, period⟩ := left
  obtain ⟨otherScope, otherToken, otherPeriod⟩ := right
  grind [lt_asymm]

end RollupKey

/-! ## What an entry adds to -/

/-- The row that an entry adds its change to, with the change. -/
def JournalEntry.row (entry : JournalEntry) : RollupRow where
  key := entry.rollupKey
  change := entry.change

variable {journal other : List JournalEntry}

/-- The exact sum of a row is the sum of what was entered in it. -/
theorem rollupSum_eq (journal : List JournalEntry) (key : RollupKey) :
    rollupSum journal key =
      (((journal.map JournalEntry.row).filter (·.key = key)).map RollupRow.change).sum := by
  have started : ∀ total : Amounts,
      journal.foldl (fun total entry =>
          if entry.rollupKey = key then total + entry.change else total) total =
        total +
          (((journal.map JournalEntry.row).filter (·.key = key)).map RollupRow.change).sum := by
    induction journal with
    | nil => exact fun total => (add_zero total).symm
    | cons entry rest ih =>
        intro total
        rw [List.foldl_cons, ih]
        by_cases own : entry.rollupKey = key <;> simp [JournalEntry.row, own, add_assoc]
  exact (started 0).trans (zero_add _)

theorem mem_rollupKeys {key : RollupKey} :
    key ∈ rollupKeys journal ↔ ∃ row ∈ journal.map JournalEntry.row, row.key = key := by
  unfold rollupKeys
  rw [(List.mergeSort_perm _ _).mem_iff, List.mem_eraseDups]
  simp [JournalEntry.row]

theorem nodup_rollupKeys (journal : List JournalEntry) : (rollupKeys journal).Nodup :=
  (List.mergeSort_perm _ _).nodup_iff.mpr (nodup_eraseDups _)

theorem pairwise_rollupKeys (journal : List JournalEntry) :
    (rollupKeys journal).Pairwise fun left right => left.le right :=
  List.pairwise_mergeSort RollupKey.le_trans RollupKey.le_total _

/-! ## Entries in another order -/

section Permuted

variable (same : (journal.map JournalEntry.row).Perm (other.map JournalEntry.row))

include same

theorem rollupSum_eq_of_perm (key : RollupKey) : rollupSum journal key = rollupSum other key := by
  rw [rollupSum_eq, rollupSum_eq]
  exact ((same.filter _).map _).sum_eq

theorem rollupKeys_eq_of_perm : rollupKeys journal = rollupKeys other := by
  refine List.Perm.eq_of_pairwise (fun _ _ _ _ => RollupKey.le_antisymm)
    (pairwise_rollupKeys journal) (pairwise_rollupKeys other) ?_
  refine (List.perm_ext_iff_of_nodup (nodup_rollupKeys journal) (nodup_rollupKeys other)).mpr ?_
  intro key
  rw [mem_rollupKeys, mem_rollupKeys]
  simp only [same.mem_iff]

end Permuted

theorem ColumnWidth.ofValues_eq_of_perm {values others : List Int} (same : values.Perm others) :
    ofValues values = ofValues others := by
  unfold ofValues
  rw [same.all_eq, same.all_eq]

theorem RollupWidths.ofChanges_eq_of_perm {changes others : List Amounts}
    (same : changes.Perm others) : ofChanges changes = ofChanges others := by
  unfold ofChanges
  simp only [ColumnWidth.ofValues_eq_of_perm (same.map _)]

/-- Journals with the same entries in the same rows have the same rollup. -/
theorem rollup_eq_of_perm
    (same : (journal.map JournalEntry.row).Perm (other.map JournalEntry.row)) :
    rollup journal = rollup other := by
  have changes : (journal.map JournalEntry.change).Perm (other.map JournalEntry.change) := by
    have rows := same.map RollupRow.change
    rwa [List.map_map, List.map_map] at rows
  unfold rollup
  rw [rollupKeys_eq_of_perm same, RollupWidths.ofChanges_eq_of_perm changes]
  refine List.map_congr_left fun key _ => ?_
  rw [rollupSum_eq_of_perm same]

end DepositYield
