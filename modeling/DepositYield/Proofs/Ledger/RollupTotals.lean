import DepositYield.Proofs.Ledger.Journal
import DepositYield.Proofs.Ledger.Rollup
import Mathlib.Algebra.BigOperators.ModEq
import Mathlib.Algebra.Order.Group.Int
import Mathlib.Data.Prod.Lex

/-!
# Rollups against balances

The rollup has one row for each scope, token and period that occurs in the journal, in
ascending order.  A component of a row is the sum of what was entered in it as far as the
column can hold that sum; a sum that it cannot hold is off by a multiple of `2 ^ 64`.  So the
rows of a scope and token add up to its balance modulo `2 ^ 64`, and exactly where the column
holds all of their sums.
-/

namespace DepositYield

/-! ## Components of amounts -/

/-- The components of amounts. -/
inductive Component where
  | depositedValue
  | depositedAmount
  | withdrawnAmount
  | stalk
  | seeds
  | roots
  deriving DecidableEq, Repr

namespace Component

/-- A component of amounts.  That of a sum is the sum of those of the terms. -/
def of : Component → Amounts →+ Int
  | depositedValue => ⟨⟨Amounts.depositedValue, rfl⟩, fun _ _ => rfl⟩
  | depositedAmount => ⟨⟨Amounts.depositedAmount, rfl⟩, fun _ _ => rfl⟩
  | withdrawnAmount => ⟨⟨Amounts.withdrawnAmount, rfl⟩, fun _ _ => rfl⟩
  | stalk => ⟨⟨Amounts.stalk, rfl⟩, fun _ _ => rfl⟩
  | seeds => ⟨⟨Amounts.seeds, rfl⟩, fun _ _ => rfl⟩
  | roots => ⟨⟨Amounts.roots, rfl⟩, fun _ _ => rfl⟩

/-- The width of the column that holds a component of the changes. -/
def width (component : Component) (journal : List JournalEntry) : ColumnWidth :=
  .ofValues (journal.map fun entry => component.of entry.change)

/-- What was entered in a row, in one component. -/
def entered (component : Component) (journal : List JournalEntry) (key : RollupKey) : Int :=
  ((journal.filter fun entry => entry.rollupKey = key).map fun entry =>
    component.of entry.change).sum

/-- The rows of a scope and token, added up in one component. -/
def rowTotal (component : Component) (rows : List RollupRow) (scope : Scope) (token : Token) :
    Int :=
  ((rows.filter fun row => row.key.scope = scope ∧ row.key.token = token).map fun row =>
    component.of row.change).sum

theorem of_wrap (component : Component) (journal : List JournalEntry) (amounts : Amounts) :
    component.of ((RollupWidths.ofChanges (journal.map JournalEntry.change)).wrap amounts) =
      (component.width journal).wrap (component.of amounts) := by
  unfold width RollupWidths.ofChanges
  simp only [List.map_map]
  cases component <;> rfl

theorem of_rollupSum (component : Component) (journal : List JournalEntry) (key : RollupKey) :
    component.of (rollupSum journal key) = component.entered journal key := by
  rw [rollupSum_eq, map_list_sum, List.filter_map, List.map_map, List.map_map]
  rfl

@[simp]
theorem entered_nil (component : Component) (key : RollupKey) : component.entered [] key = 0 :=
  rfl

@[simp]
theorem entered_cons (component : Component) (entry : JournalEntry) (journal : List JournalEntry)
    (key : RollupKey) :
    component.entered (entry :: journal) key =
      (if key = entry.rollupKey then component.of entry.change else 0) +
        component.entered journal key := by
  unfold entered
  by_cases own : entry.rollupKey = key
  · simp [own]
  · simp [own, Ne.symm own]

end Component

/-! ## What a column holds -/

namespace ColumnWidth

/-- The whole numbers that a width holds as they are. -/
def Holds : ColumnWidth → Int → Prop
  | .signed, value => -2 ^ 63 ≤ value ∧ value < 2 ^ 63
  | .unsigned, value => 0 ≤ value ∧ value < 2 ^ 64
  | .unbounded, _ => True

instance (width : ColumnWidth) : DecidablePred width.Holds := fun value =>
  match width with
  | .signed => inferInstanceAs (Decidable (-2 ^ 63 ≤ value ∧ value < 2 ^ 63))
  | .unsigned => inferInstanceAs (Decidable (0 ≤ value ∧ value < 2 ^ 64))
  | .unbounded => inferInstanceAs (Decidable True)

variable {width : ColumnWidth} {value : Int}

/-- A column keeps a number modulo `2 ^ 64`. -/
theorem wrap_modEq (width : ColumnWidth) (value : Int) :
    width.wrap value ≡ value [ZMOD 2 ^ 64] := by
  cases width with
  | signed => exact Int.bmod_emod
  | unsigned => exact Int.emod_emod_of_dvd value dvd_rfl
  | unbounded => rfl

/-- A column keeps exactly the numbers that its width holds. -/
theorem wrap_eq_self_iff : width.wrap value = value ↔ width.Holds value := by
  cases width with
  | signed =>
      constructor
      · intro kept
        have lower : -(((2 ^ 64 : Nat) : Int) / 2) ≤ value.bmod (2 ^ 64) :=
          Int.le_bmod (by decide)
        have upper : value.bmod (2 ^ 64) < (((2 ^ 64 : Nat) : Int) + 1) / 2 :=
          Int.bmod_lt (by decide)
        have same : value.bmod (2 ^ 64) = value := kept
        rw [same] at lower upper
        exact ⟨lower, upper⟩
      · rintro ⟨lower, upper⟩
        exact Int.bmod_eq_of_le lower upper
  | unsigned =>
      simp only [wrap, Holds, Nat.pow_eq]
      omega
  | unbounded => simp [wrap, Holds]

/-- A column has 64 bits with a sign exactly if these hold all of its values. -/
theorem ofValues_eq_signed_iff {values : List Int} :
    ofValues values = .signed ↔ ∀ value ∈ values, signed.Holds value := by
  unfold ofValues
  split
  · next all => simpa [Holds] using all
  · next some =>
      constructor
      · split <;> simp
      · intro all
        exact absurd (by simpa [Holds] using all) some

end ColumnWidth

/-! ## Rows in order -/

namespace RollupKey

open Text.Surrogate

/-- The place of a row in the order: by the code points of the scope, then by those of the
token, then by period. -/
def rank (key : RollupKey) : List Nat ×ₗ (List Nat ×ₗ Int) :=
  toLex (codes key.scope, toLex (codes key.token, key.period))

theorem rank_injective : Function.Injective rank := by
  rintro ⟨scope, token, period⟩ ⟨otherScope, otherToken, otherPeriod⟩ same
  have parts : codes scope = codes otherScope ∧ codes token = codes otherToken ∧
      period = otherPeriod := by
    simpa [rank] using same
  rcases parts with ⟨scopes, tokens, rfl⟩
  rw [codes_injective scopes, codes_injective tokens]

theorem le_iff_rank {left right : RollupKey} : left.le right = true ↔ left.rank ≤ right.rank := by
  rw [le_iff, rank, rank, Prod.Lex.toLex_le_toLex, Prod.Lex.toLex_le_toLex,
    codes_injective.eq_iff, codes_injective.eq_iff]

end RollupKey

theorem ascending_rollupKeys (journal : List JournalEntry) :
    (rollupKeys journal).Pairwise fun earlier later => earlier.rank < later.rank := by
  -- sorting gives the weak order, which is strict because no key stands there twice
  refine ((pairwise_rollupKeys journal).and (nodup_rollupKeys journal)).imp ?_
  rintro earlier later ⟨sorted, different⟩
  exact (RollupKey.le_iff_rank.mp sorted).lt_of_ne (RollupKey.rank_injective.ne different)

/-! ## Rows and entries -/

section Rows

variable (journal : List JournalEntry) (component : Component)

theorem keys_rollup : (rollup journal).map RollupRow.key = rollupKeys journal := by
  unfold rollup
  rw [List.map_map]
  exact List.map_id _

variable {journal} in
/-- A key has a row exactly if an entry has that key. -/
theorem exists_row_iff {key : RollupKey} :
    (∃ row ∈ rollup journal, row.key = key) ↔ ∃ entry ∈ journal, entry.rollupKey = key := by
  rw [← List.mem_map, keys_rollup, mem_rollupKeys]
  simp [JournalEntry.row]

/-- A component of a row is the sum of what was entered in it, as the column holds it. -/
theorem of_change_of_mem_rollup {row : RollupRow} (inside : row ∈ rollup journal) :
    component.of row.change =
      (component.width journal).wrap (component.entered journal row.key) := by
  rcases List.mem_map.mp inside with ⟨key, -, rfl⟩
  rw [component.of_wrap, component.of_rollupSum]

variable {journal}

/-- Every entry adds to one row: what was entered in the rows of a scope and token is what was
entered for them. -/
theorem sum_entered {keys : List RollupKey} (distinct : keys.Nodup)
    (covered : ∀ entry ∈ journal, entry.rollupKey ∈ keys) (scope : Scope) (token : Token) :
    ((keys.filter fun key => key.scope = scope ∧ key.token = token).map
        (component.entered journal)).sum =
      component.of (JournalEntry.netChange journal scope token) := by
  induction journal with
  | nil =>
      have nothing : component.entered [] = fun _ => 0 := funext component.entered_nil
      rw [nothing, List.map_const', List.sum_replicate, smul_zero]
      exact (map_zero component.of).symm
  | cons entry rest ih =>
      rcases List.forall_mem_cons.mp covered with ⟨present, others⟩
      have added : component.entered (entry :: rest) = fun key =>
          (if key = entry.rollupKey then component.of entry.change else 0) +
            component.entered rest key :=
        funext (component.entered_cons entry rest)
      have own : (keys.filter fun key => key.scope = scope ∧ key.token = token).count
          entry.rollupKey = if entry.scope = scope ∧ entry.token = token then 1 else 0 := by
        split
        · next reached =>
            apply List.count_eq_one_of_mem (distinct.filter _)
            exact List.mem_filter.mpr ⟨present, decide_eq_true reached⟩
        · next apart =>
            apply List.count_eq_zero_of_not_mem
            intro inside
            exact apart (of_decide_eq_true (List.mem_filter.mp inside).2)
      rw [added, List.sum_map_add, ih others, List.sum_map_ite_eq, own,
        JournalEntry.netChange_cons, map_add]
      split <;> simp

theorem rowTotal_rollup (scope : Scope) (token : Token) :
    component.rowTotal (rollup journal) scope token =
      (((rollupKeys journal).filter fun key => key.scope = scope ∧ key.token = token).map
        fun key => (component.width journal).wrap (component.entered journal key)).sum := by
  unfold Component.rowTotal rollup
  rw [List.filter_map, List.map_map]
  congr 1
  refine List.map_congr_left fun key _ => ?_
  exact (component.of_wrap journal _).trans (by rw [component.of_rollupSum])

theorem rollupKey_mem_rollupKeys {entry : JournalEntry} (inside : entry ∈ journal) :
    entry.rollupKey ∈ rollupKeys journal :=
  mem_rollupKeys.mpr ⟨entry.row, List.mem_map_of_mem inside, rfl⟩

/-- The rows of a scope and token add up to what was entered for them modulo `2 ^ 64`. -/
theorem rowTotal_modEq (scope : Scope) (token : Token) :
    component.rowTotal (rollup journal) scope token ≡
      component.of (JournalEntry.netChange journal scope token) [ZMOD 2 ^ 64] := by
  rw [rowTotal_rollup, ← sum_entered component (nodup_rollupKeys journal)
    (fun _ => rollupKey_mem_rollupKeys) scope token]
  exact Int.ModEq.listSum_map fun key _ => (component.width journal).wrap_modEq _

/-- The rows of a scope and token add up to what was entered for them, if the column holds the
sum of each. -/
theorem rowTotal_eq {scope : Scope} {token : Token}
    (held : ∀ key ∈ rollupKeys journal, key.scope = scope → key.token = token →
      (component.width journal).Holds (component.entered journal key)) :
    component.rowTotal (rollup journal) scope token =
      component.of (JournalEntry.netChange journal scope token) := by
  rw [rowTotal_rollup, ← sum_entered component (nodup_rollupKeys journal)
    (fun _ => rollupKey_mem_rollupKeys) scope token]
  congr 1
  refine List.map_congr_left fun key selected => ?_
  rcases List.mem_filter.mp selected with ⟨inside, own⟩
  rcases of_decide_eq_true own with ⟨ownScope, ownToken⟩
  exact ColumnWidth.wrap_eq_self_iff.mpr (held key inside ownScope ownToken)

end Rows

/-! ## Rollups of runs -/

namespace Ledger

/-- After every run from the empty ledger, refused operations included, the rollup has one row
for each scope, token and period that occurs in the journal, in strictly ascending order.  In
each of the six components a row is the sum of what was entered in it exactly if the column
holds that sum, and equals it modulo `2 ^ 64` in any case; a column has 64 bits with a sign
exactly if these hold each entry.  The rows of a scope and token add up to its balance modulo
`2 ^ 64`, and exactly if the column holds the sum of each of them. -/
theorem rollup_of_run (v31Period : Option Int) (operations : List Operation) :
    let ledger := (Ledger.empty v31Period).run operations
    let rows := rollup ledger.journal
    (rows.Pairwise fun earlier later => earlier.key.rank < later.key.rank) ∧
    (∀ key, (∃ row ∈ rows, row.key = key) ↔ ∃ entry ∈ ledger.journal, entry.rollupKey = key) ∧
    ∀ component : Component,
      let width := component.width ledger.journal
      (width = .signed ↔ ∀ entry ∈ ledger.journal,
        -2 ^ 63 ≤ component.of entry.change ∧ component.of entry.change < 2 ^ 63) ∧
      (∀ row ∈ rows,
        component.of row.change ≡ component.entered ledger.journal row.key [ZMOD 2 ^ 64] ∧
        (component.of row.change = component.entered ledger.journal row.key ↔
          width.Holds (component.entered ledger.journal row.key))) ∧
      ∀ scope token,
        component.rowTotal rows scope token ≡
          component.of (ledger.balance scope token) [ZMOD 2 ^ 64] ∧
        ((∀ row ∈ rows, row.key.scope = scope → row.key.token = token →
            width.Holds (component.entered ledger.journal row.key)) →
          component.rowTotal rows scope token = component.of (ledger.balance scope token)) := by
  intro ledger rows
  have replayed := (replayed_empty v31Period).run operations
  refine ⟨?_, fun key => exists_row_iff, ?_⟩
  · have ascending := ascending_rollupKeys ledger.journal
    rwa [← keys_rollup, List.pairwise_map] at ascending
  · intro component width
    refine ⟨?_, ?_, ?_⟩
    · exact ColumnWidth.ofValues_eq_signed_iff.trans List.forall_mem_map
    · intro row inside
      rw [of_change_of_mem_rollup ledger.journal component inside]
      exact ⟨width.wrap_modEq _, ColumnWidth.wrap_eq_self_iff⟩
    · intro scope token
      rw [replayed.balances]
      constructor
      · exact rowTotal_modEq component scope token
      · intro held
        apply rowTotal_eq
        intro key present ownScope ownToken
        rw [← keys_rollup] at present
        rcases List.mem_map.mp present with ⟨row, inside, rfl⟩
        exact held row inside ownScope ownToken

/-- Stalk beyond 64 bits, moved in two periods: each row holds its part, and the parts add up to
the balance. -/
theorem rows_of_two_periods_add_up :
    let ledger := (Ledger.empty none).run
      [.moveStalk "0xa" "0xt" (2 ^ 62) 0 1, .moveStalk "0xb" "0xt" (-5) 0 2, .advanceTo 7,
        .moveStalk "0xa" "0xt" (2 ^ 62) 0 3]
    Component.stalk.rowTotal (rollup ledger.journal) "0xa" "0xt" = 2 ^ 63 ∧
      Component.stalk.of (ledger.balance "0xa" "0xt") = 2 ^ 63 := by
  intro ledger
  have held : ∀ row ∈ rollup ledger.journal, row.key.scope = "0xa" → row.key.token = "0xt" →
      (Component.stalk.width ledger.journal).Holds
        (Component.stalk.entered ledger.journal row.key) := by
    have each : ∀ entry ∈ ledger.journal, entry.scope = "0xa" →
        (Component.stalk.width ledger.journal).Holds
          (Component.stalk.entered ledger.journal entry.rollupKey) := by
      decide +kernel
    intro row inside ownScope _
    rcases exists_row_iff.mp ⟨row, inside, rfl⟩ with ⟨entry, present, own⟩
    rw [← own] at ownScope ⊢
    exact each entry present ownScope
  have total := (((rollup_of_run none _).2.2 .stalk).2.2 "0xa" "0xt").2 held
  have balance : Component.stalk.of (ledger.balance "0xa" "0xt") = 2 ^ 63 := by
    decide +kernel
  exact ⟨total.trans balance, balance⟩

/-- Two moves of stalk in one period.  The column has 64 bits with a sign, which hold each move
and not their sum, so the row shows the opposite of what the balance has. -/
theorem large_sum_of_row_wraps :
    let ledger := (Ledger.empty none).run
      [.moveStalk "0xa" "0xt" (2 ^ 62) 0 1, .moveStalk "0xa" "0xt" (2 ^ 62) 0 2]
    ∃ row ∈ rollup ledger.journal, row.key = ⟨"0xa", "0xt", 0⟩ ∧
      Component.stalk.of row.change = -2 ^ 63 ∧
      Component.stalk.entered ledger.journal row.key = 2 ^ 63 ∧
      Component.stalk.of (ledger.balance "0xa" "0xt") = 2 ^ 63 := by
  intro ledger
  have present : ∃ entry ∈ ledger.journal, entry.rollupKey = ⟨"0xa", "0xt", 0⟩ := by
    decide +kernel
  rcases exists_row_iff.mpr present with ⟨row, inside, own⟩
  refine ⟨row, inside, own, ?_, ?_, ?_⟩
  · rw [of_change_of_mem_rollup ledger.journal .stalk inside, own]
    decide +kernel
  · rw [own]
    decide +kernel
  · decide +kernel

end Ledger

end DepositYield
