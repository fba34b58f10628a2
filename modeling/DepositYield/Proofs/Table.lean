import DepositYield.Table
import Mathlib.Algebra.BigOperators.Group.List.Basic
import Mathlib.Data.List.Dedup
import Mathlib.Data.List.Nodup
import Mathlib.Tactic.Abel

/-!
# Entries of tables and their sums

A write replaces the entry of its key in place or adds one at the end.

A weight of entries is summed over a table.  One write changes the sum by what
the new entry weighs, less what the old one weighed.  Tables that hold the same
value at each key that weighs something have the same sum.
-/

namespace DepositYield.Table

variable {Key Value : Type} [DecidableEq Key]

@[simp]
theorem get?_emptyCollection (key : Key) : (∅ : Table Key Value).get? key = none :=
  rfl

theorem getD_set (table : Table Key Value) (key other : Key) (value default : Value) :
    (table.set key value).getD other default =
      if key = other then value else table.getD other default := by
  unfold getD
  rw [get?_set]
  split <;> rfl

theorem findValue?_eq_some_iff {key : Key} {value : Value} {entries : List (Key × Value)}
    (distinct : (entries.map Prod.fst).Nodup) :
    findValue? key entries = some value ↔ (key, value) ∈ entries := by
  induction entries with
  | nil => simp [findValue?]
  | cons entry rest ih =>
      obtain ⟨first, held⟩ := entry
      rw [List.map_cons, List.nodup_cons] at distinct
      by_cases same : first = key
      · subst same
        have absent : (first, value) ∉ rest := fun inside =>
          distinct.1 (List.mem_map.mpr ⟨(first, value), inside, rfl⟩)
        simp [findValue?, absent, eq_comm]
      · simp [findValue?, same, Ne.symm same, ih distinct.2]

/-- A key has a value exactly when the two are an entry. -/
theorem get?_eq_some_iff {table : Table Key Value} {key : Key} {value : Value} :
    table.get? key = some value ↔ (key, value) ∈ table.entries :=
  findValue?_eq_some_iff table.distinct

/-! ## Entries -/

/-- Writing an entry that looks like the one it replaces leaves what is seen of the table. -/
theorem map_entries_set_of_same {Image : Type} {image : Key × Value → Image}
    {table : Table Key Value} {key : Key} {held value : Value}
    (present : table.get? key = some held) (same : image (key, value) = image (key, held)) :
    (table.set key value).entries.map image = table.entries.map image := by
  unfold get? at present
  change (putEntry key value table.entries).map image = _
  generalize table.entries = entries at present
  induction entries with
  | nil => contradiction
  | cons entry rest ih =>
      obtain ⟨first, old⟩ := entry
      by_cases equal : first = key
      · subst equal
        obtain rfl : old = held := by simpa [findValue?] using present
        simp [putEntry, same]
      · simp only [findValue?, if_neg equal] at present
        simp only [putEntry, if_neg equal, List.map_cons, ih present]

/-- Writing a new key adds its entry at the end. -/
theorem entries_set_of_absent {table : Table Key Value} {key : Key}
    (absent : table.get? key = none) (value : Value) :
    (table.set key value).entries = table.entries ++ [(key, value)] := by
  unfold get? at absent
  change putEntry key value table.entries = _
  generalize table.entries = entries at absent
  induction entries with
  | nil => rfl
  | cons entry rest ih =>
      obtain ⟨first, old⟩ := entry
      by_cases equal : first = key
      · simp [findValue?, equal] at absent
      · simp only [findValue?, if_neg equal] at absent
        simp only [putEntry, if_neg equal, ih absent, List.cons_append]

/-! ## Sums -/

section Sums

variable {M : Type} [AddCommMonoid M]

omit [DecidableEq Key] in
/-- The sum of the weights of all entries. -/
def sumOver (weight : Key → Value → M) (table : Table Key Value) : M :=
  (table.entries.map fun entry => weight entry.1 entry.2).sum

omit [DecidableEq Key] in
/-- Entries that weigh nothing do not count. -/
theorem sum_filter_weight (weight : Key → Value → M) (entries : List (Key × Value))
    [DecidablePred fun entry : Key × Value => weight entry.1 entry.2 ≠ 0] :
    ((entries.filter fun entry => weight entry.1 entry.2 ≠ 0).map
        fun entry => weight entry.1 entry.2).sum =
      (entries.map fun entry => weight entry.1 entry.2).sum := by
  induction entries with
  | nil => rfl
  | cons entry rest ih =>
      by_cases weightless : weight entry.1 entry.2 = 0
      · rw [List.filter_cons_of_neg (by simpa using weightless), ih, List.map_cons,
          List.sum_cons, weightless, zero_add]
      · rw [List.filter_cons_of_pos (by simpa using weightless), List.map_cons, List.map_cons,
          List.sum_cons, List.sum_cons, ih]

/-- Tables with the same value at each key that weighs something have the same
sum. -/
theorem sumOver_eq_of_get?_eq {left right : Table Key Value} (weight : Key → Value → M)
    (agree : ∀ key, left.get? key = right.get? key ∨ ∀ value, weight key value = 0) :
    left.sumOver weight = right.sumOver weight := by
  classical
  have counted : (left.entries.filter fun entry => weight entry.1 entry.2 ≠ 0).Perm
      (right.entries.filter fun entry => weight entry.1 entry.2 ≠ 0) := by
    have leftDistinct : left.entries.Nodup := List.Nodup.of_map Prod.fst left.distinct
    have rightDistinct : right.entries.Nodup := List.Nodup.of_map Prod.fst right.distinct
    rw [List.perm_ext_iff_of_nodup (leftDistinct.filter _) (rightDistinct.filter _)]
    intro entry
    rw [List.mem_filter, List.mem_filter, ← get?_eq_some_iff, ← get?_eq_some_iff]
    rcases agree entry.1 with same | weightless
    · rw [same]
    · simp [weightless]
  unfold sumOver
  rw [← sum_filter_weight weight left.entries, ← sum_filter_weight weight right.entries]
  exact (counted.map _).sum_eq

/-- What holds of zero, of every weight in the table and of sums of two holds of
the sum over the table. -/
theorem sumOver_induction {table : Table Key Value} {weight : Key → Value → M}
    {holds : M → Prop} (zero : holds 0)
    (add : ∀ left right, holds left → holds right → holds (left + right))
    (each : ∀ key value, table.get? key = some value → holds (weight key value)) :
    holds (table.sumOver weight) := by
  have entrywise : ∀ entry ∈ table.entries, holds (weight entry.1 entry.2) :=
    fun entry inside => each entry.1 entry.2 (get?_eq_some_iff.mpr inside)
  unfold sumOver
  generalize table.entries = entries at entrywise
  induction entries with
  | nil => exact zero
  | cons entry rest ih =>
      rw [List.map_cons, List.sum_cons]
      exact add _ _ (entrywise entry List.mem_cons_self)
        (ih fun other inside => entrywise other (List.mem_cons_of_mem entry inside))

omit [DecidableEq Key] in
theorem sumOver_add (table : Table Key Value) (left right : Key → Value → M) :
    table.sumOver (fun key value => left key value + right key value) =
      table.sumOver left + table.sumOver right :=
  List.sum_map_add

/-- The weight of the value at one key is the sum over the table in which no other key
weighs anything. -/
theorem sumOver_single (table : Table Key Value) (weight : Value → M) (default : Value)
    (weightless : weight default = 0) (key : Key) :
    (table.sumOver fun other value => if other = key then weight value else 0) =
      weight (table.getD key default) := by
  have held : weight (table.getD key default) = ((table.get? key).map weight).getD 0 := by
    unfold getD
    cases table.get? key with
    | none => exact weightless
    | some value => rfl
  have distinct := table.distinct
  rw [held]
  unfold sumOver get?
  generalize table.entries = entries at distinct
  induction entries with
  | nil => rfl
  | cons entry rest ih =>
      rw [List.map_cons, List.nodup_cons] at distinct
      rw [List.map_cons, List.sum_cons, ih distinct.2]
      by_cases same : entry.1 = key
      · have absent : findValue? key rest = none := by
          cases found : findValue? key rest with
          | none => rfl
          | some value =>
              have inside := (findValue?_eq_some_iff distinct.2).mp found
              exact absurd (same ▸ List.mem_map_of_mem inside) distinct.1
        simp [findValue?, same, absent]
      · simp [findValue?, same]

/-- The weights at different keys make up the sum over the table in which only these
keys weigh anything. -/
theorem sum_getD (table : Table Key Value) (weight : Key → Value → M) (default : Value)
    (weightless : ∀ key, weight key default = 0) {keys : List Key} (distinct : keys.Nodup) :
    (keys.map fun key => weight key (table.getD key default)).sum =
      table.sumOver fun key value => if key ∈ keys then weight key value else 0 := by
  induction keys with
  | nil => simp [sumOver]
  | cons key rest ih =>
      rw [List.nodup_cons] at distinct
      rw [List.map_cons, List.sum_cons, ih distinct.2,
        ← table.sumOver_single (weight key) default (weightless key) key, ← sumOver_add]
      congr 1
      funext other value
      by_cases same : other = key
      · subst same
        simp [distinct.1]
      · simp [same]

/-- The sum over a table is that of the weights at different keys, if its own keys are
among them. -/
theorem sumOver_eq_sum_getD (table : Table Key Value) (weight : Key → Value → M)
    (default : Value) (weightless : ∀ key, weight key default = 0) {keys : List Key}
    (distinct : keys.Nodup) (covers : ∀ key ∈ table.keys, key ∈ keys) :
    table.sumOver weight = (keys.map fun key => weight key (table.getD key default)).sum := by
  rw [table.sum_getD weight default weightless distinct]
  refine congrArg List.sum (List.map_congr_left fun entry inside => ?_)
  exact (if_pos (covers entry.1 (List.mem_map_of_mem inside))).symm

/-- Tables in which each key weighs the same have the same sum, whether the key is in
both of them or has the default in one. -/
theorem sumOver_eq_of_getD_eq {left right : Table Key Value} (weight : Key → Value → M)
    (default : Value) (weightless : ∀ key, weight key default = 0)
    (agree : ∀ key, weight key (left.getD key default) = weight key (right.getD key default)) :
    left.sumOver weight = right.sumOver weight := by
  have distinct : (left.keys ++ right.keys).dedup.Nodup := List.nodup_dedup _
  rw [left.sumOver_eq_sum_getD weight default weightless distinct fun key inside =>
      List.mem_dedup.mpr (List.mem_append_left _ inside),
    right.sumOver_eq_sum_getD weight default weightless distinct fun key inside =>
      List.mem_dedup.mpr (List.mem_append_right _ inside)]
  exact congrArg List.sum (List.map_congr_left fun key _ => agree key)

end Sums

section Differences

variable {M : Type} [AddCommGroup M]

theorem sum_putEntry (weight : Key → Value → M) (key : Key) (value : Value)
    (entries : List (Key × Value)) :
    ((putEntry key value entries).map fun entry => weight entry.1 entry.2).sum =
      (entries.map fun entry => weight entry.1 entry.2).sum +
        (weight key value - ((findValue? key entries).map (weight key)).getD 0) := by
  induction entries with
  | nil => simp [putEntry, findValue?]
  | cons entry rest ih =>
      obtain ⟨first, held⟩ := entry
      by_cases same : first = key
      · subst same
        simp only [putEntry, findValue?, if_true, List.map_cons, List.sum_cons, Option.map_some,
          Option.getD_some]
        abel
      · simp only [putEntry, findValue?, if_neg same, List.map_cons, List.sum_cons, ih]
        abel

/-- A write adds the weight of the new entry and takes off that of the old one,
where the default that stands for a missing entry weighs nothing. -/
theorem sumOver_set (table : Table Key Value) (weight : Key → Value → M) (key : Key)
    (value default : Value) (weightless : weight key default = 0) :
    (table.set key value).sumOver weight =
      table.sumOver weight + (weight key value - weight key (table.getD key default)) := by
  have old : ((table.get? key).map (weight key)).getD 0 = weight key (table.getD key default) := by
    unfold getD
    cases table.get? key with
    | none => exact weightless.symm
    | some held => rfl
  rw [← old]
  exact sum_putEntry weight key value table.entries

end Differences

end DepositYield.Table
