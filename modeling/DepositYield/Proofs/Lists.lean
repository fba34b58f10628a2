import Mathlib.Algebra.BigOperators.Group.List.Basic
import Mathlib.Data.List.Nodup
import Mathlib.Data.List.Perm.Subperm

/-!
# Repetition and order in lists

A list without its repetitions has nothing twice.  Lists that agree on the elements of
each key differ at most in the order of the keys.  A list that is written element by element
is read back if each element is.  What a fold adds up of selected elements is a sum in which
the others count nothing.
-/

namespace DepositYield

theorem nodup_eraseDups {α : Type} [DecidableEq α] (values : List α) : values.eraseDups.Nodup := by
  match values with
  | [] => exact List.nodup_nil
  | value :: rest =>
      rw [List.eraseDups_cons]
      refine List.nodup_cons.mpr ⟨fun again => ?_, nodup_eraseDups _⟩
      simp at again
  termination_by values.length
  decreasing_by exact Nat.lt_succ_of_le (List.length_filter_le _ _)

/-- A list that is as long as the list of its different values has none twice. -/
theorem nodup_of_length_eraseDups {α : Type} [DecidableEq α] {values : List α}
    (same : values.eraseDups.length = values.length) : values.Nodup := by
  have distinct := nodup_eraseDups values
  have covered : values.eraseDups.Subperm values := distinct.subperm fun _ => List.mem_eraseDups.mp
  exact (covered.perm_of_length_le (Nat.le_of_eq same.symm)).nodup_iff.mp distinct

theorem eraseDups_of_nodup {α : Type} [DecidableEq α] {values : List α}
    (distinct : values.Nodup) : values.eraseDups = values := by
  induction values with
  | nil => rfl
  | cons value rest ih =>
      obtain ⟨absent, restDistinct⟩ := List.nodup_cons.mp distinct
      have kept : (rest.filter fun other => !other == value) = rest := by
        rw [List.filter_eq_self]
        intro other inside
        have different : other ≠ value := fun same => absent (same ▸ inside)
        simp [different]
      rw [List.eraseDups_cons, kept, ih restDistinct]

/-- Lists whose elements of each key are the same, in the same order, differ at most in
how the keys are interleaved. -/
theorem perm_of_filter_key_eq {α κ : Type} [DecidableEq α] [DecidableEq κ] (key : α → κ)
    {left right : List α}
    (same : ∀ wanted, left.filter (key · = wanted) = right.filter (key · = wanted)) :
    left.Perm right := by
  refine List.perm_iff_count.mpr fun element => ?_
  have counted : ∀ list : List α,
      (list.filter (key · = key element)).count element = list.count element :=
    fun list => List.count_filter (decide_eq_true rfl)
  rw [← counted left, same, counted right]

/-- Where every element has a key, it is enough to compare the elements of each key. -/
theorem perm_of_filter_key?_eq {α κ : Type} [DecidableEq α] [DecidableEq κ]
    (key? : α → Option κ) {left right : List α}
    (leftKeyed : ∀ element ∈ left, (key? element).isSome)
    (rightKeyed : ∀ element ∈ right, (key? element).isSome)
    (same : ∀ wanted, left.filter (key? · = some wanted) = right.filter (key? · = some wanted)) :
    left.Perm right := by
  refine perm_of_filter_key_eq key? fun wanted => ?_
  cases wanted with
  | some key => exact same key
  | none =>
      have keyless : ∀ {list : List α}, (∀ element ∈ list, (key? element).isSome) →
          list.filter (key? · = none) = [] := by
        intro list keyed
        rw [List.filter_eq_nil_iff]
        intro element inside
        simp [Option.isSome_iff_ne_none.mp (keyed element inside)]
      rw [keyless leftKeyed, keyless rightKeyed]

/-- What is checked of every element holds of every element. -/
theorem forall_mem_of_all {α : Type} {holds : α → Prop} [DecidablePred holds] {values : List α}
    (all : values.all (fun value => decide (holds value)) = true) :
    ∀ value ∈ values, holds value :=
  fun value inside => of_decide_eq_true (List.all_eq_true.mp all value inside)

theorem mapM_map_eq_some {α β : Type} {write : α → β} {read : β → Option α} {values : List α}
    (each : ∀ value ∈ values, read (write value) = some value) :
    (values.map write).mapM read = some values := by
  induction values with
  | nil => rfl
  | cons value rest ih =>
      obtain ⟨first, others⟩ := List.forall_mem_cons.mp each
      rw [List.map_cons, List.mapM_cons, first, ih others]
      rfl

/-- Folding up the weights of the selected elements adds their sum to the start. -/
theorem foldl_ite_add {α M : Type} [AddCommMonoid M] (selected : α → Prop)
    [DecidablePred selected] (weight : α → M) (values : List α) (start : M) :
    values.foldl (fun total value => if selected value then total + weight value else total)
        start =
      start + (values.map fun value => if selected value then weight value else 0).sum := by
  induction values generalizing start with
  | nil => exact (add_zero start).symm
  | cons value rest ih =>
      rw [List.foldl_cons, ih, List.map_cons, List.sum_cons]
      split
      · exact add_assoc _ _ _
      · rw [zero_add]

/-- The same where the weights are counted from nothing. -/
theorem foldl_ite_add_zero {α M : Type} [AddCommMonoid M] (selected : α → Prop)
    [DecidablePred selected] (weight : α → M) (values : List α) :
    values.foldl (fun total value => if selected value then total + weight value else total) 0 =
      (values.map fun value => if selected value then weight value else 0).sum :=
  (foldl_ite_add selected weight values 0).trans (zero_add _)

end DepositYield
