import DepositYield.Proofs.Settling

/-!
# Calculations that coincide

Two calculations coincide if they give related values or stop for the same failure.
Some failures of either are excused: a calculation that stops for one of them coincides
with any other.  Sequences of calculations that coincide coincide.
-/

namespace DepositYield

variable {Failure First Second FirstNext SecondNext : Type}

/-- The calculations give related values or stop for the same failure, unless one of them
stops for a failure that it is excused. -/
inductive Coincide (leftExcused rightExcused : Failure → Prop) (related : First → Second → Prop) :
    Except Failure First → Except Failure Second → Prop where
  | values {left : First} {right : Second} (areRelated : related left right) :
      Coincide leftExcused rightExcused related (.ok left) (.ok right)
  | failures (failure : Failure) :
      Coincide leftExcused rightExcused related (.error failure) (.error failure)
  | excuseLeft {failure : Failure} (isExcused : leftExcused failure)
      (right : Except Failure Second) :
      Coincide leftExcused rightExcused related (.error failure) right
  | excuseRight {failure : Failure} (isExcused : rightExcused failure)
      (left : Except Failure First) :
      Coincide leftExcused rightExcused related left (.error failure)

namespace Coincide

variable {leftExcused rightExcused : Failure → Prop} {related : First → Second → Prop}
  {left : Except Failure First} {right : Except Failure Second}

/-- A calculation coincides with itself. -/
theorem same (calculation : Except Failure First) :
    Coincide leftExcused rightExcused (fun left right => left = right) calculation calculation := by
  cases calculation with
  | ok value => exact .values rfl
  | error failure => exact .failures failure

/-- A calculation coincides with itself, and what it gives is good. -/
theorem same_of_gives {good : First → Prop} {calculation : Except Failure First}
    (gives : Gives good calculation) :
    Coincide leftExcused rightExcused (fun left right => left = right ∧ good left)
      calculation calculation := by
  cases calculation with
  | ok value => exact .values ⟨rfl, gives⟩
  | error failure => exact .failures failure

/-- What the left calculation gives is good. -/
theorem and_left (coincide : Coincide leftExcused rightExcused related left right)
    {good : First → Prop} (gives : Gives good left) :
    Coincide leftExcused rightExcused (fun left right => related left right ∧ good left)
      left right := by
  cases coincide with
  | values areRelated => exact .values ⟨areRelated, gives⟩
  | failures failure => exact .failures failure
  | excuseLeft isExcused => exact .excuseLeft isExcused _
  | excuseRight isExcused => exact .excuseRight isExcused _

theorem related_of_ok {first : First} {second : Second}
    (coincide : Coincide leftExcused rightExcused related (.ok first) (.ok second)) :
    related first second := by
  cases coincide
  assumption

theorem mono (coincide : Coincide leftExcused rightExcused related left right)
    {closer : First → Second → Prop}
    (implies : ∀ left right, related left right → closer left right) :
    Coincide leftExcused rightExcused closer left right := by
  cases coincide with
  | values areRelated => exact .values (implies _ _ areRelated)
  | failures failure => exact .failures failure
  | excuseLeft isExcused => exact .excuseLeft isExcused _
  | excuseRight isExcused => exact .excuseRight isExcused _

theorem allow (coincide : Coincide leftExcused rightExcused related left right)
    {leftOthers rightOthers : Failure → Prop}
    (leftImplies : ∀ failure, leftExcused failure → leftOthers failure)
    (rightImplies : ∀ failure, rightExcused failure → rightOthers failure) :
    Coincide leftOthers rightOthers related left right := by
  cases coincide with
  | values areRelated => exact .values areRelated
  | failures failure => exact .failures failure
  | excuseLeft isExcused => exact .excuseLeft (leftImplies _ isExcused) _
  | excuseRight isExcused => exact .excuseRight (rightImplies _ isExcused) _

theorem bind (coincide : Coincide leftExcused rightExcused related left right)
    {leftNext : First → Except Failure FirstNext} {rightNext : Second → Except Failure SecondNext}
    {final : FirstNext → SecondNext → Prop}
    (continues : ∀ left right, related left right →
      Coincide leftExcused rightExcused final (leftNext left) (rightNext right)) :
    Coincide leftExcused rightExcused final (left >>= leftNext) (right >>= rightNext) := by
  cases coincide with
  | values areRelated => exact continues _ _ areRelated
  | failures failure => exact .failures failure
  | excuseLeft isExcused => exact .excuseLeft isExcused _
  | excuseRight isExcused => exact .excuseRight isExcused _

/-- Calculations that begin alike coincide if they do from there. -/
theorem bind_same (calculation : Except Failure First)
    {leftNext : First → Except Failure FirstNext} {rightNext : First → Except Failure SecondNext}
    {final : FirstNext → SecondNext → Prop}
    (continues : ∀ value,
      Coincide leftExcused rightExcused final (leftNext value) (rightNext value)) :
    Coincide leftExcused rightExcused final (calculation >>= leftNext)
      (calculation >>= rightNext) := by
  apply (same calculation).bind
  rintro value _ rfl
  exact continues value

/-- Calculations of which only the failure matters coincide if they did before. -/
theorem discard (coincide : Coincide leftExcused rightExcused related left right) :
    Coincide leftExcused rightExcused (fun _ _ => True) (discard left) (discard right) := by
  cases coincide with
  | values areRelated => exact .values trivial
  | failures failure => exact .failures failure
  | excuseLeft isExcused => exact .excuseLeft isExcused _
  | excuseRight isExcused => exact .excuseRight isExcused _

theorem mapError (coincide : Coincide leftExcused rightExcused related left right) {Other : Type}
    {leftOthers rightOthers : Other → Prop} {rename : Failure → Other}
    (leftAllowed : ∀ failure, leftExcused failure → leftOthers (rename failure))
    (rightAllowed : ∀ failure, rightExcused failure → rightOthers (rename failure)) :
    Coincide leftOthers rightOthers related (left.mapError rename) (right.mapError rename) := by
  cases coincide with
  | values areRelated => exact .values areRelated
  | failures failure => exact .failures (rename failure)
  | excuseLeft isExcused => exact .excuseLeft (leftAllowed _ isExcused) _
  | excuseRight isExcused => exact .excuseRight (rightAllowed _ isExcused) _

/-- Traversals of two lists coincide if they do item by item. -/
theorem mapM {Item Other : Type} {items : List Item} {others : List Other}
    {leftEach : Item → Except Failure First} {rightEach : Other → Except Failure Second}
    (each : List.Forall₂ (fun item other =>
      Coincide leftExcused rightExcused related (leftEach item) (rightEach other)) items others) :
    Coincide leftExcused rightExcused (List.Forall₂ related) (items.mapM leftEach)
      (others.mapM rightEach) := by
  induction each with
  | nil => exact .values .nil
  | cons first _ ih =>
      rw [List.mapM_cons, List.mapM_cons]
      apply first.bind
      intro left right areRelated
      apply ih.bind
      intro lefts rights allRelated
      exact .values (.cons areRelated allRelated)

/-- Folds over two lists coincide if their steps do. -/
theorem foldlM {Item Other : Type} {matched : Item → Other → Prop} {items : List Item}
    {others : List Other} {leftStep : First → Item → Except Failure First}
    {rightStep : Second → Other → Except Failure Second} {leftStart : First}
    {rightStart : Second} (lists : List.Forall₂ matched items others)
    (starts : related leftStart rightStart)
    (each : ∀ left right item other, related left right → matched item other →
      Coincide leftExcused rightExcused related (leftStep left item) (rightStep right other)) :
    Coincide leftExcused rightExcused related (items.foldlM leftStep leftStart)
      (others.foldlM rightStep rightStart) := by
  induction lists generalizing leftStart rightStart with
  | nil => exact .values starts
  | cons first _ ih =>
      rw [List.foldlM_cons, List.foldlM_cons]
      apply (each _ _ _ _ starts first).bind
      intro left right areRelated
      exact ih areRelated

theorem flip (coincide : Coincide leftExcused rightExcused related left right) :
    Coincide rightExcused leftExcused (fun right left => related left right) right left := by
  cases coincide with
  | values areRelated => exact .values areRelated
  | failures failure => exact .failures failure
  | excuseLeft isExcused => exact .excuseRight isExcused _
  | excuseRight isExcused => exact .excuseLeft isExcused _

/-- Calculations that settle with excused failures only coincide, whatever their values. -/
theorem of_settles {leftGood : First → Prop} {rightGood : Second → Prop}
    (leftSettles : Settles leftExcused leftGood left)
    (rightSettles : Settles rightExcused rightGood right) :
    Coincide leftExcused rightExcused (fun _ _ => True) left right := by
  cases left with
  | error failure =>
      have isExcused : leftExcused failure := leftSettles
      exact .excuseLeft isExcused _
  | ok first =>
      cases right with
      | error failure =>
          have isExcused : rightExcused failure := rightSettles
          exact .excuseRight isExcused _
      | ok second => exact .values trivial

/-- Calculations that give the same value are the same, unless one of them stops for a
failure that it is excused. -/
theorem eq_or_excused {left right : Except Failure First}
    (coincide : Coincide leftExcused rightExcused (fun left right => left = right) left right) :
    left = right ∨ (∃ failure, leftExcused failure ∧ left = .error failure) ∨
      ∃ failure, rightExcused failure ∧ right = .error failure := by
  cases coincide with
  | values same => exact .inl (congrArg Except.ok same)
  | failures failure => exact .inl rfl
  | excuseLeft isExcused => exact .inr (.inl ⟨_, isExcused, rfl⟩)
  | excuseRight isExcused => exact .inr (.inr ⟨_, isExcused, rfl⟩)

end Coincide

/-- The calculations give related values or stop for the same failure. -/
abbrev Alike (related : First → Second → Prop) :
    Except Failure First → Except Failure Second → Prop :=
  Coincide (fun _ => False) (fun _ => False) related

end DepositYield
