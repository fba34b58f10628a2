import Mathlib.Data.List.Forall2
import Mathlib.Logic.Relation

/-!
# Calculations that settle

A calculation settles if it gives a value with some property or stops for a failure
that is allowed.  Sequences, traversals and folds of calculations that settle settle.
A sequence or traversal succeeds exactly if its parts do.
-/

namespace DepositYield

variable {Failure First Second : Type}

/-- The calculation gives a good value or stops for an allowed failure. -/
def Settles (stops : Failure → Prop) (good : First → Prop) : Except Failure First → Prop
  | .ok value => good value
  | .error failure => stops failure

instance {stops : Failure → Prop} {good : First → Prop} [DecidablePred stops]
    [DecidablePred good] : DecidablePred (Settles stops good)
  | .ok value => inferInstanceAs (Decidable (good value))
  | .error failure => inferInstanceAs (Decidable (stops failure))

namespace Settles

variable {stops : Failure → Prop} {good : First → Prop} {result : Except Failure First}

theorem any (result : Except Failure First) :
    Settles (fun _ => True) (fun _ => True) result := by
  cases result <;> trivial

theorem pure {value : First} (isGood : good value) :
    Settles stops good (Pure.pure value : Except Failure First) :=
  isGood

theorem good_of_ok (settles : Settles stops good result) {value : First}
    (given : result = .ok value) : good value := by
  subst given
  exact settles

theorem stops_of_error (settles : Settles stops good result) {failure : Failure}
    (failed : result = .error failure) : stops failure := by
  subst failed
  exact settles

theorem mono (settles : Settles stops good result) {better : First → Prop}
    (implies : ∀ value, good value → better value) : Settles stops better result := by
  cases result with
  | ok value => exact implies value settles
  | error failure => exact settles

theorem allow (settles : Settles stops good result) {others : Failure → Prop}
    (implies : ∀ failure, stops failure → others failure) : Settles others good result := by
  cases result with
  | ok value => exact settles
  | error failure => exact implies failure settles

theorem and {other : First → Prop} (settles : Settles stops good result)
    (also : Settles stops other result) :
    Settles stops (fun value => good value ∧ other value) result := by
  cases result with
  | ok value => exact ⟨settles, also⟩
  | error failure => exact settles

theorem bind {next : First → Except Failure Second} {final : Second → Prop}
    (settles : Settles stops good result)
    (continues : ∀ value, good value → Settles stops final (next value)) :
    Settles stops final (result >>= next) := by
  cases result with
  | ok value => exact continues value settles
  | error failure => exact settles

/-- A failure that is named otherwise is allowed if its new name is. -/
theorem mapError {Other : Type} {others : Other → Prop} {rename : Failure → Other}
    (settles : Settles stops good result)
    (allowed : ∀ failure, stops failure → others (rename failure)) :
    Settles others good (result.mapError rename) := by
  cases result with
  | ok value => exact settles
  | error failure => exact allowed failure settles

/-- Two branches are continued alike. -/
theorem ite_bind {condition : Prop} [Decidable condition] {yes no : Except Failure First}
    {next : First → Except Failure Second} {final : Second → Prop}
    (onYes : condition → Settles stops good yes) (onNo : ¬condition → Settles stops good no)
    (continues : ∀ value, good value → Settles stops final (next value)) :
    Settles stops final (if condition then yes >>= next else no >>= next) := by
  split
  · next holds => exact (onYes holds).bind continues
  · next fails => exact (onNo fails).bind continues

/-- A traversal gives as many values as it has items, each related to its item. -/
theorem mapM {items : List First} {calculate : First → Except Failure Second}
    {related : First → Second → Prop}
    (each : ∀ item ∈ items, Settles stops (related item) (calculate item)) :
    Settles stops (List.Forall₂ related items) (items.mapM calculate) := by
  induction items with
  | nil => exact .nil
  | cons item items ih =>
      rw [List.mapM_cons]
      apply (each item (.head _)).bind
      intro value isRelated
      apply (ih fun later inside => each later (.tail _ inside)).bind
      intro values areRelated
      exact .cons isRelated areRelated

/-- A traversal gives as many values as it has items. -/
theorem length_mapM {items : List First} {calculate : First → Except Failure Second}
    (each : ∀ item ∈ items, Settles stops (fun _ => True) (calculate item)) :
    Settles stops (fun values => values.length = items.length) (items.mapM calculate) := by
  apply (mapM each).mono
  intro values related
  exact related.length_eq.symm

/-- A traversal that keeps the labels of its items keeps their order. -/
theorem mapM_labelled {Label : Type} {itemLabel : First → Label} {label : Second → Label}
    {items : List First} {calculate : First → Except Failure Second} {isGood : Second → Prop}
    (each : ∀ item ∈ items,
      Settles stops (fun value => label value = itemLabel item ∧ isGood value) (calculate item)) :
    Settles stops
      (fun values => values.map label = items.map itemLabel ∧ ∀ value ∈ values, isGood value)
      (items.mapM calculate) := by
  apply (mapM each).mono
  intro values related
  induction related with
  | nil => simp
  | cons both _ ih =>
      have rest := ih fun item inside => each item (.tail _ inside)
      exact ⟨congrArg₂ List.cons both.1 rest.1, List.forall_mem_cons.mpr ⟨both.2, rest.2⟩⟩

/-- A fold keeps what each of its steps keeps. -/
theorem foldlM (good : First → Prop) {items : List Second}
    {step : First → Second → Except Failure First} {start : First} (starts : good start)
    (each : ∀ item ∈ items, ∀ value, good value → Settles stops good (step value item)) :
    Settles stops good (items.foldlM step start) := by
  induction items generalizing start with
  | nil => exact starts
  | cons item items ih =>
      rw [List.foldlM_cons]
      apply (each item (.head _) start starts).bind
      intro value isGood
      exact ih isGood fun later inside => each later (.tail _ inside)

end Settles

/-! ## Calculations that may fail for any reason -/

/-- Whatever the calculation gives is good. -/
abbrev Gives (good : First → Prop) (result : Except Failure First) : Prop :=
  Settles (fun _ => True) good result

theorem Settles.gives {stops : Failure → Prop} {good : First → Prop}
    {result : Except Failure First} (settles : Settles stops good result) : Gives good result :=
  settles.allow fun _ _ => trivial

theorem gives_iff {good : First → Prop} {result : Except Failure First} :
    Gives good result ↔ ∀ value, result = .ok value → good value := by
  cases result with
  | ok value => simp [Settles]
  | error failure => simp [Settles]

/-- A calculation gives what it gives. -/
theorem Gives.self (result : Except Failure First) : Gives (result = .ok ·) result :=
  gives_iff.mpr fun _ given => given

/-! ## Calculations that succeed -/

theorem exists_ok_of_isOk {result : Except Failure First} (succeeds : result.isOk) :
    ∃ value, result = .ok value := by
  cases result with
  | ok value => exact ⟨value, rfl⟩
  | error failure => contradiction

theorem bind_eq_ok_iff {result : Except Failure First} {next : First → Except Failure Second}
    {value : Second} :
    result >>= next = .ok value ↔ ∃ first, result = .ok first ∧ next first = .ok value := by
  cases result with
  | ok first => simp [bind, Except.bind]
  | error failure => simp [bind, Except.bind]

theorem map_eq_ok_iff {result : Except Failure First} {translate : First → Second}
    {value : Second} :
    translate <$> result = .ok value ↔ ∃ first, result = .ok first ∧ translate first = value := by
  cases result with
  | ok first => simp [Functor.map, Except.map]
  | error failure => simp [Functor.map, Except.map]

theorem mapError_eq_ok_iff {Other : Type} {result : Except Failure First}
    {rename : Failure → Other} {value : First} :
    result.mapError rename = .ok value ↔ result = .ok value := by
  cases result with
  | ok first => simp [Except.mapError]
  | error failure => simp [Except.mapError]

/-- A traversal succeeds if each of its items does, on its own. -/
theorem mapM_eq_ok_iff {items : List First} {calculate : First → Except Failure Second}
    {values : List Second} :
    items.mapM calculate = .ok values ↔
      List.Forall₂ (fun item value => calculate item = .ok value) items values := by
  induction items generalizing values with
  | nil => simp [Pure.pure, Except.pure, eq_comm]
  | cons item items ih =>
      simp only [List.mapM_cons, bind_eq_ok_iff, ih, List.forall₂_cons_left_iff]
      constructor
      · rintro ⟨value, calculated, rest, related, made⟩
        exact ⟨value, rest, calculated, related, (Except.ok.inj made).symm⟩
      · rintro ⟨value, rest, calculated, related, rfl⟩
        exact ⟨value, calculated, rest, related, rfl⟩

/-- A traversal that combines each item with its value. -/
theorem mapM_map_eq {Third : Type} {items : List First} {calculate : First → Except Failure Second}
    {combine : First → Second → Third} :
    (items.mapM fun item => combine item <$> calculate item) =
      List.zipWith combine items <$> items.mapM calculate := by
  induction items with
  | nil => rfl
  | cons item items ih =>
      simp only [List.mapM_cons, ih, bind_map_left, map_bind, map_pure, List.zipWith_cons_cons]

/-! ## Calculations that succeed where others do -/

/-- Where the right calculation gives a value, the left one gives a related one. -/
def AlsoGives (related : First → Second → Prop) (left : Except Failure First)
    (right : Except Failure Second) : Prop :=
  ∀ value, right = .ok value → ∃ other, left = .ok other ∧ related other value

namespace AlsoGives

variable {related : First → Second → Prop} {left : Except Failure First}
  {right : Except Failure Second}

theorem values {other : First} {value : Second} (areRelated : related other value) :
    AlsoGives related (.ok other : Except Failure First) (.ok value) := by
  rintro _ ⟨⟩
  exact ⟨other, rfl, areRelated⟩

theorem of_error (left : Except Failure First) (failure : Failure) :
    AlsoGives related left (.error failure) :=
  fun _ given => by contradiction

/-- A calculation gives what it gives. -/
theorem same {good : First → Prop} {calculation : Except Failure First}
    (gives : Gives good calculation) {related : First → First → Prop}
    (reflexive : ∀ value, good value → related value value) :
    AlsoGives related calculation calculation :=
  fun value given => ⟨value, given, reflexive value (gives_iff.mp gives value given)⟩

theorem bind (first : AlsoGives related left right) {Third Fourth : Type}
    {leftNext : First → Except Failure Third} {rightNext : Second → Except Failure Fourth}
    {final : Third → Fourth → Prop}
    (continues : ∀ other value, related other value →
      AlsoGives final (leftNext other) (rightNext value)) :
    AlsoGives final (left >>= leftNext) (right >>= rightNext) := by
  intro value given
  obtain ⟨middle, isMiddle, ends⟩ := bind_eq_ok_iff.mp given
  obtain ⟨other, isOther, areRelated⟩ := first middle isMiddle
  obtain ⟨last, isLast, related⟩ := continues other middle areRelated value ends
  exact ⟨last, bind_eq_ok_iff.mpr ⟨other, isOther, isLast⟩, related⟩

/-- A traversal gives as many values wherever another one does, each related to the other's. -/
theorem mapM {Item Other : Type} {items : List Item} {others : List Other}
    {leftEach : Item → Except Failure First} {rightEach : Other → Except Failure Second}
    (each : List.Forall₂ (fun item other => AlsoGives related (leftEach item) (rightEach other))
      items others) :
    AlsoGives (List.Forall₂ related) (items.mapM leftEach) (others.mapM rightEach) := by
  induction each with
  | nil => exact .values .nil
  | cons first _ ih =>
      rw [List.mapM_cons, List.mapM_cons]
      apply first.bind
      intro left right areRelated
      apply ih.bind
      intro lefts rights allRelated
      exact .values (.cons areRelated allRelated)

/-- What both calculations give may be known to be good besides. -/
theorem and_gives (also : AlsoGives related left right) {good : First → Prop}
    {fine : Second → Prop} (leftGives : Gives good left) (rightGives : Gives fine right) :
    AlsoGives (fun other value => related other value ∧ good other ∧ fine value) left right := by
  intro value given
  obtain ⟨other, isOther, areRelated⟩ := also value given
  exact ⟨other, isOther, areRelated, gives_iff.mp leftGives other isOther,
    gives_iff.mp rightGives value given⟩

end AlsoGives

/-! ## Related lists -/

/-- Items that reach their final values in two steps do so one step after the other. -/
theorem forall₂_comp_iff {Third : Type} {before : First → Second → Prop}
    {after : Second → Third → Prop} {items : List First} {finals : List Third} :
    List.Forall₂ (Relation.Comp before after) items finals ↔
      ∃ values, List.Forall₂ before items values ∧ List.Forall₂ after values finals := by
  constructor
  · intro related
    induction related with
    | nil => exact ⟨[], .nil, .nil⟩
    | cons steps _ ih =>
        obtain ⟨value, first, second⟩ := steps
        obtain ⟨values, allFirst, allSecond⟩ := ih
        exact ⟨value :: values, .cons first allFirst, .cons second allSecond⟩
  · rintro ⟨values, first, second⟩
    induction first generalizing finals with
    | nil =>
        cases second
        exact .nil
    | cons step _ ih =>
        cases second with
        | cons last rest => exact .cons ⟨_, step, last⟩ (ih rest)

/-- The value that is related to the item at a position. -/
theorem exists_getElem?_of_forall₂ {related : First → Second → Prop} {items : List First}
    {values : List Second} (each : List.Forall₂ related items values) {position : Nat}
    {item : First} (held : items[position]? = some item) :
    ∃ value, values[position]? = some value ∧ related item value := by
  obtain ⟨inside, rfl⟩ := List.getElem?_eq_some_iff.mp held
  have also : position < values.length := by rwa [← each.length_eq]
  exact ⟨values[position], List.getElem?_eq_getElem also, each.get inside also⟩

/-- The value that is related to an item. -/
theorem exists_mem_of_forall₂ {related : First → Second → Prop} {items : List First}
    {values : List Second} (each : List.Forall₂ related items values) {item : First}
    (inside : item ∈ items) : ∃ value ∈ values, related item value := by
  obtain ⟨position, held⟩ := List.mem_iff_getElem?.mp inside
  obtain ⟨value, isValue, pair⟩ := exists_getElem?_of_forall₂ each held
  exact ⟨value, List.mem_of_getElem? isValue, pair⟩

/-- Pairs of related values are related in both. -/
theorem forall₂_zip {Third Fourth : Type} {related : First → Second → Prop}
    {also : Third → Fourth → Prop} {firsts : List First} {seconds : List Second}
    {thirds : List Third} {fourths : List Fourth} (each : List.Forall₂ related firsts seconds)
    (others : List.Forall₂ also thirds fourths) :
    List.Forall₂ (fun left right => related left.1 right.1 ∧ also left.2 right.2)
      (firsts.zip thirds) (seconds.zip fourths) := by
  induction each generalizing thirds fourths with
  | nil => exact .nil
  | cons first _ ih =>
      cases others with
      | nil => exact .nil
      | cons second rest => exact .cons ⟨first, second⟩ (ih rest)

/-- What two lists make of the same items is related item by item. -/
theorem forall₂_of_common {Third : Type} {before : First → Second → Prop}
    {after : First → Third → Prop} {related : Second → Third → Prop} {items : List First}
    {lefts : List Second} {rights : List Third} (left : List.Forall₂ before items lefts)
    (right : List.Forall₂ after items rights)
    (relate : ∀ item ∈ items, ∀ left right, before item left → after item right →
      related left right) :
    List.Forall₂ related lefts rights := by
  induction left generalizing rights with
  | nil =>
      cases right
      exact .nil
  | cons first _ ih =>
      cases right with
      | cons second rest =>
          exact .cons (relate _ (.head _) _ _ first second)
            (ih rest fun item inside => relate item (.tail _ inside))

/-! ## Lists of a length -/

/-- A list of the given length, all of whose values have a property. -/
structure Filled (good : First → Prop) (count : Nat) (values : List First) : Prop where
  length : values.length = count
  each : ∀ value ∈ values, good value

namespace Filled

variable {good : First → Prop} {count : Nat} {value : First} {values : List First}

theorem nil : Filled good 0 [] :=
  ⟨rfl, by simp⟩

theorem cons (isGood : good value) (filled : Filled good count values) :
    Filled good (count + 1) (value :: values) :=
  ⟨congrArg Nat.succ filled.length, List.forall_mem_cons.mpr ⟨isGood, filled.each⟩⟩

theorem exists_cons (filled : Filled good (count + 1) values) :
    ∃ value rest, values = value :: rest ∧ good value ∧ Filled good count rest := by
  cases values with
  | nil => exact absurd filled.length (Nat.succ_ne_zero count).symm
  | cons value rest =>
      exact ⟨value, rest, rfl, filled.each value (.head _), Nat.succ.inj filled.length,
        fun later inside => filled.each later (.tail _ inside)⟩

theorem map {better : Second → Prop} {translate : First → Second}
    (filled : Filled good count values) (implies : ∀ value, good value → better (translate value)) :
    Filled better count (values.map translate) where
  length := by rw [List.length_map, filled.length]
  each := by
    intro translated inside
    obtain ⟨value, isValue, rfl⟩ := List.mem_map.mp inside
    exact implies value (filled.each value isValue)

/-- The values of a traversal fill a list as long as that of its items. -/
theorem of_forall₂ {items : List Second}
    (related : List.Forall₂ (fun _ value => good value) items values) :
    Filled good items.length values := by
  induction related with
  | nil => exact nil
  | cons isGood _ filled => exact filled.cons isGood

/-- Every position below the length holds a good value. -/
theorem exists_getElem? (filled : Filled good count values) {position : Nat}
    (within : position < count) : ∃ value, values[position]? = some value ∧ good value := by
  have inside : position < values.length := by rwa [filled.length]
  exact ⟨values[position], List.getElem?_eq_getElem inside,
    filled.each _ (List.getElem_mem inside)⟩

end Filled

end DepositYield
