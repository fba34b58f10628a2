import DepositYield.Proofs.Event.Effect
import DepositYield.Proofs.Lists
import Mathlib.Logic.Function.Basic

/-!
# Streams of events

The events of an account and token form a stream.  A follower that goes through
an interleaving of streams holds for each account and token what it would hold if
it had gone through that stream alone.  What all streams share, the period, the
eras and the stalk grown per season, depends only on the effects of the events
and not on their order.
-/

namespace DepositYield

/-- The ways to draw the events of streams one at a time, each from the head of its
stream. -/
inductive Interleaving : (Scope × Token → List Event) → List Event → Prop where
  | nil {streams : Scope × Token → List Event} (exhausted : ∀ pair, streams pair = []) :
      Interleaving streams []
  | cons {streams : Scope × Token → List Event} {event : Event} {rest events : List Event}
      (pair : Scope × Token) (head : streams pair = event :: rest)
      (tail : Interleaving (Function.update streams pair rest) events) :
      Interleaving streams (event :: events)

namespace Interleaving

variable {streams : Scope × Token → List Event} {events : List Event}

theorem mem_stream (drawn : Interleaving streams events) {event : Event}
    (inside : event ∈ events) : ∃ pair, event ∈ streams pair := by
  induction drawn with
  | nil exhausted => simp at inside
  | @cons streams head rest events pair first tail ih =>
      rcases List.mem_cons.mp inside with rfl | later
      · exact ⟨pair, by rw [first]; exact List.mem_cons_self⟩
      · obtain ⟨other, there⟩ := ih later
        by_cases own : other = pair
        · subst own
          rw [Function.update_self] at there
          exact ⟨other, by rw [first]; exact List.mem_cons_of_mem head there⟩
        · rw [Function.update_of_ne own] at there
          exact ⟨other, there⟩

/-- An interleaving keeps the order of each stream. -/
theorem filter_eq (drawn : Interleaving streams events)
    (named : ∀ pair, ∀ event ∈ streams pair, event.pair? = some pair) (pair : Scope × Token) :
    events.filter (fun event => event.pair? = some pair) = streams pair := by
  induction drawn with
  | nil exhausted => exact (exhausted pair).symm
  | @cons streams event rest events own first tail ih =>
      have naming : event.pair? = some own :=
        named own event (by rw [first]; exact List.mem_cons_self)
      have later : ∀ other, ∀ next ∈ Function.update streams own rest other,
          next.pair? = some other := by
        intro other next inside
        by_cases same : other = own
        · subst same
          rw [Function.update_self] at inside
          exact named other next (by rw [first]; exact List.mem_cons_of_mem event inside)
        · rw [Function.update_of_ne same] at inside
          exact named other next inside
      have kept := ih later
      by_cases same : pair = own
      · subst same
        rw [Function.update_self] at kept
        rw [List.filter_cons_of_pos (by simp [naming]), kept, first]
      · rw [Function.update_of_ne same] at kept
        rw [List.filter_cons_of_neg (by simp [naming, Ne.symm same]), kept]

/-- Events that each name an account are an interleaving of what each account and token
has of them. -/
theorem of_filter_eq (named : ∀ event ∈ events, event.pair?.isSome)
    (kept : ∀ pair, events.filter (fun event => event.pair? = some pair) = streams pair) :
    Interleaving streams events := by
  induction events generalizing streams with
  | nil => exact .nil fun pair => (kept pair).symm
  | cons event events ih =>
      obtain ⟨own, naming⟩ := Option.isSome_iff_exists.mp (named event List.mem_cons_self)
      have head := kept own
      rw [List.filter_cons_of_pos (by simp [naming])] at head
      refine .cons own head.symm (ih ?_ ?_)
      · exact fun other inside => named other (List.mem_cons_of_mem event inside)
      · intro pair
        by_cases same : pair = own
        · subst same
          rw [Function.update_self]
        · rw [Function.update_of_ne same, ← kept pair,
            List.filter_cons_of_neg (by simp [naming, Ne.symm same])]

/-- Events in another order are an interleaving of the same streams, if the events of each
account and token are in the same order. -/
theorem of_reordered {others : List Event} (named : ∀ event ∈ others, event.pair?.isSome)
    (members : ∀ event ∈ others, event ∈ events)
    (kept : ∀ event ∈ events, others.filter (fun other => other.pair? = event.pair?) =
      events.filter fun other => other.pair? = event.pair?) :
    Interleaving (fun pair => events.filter fun event => event.pair? = some pair) others := by
  refine of_filter_eq named fun pair => ?_
  by_cases drawn : ∃ event ∈ events, event.pair? = some pair
  · obtain ⟨event, inside, naming⟩ := drawn
    have same := kept event inside
    rwa [naming] at same
  · have absent : ∀ event ∈ events, ¬event.pair? = some pair :=
      fun event inside naming => drawn ⟨event, inside, naming⟩
    have nothing : ∀ {list : List Event}, (∀ event ∈ list, event ∈ events) →
        list.filter (fun event => event.pair? = some pair) = [] := by
      intro list inList
      rw [List.filter_eq_nil_iff]
      intro event inside
      simpa using absent event (inList event inside)
    rw [nothing members, nothing fun _ => id]

end Interleaving

namespace ChainFollower

variable {pair : Scope × Token} {follower left right : ChainFollower} {events : List Event}
  {scheme : Token → KeyScheme} {usable : Token → DepositKey → Prop}

/-! ## One stream among others -/

theorem Ready.follow (ready : follower.Ready scheme usable)
    (within : ∀ event ∈ events, event.Within usable) :
    (follower.follow events).Ready scheme usable := by
  induction events generalizing follower with
  | nil => exact ready
  | cons event events ih =>
      exact ih (ready.apply (within event List.mem_cons_self))
        fun other inside => within other (List.mem_cons_of_mem event inside)

/-- What is held for an account and token, and the effects of their events, are the
same with the events of others in between and without. -/
theorem follow_sameOn_filter (same : SameOn pair left right)
    (leftReady : left.Ready scheme usable) (rightReady : right.Ready scheme usable)
    (within : ∀ event ∈ events, event.Within usable) :
    SameOn pair (left.follow events)
        (right.follow (events.filter fun event => event.pair? = some pair)) ∧
      (left.effects events).filter (fun effect => effect.event.pair? = some pair) =
        right.effects (events.filter fun event => event.pair? = some pair) := by
  induction events generalizing left right with
  | nil => exact ⟨same, rfl⟩
  | cons event events ih =>
      have own : event.Within usable := within event List.mem_cons_self
      have others : ∀ other ∈ events, other.Within usable :=
        fun other inside => within other (List.mem_cons_of_mem event inside)
      by_cases about : event.pair? = some pair
      · have effects := effect_eq_of_sameOn same leftReady rightReady own about
        obtain ⟨held, later⟩ := ih (apply_sameOn same leftReady rightReady own about)
          (leftReady.apply own) (rightReady.apply own) others
        rw [List.filter_cons_of_pos (by simp [about]), effects_cons, effects_cons,
          List.filter_cons_of_pos (by simp [effect, about]), later, effects]
        exact ⟨held, rfl⟩
      · obtain ⟨named, naming, -⟩ := own.named
        have elsewhere : named ≠ pair := by
          rintro rfl
          exact about naming
        have left' : SameOn pair (left.apply event).2 right :=
          (sameOn_apply naming elsewhere).symm.trans same
        obtain ⟨held, later⟩ := ih left' (leftReady.apply own) rightReady others
        rw [List.filter_cons_of_neg (by simp [about]), effects_cons,
          List.filter_cons_of_neg (by simp [effect, about]), later]
        exact ⟨held, rfl⟩

/-! ## What the streams share -/

theorem period_follow (named : ∀ event ∈ events, event.pair?.isSome) (follower : ChainFollower) :
    (follower.follow events).ledger.period =
      events.foldl (fun period event => max period event.position.period)
        follower.ledger.period := by
  induction events generalizing follower with
  | nil => rfl
  | cons event events ih =>
      obtain ⟨pair, about⟩ := Option.isSome_iff_exists.mp (named event List.mem_cons_self)
      rw [follow_cons, List.foldl_cons, ← (shared_apply about follower).1]
      exact ih (fun other inside => named other (List.mem_cons_of_mem event inside)) _

theorem grownStalkPerSeason_follow (follower : ChainFollower) (events : List Event) :
    (follower.follow events).ledger.grownStalkPerSeason =
      follower.ledger.grownStalkPerSeason +
        ((follower.effects events).map EventEffect.growth).sum := by
  induction events generalizing follower with
  | nil => exact (add_zero _).symm
  | cons event events ih =>
      rw [follow_cons, ih, effects_cons, List.map_cons, List.sum_cons, ← add_assoc]
      congr 1
      exact (add_sub_cancel _ _).symm

/-- A token is left without an era exactly if it had none and no deposit of it was put
in order. -/
theorem eras_follow_eq_none_iff (named : ∀ event ∈ events, event.pair?.isSome)
    (follower : ChainFollower) (token : Token) :
    (follower.follow events).ledger.eras.get? token = none ↔
      follower.ledger.eras.get? token = none ∧
        ∀ effect ∈ follower.effects events,
          effect.inOrder = true → effect.event.operation.opens? token = none := by
  induction events generalizing follower with
  | nil => simp
  | cons event events ih =>
      obtain ⟨pair, about⟩ := Option.isSome_iff_exists.mp (named event List.mem_cons_self)
      have later := ih (fun other inside => named other (List.mem_cons_of_mem event inside))
        (follower.apply event).2
      have opened := (shared_apply about follower).2 token
      rw [follow_cons, later, opened, Option.or_eq_none_iff, effects_cons, List.forall_mem_cons]
      have unopened : (if (follower.effect event).inOrder then event.operation.opens? token
          else none) = none ↔
            ((follower.effect event).inOrder = true →
              (follower.effect event).event.operation.opens? token = none) := by
        cases (follower.effect event).inOrder <;> simp [effect]
      rw [unopened, and_assoc]

end ChainFollower

end DepositYield
