import DepositYield.Ledger.Event
import DepositYield.Proofs.Ledger.Locality
import DepositYield.Proofs.Ledger.Standing

/-!
# Effects of events

A follower goes through events one at a time and goes on after a refusal.  The
effect of an event is its result, whether it was in order, and what it adds to
the stalk grown per season.  The effect of an event on an account and token
depends only on what the follower holds for the two and on the era of the token.
-/

namespace DepositYield

namespace Event

/-- The operation that an event stands for. -/
def operation (event : Event) : Operation :=
  event.action.operation event.position

/-- The account and token that an event names, if it names an account. -/
def pair? (event : Event) : Option (Scope × Token) :=
  event.operation.pair?

/-- The token and the deposit key that an event uses, if it uses a key. -/
def key? (event : Event) : Option (Token × DepositKey) :=
  event.operation.key?

theorem pair?_of_orderedPair? {event : Event} {pair : Scope × Token}
    (ordered : event.action.orderedPair? = some pair) : event.pair? = some pair := by
  rcases event with ⟨position, action⟩
  cases action <;> first | exact ordered | simp [EventAction.orderedPair?] at ordered

/-- Events move balances only as accounts are followed. -/
theorem followsAccounts {event : Event}
    (indirect : ∀ token, event.pair? ≠ some (protocolScope, token)) :
    event.operation.FollowsAccounts := by
  rcases event with ⟨position, action⟩
  cases action <;> exact indirect

end Event

/-- What the application of an event comes to. -/
structure EventEffect where
  event : Event
  result : Except LedgerFailure Unit
  inOrder : Bool
  /-- What is added to the stalk grown per season. -/
  growth : Int
  deriving DecidableEq

namespace ChainFollower

/-! ## The application of one event -/

/-- The refusal of an event that comes before the last one of its account and
token. -/
def lateness? (follower : ChainFollower) (event : Event) : Option LedgerFailure :=
  match event.action.orderedPair? with
  | none => none
  | some pair =>
      match follower.lastSeen.get? pair with
      | none => none
      | some last =>
          if event.position.before last then
            some (.outOfOrder pair.1 pair.2 event.position last)
          else
            none

/-- The positions last seen once an event in order has been noted. -/
def seenAfter (follower : ChainFollower) (event : Event) :
    Table (Scope × Token) ChainPosition :=
  match event.action.orderedPair? with
  | none => follower.lastSeen
  | some pair => follower.lastSeen.set pair event.position

/-- The ledger moved on to the period of an event, if that lies ahead. -/
def ledgerAt (follower : ChainFollower) (event : Event) : Ledger :=
  { follower.ledger with period := max follower.ledger.period event.position.period }

theorem advance_eq (follower : ChainFollower) (event : Event) :
    follower.advance event.position.period = follower.withLedger (follower.ledgerAt event) := by
  unfold advance ledgerAt
  split
  · next ahead => simp only [Int.max_eq_right (Int.le_of_lt ahead)]
  · next reached =>
      simp only [Int.max_eq_left (Int.not_lt.mp reached)]
      rfl

/-- An event moves the period on, is refused if it is late, and is performed
otherwise. -/
theorem apply_eq (follower : ChainFollower) (event : Event) :
    follower.apply event =
      match follower.lateness? event with
      | some failure => (.error failure, follower.withLedger (follower.ledgerAt event))
      | none =>
          ((event.operation.perform (follower.ledgerAt event)).result.map fun _ => (),
            { ledger := (event.operation.perform (follower.ledgerAt event)).ledger
              lastSeen := follower.seenAfter event }) := by
  unfold apply
  rw [advance_eq]
  simp only [notePosition, lateness?, seenAfter, withLedger]
  cases event.action.orderedPair? with
  | none => rfl
  | some pair =>
      dsimp only
      cases follower.lastSeen.get? pair with
      | none => rfl
      | some last =>
          dsimp only
          by_cases late : event.position.before last
          · rw [if_pos late, if_pos late]
          · rw [if_neg late, if_neg late]
            rfl

/-- What the application of an event comes to. -/
def effect (follower : ChainFollower) (event : Event) : EventEffect where
  event := event
  result := (follower.apply event).1
  inOrder := (follower.lateness? event).isNone
  growth := (follower.apply event).2.ledger.grownStalkPerSeason -
    follower.ledger.grownStalkPerSeason

/-! ## Events in a row -/

/-- The follower after events, with refused ones passed over. -/
def follow (follower : ChainFollower) (events : List Event) : ChainFollower :=
  events.foldl (fun current event => (current.apply event).2) follower

/-- The effects of events in a row. -/
def effects (follower : ChainFollower) : List Event → List EventEffect
  | [] => []
  | event :: events => follower.effect event :: (follower.apply event).2.effects events

@[simp]
theorem follow_nil (follower : ChainFollower) : follower.follow [] = follower :=
  rfl

@[simp]
theorem follow_cons (follower : ChainFollower) (event : Event) (events : List Event) :
    follower.follow (event :: events) = (follower.apply event).2.follow events :=
  rfl

@[simp]
theorem effects_nil (follower : ChainFollower) : follower.effects [] = [] :=
  rfl

@[simp]
theorem effects_cons (follower : ChainFollower) (event : Event) (events : List Event) :
    follower.effects (event :: events) =
      follower.effect event :: (follower.apply event).2.effects events :=
  rfl

theorem map_event_effects (follower : ChainFollower) (events : List Event) :
    (follower.effects events).map EventEffect.event = events := by
  induction events generalizing follower with
  | nil => rfl
  | cons event events ih => rw [effects_cons, List.map_cons, ih]; rfl

/-! ## What a follower holds for an account and token -/

/-- Two followers hold the same for an account and a token, apart from the
versions of deposits. -/
structure SameOn (pair : Scope × Token) (left right : ChainFollower) : Prop where
  seen : left.lastSeen.get? pair = right.lastSeen.get? pair
  ledger : Ledger.SameOn pair left.ledger right.ledger

namespace SameOn

variable {pair : Scope × Token} {left right other : ChainFollower}

theorem refl (pair : Scope × Token) (follower : ChainFollower) :
    SameOn pair follower follower where
  seen := rfl
  ledger := .refl pair follower.ledger

theorem symm (same : SameOn pair left right) : SameOn pair right left where
  seen := same.seen.symm
  ledger := same.ledger.symm

theorem trans (first : SameOn pair left right) (second : SameOn pair right other) :
    SameOn pair left other where
  seen := first.seen.trans second.seen
  ledger := first.ledger.trans second.ledger

end SameOn

variable {pair own : Scope × Token} {follower left right : ChainFollower} {event : Event}

theorem sameOn_ledgerAt (pair : Scope × Token) (follower : ChainFollower) (event : Event) :
    Ledger.SameOn pair follower.ledger (follower.ledgerAt event) :=
  ⟨fun _ => rfl, fun _ => rfl, fun _ => rfl, rfl⟩

theorem get?_seenAfter_of_ne (about : event.pair? = some own) (elsewhere : own ≠ pair) :
    (follower.seenAfter event).get? pair = follower.lastSeen.get? pair := by
  unfold seenAfter
  cases ordered : event.action.orderedPair? with
  | none => rfl
  | some noted =>
      have same := Event.pair?_of_orderedPair? ordered
      rw [about] at same
      obtain rfl := Option.some.inj same
      rw [Table.get?_set, if_neg elsewhere]

/-- An event leaves alone what is held for any other account and token. -/
theorem sameOn_apply (about : event.pair? = some own) (elsewhere : own ≠ pair) :
    SameOn pair follower (follower.apply event).2 := by
  have advanced := sameOn_ledgerAt pair follower event
  rw [apply_eq]
  cases follower.lateness? event with
  | some failure => exact ⟨rfl, advanced⟩
  | none => exact ⟨(get?_seenAfter_of_ne about elsewhere).symm,
      advanced.trans (Operation.sameOn_perform about elsewhere)⟩

theorem lateness?_eq_of_sameOn (same : SameOn pair left right) (about : event.pair? = some pair) :
    left.lateness? event = right.lateness? event := by
  unfold lateness?
  cases ordered : event.action.orderedPair? with
  | none => rfl
  | some noted =>
      have named := Event.pair?_of_orderedPair? ordered
      rw [about] at named
      obtain rfl := Option.some.inj named
      simp only [same.seen]

theorem get?_seenAfter_eq_of_sameOn (same : SameOn pair left right) :
    (left.seenAfter event).get? pair = (right.seenAfter event).get? pair := by
  unfold seenAfter
  cases event.action.orderedPair? with
  | none => exact same.seen
  | some noted =>
      simp only [Table.get?_set]
      split
      · rfl
      · exact same.seen

theorem growth_effect (follower : ChainFollower) (event : Event) :
    (follower.effect event).growth =
      match follower.lateness? event with
      | some _ => 0
      | none => event.operation.grown (follower.ledgerAt event) := by
  unfold effect
  rw [apply_eq]
  cases follower.lateness? event with
  | some failure => exact sub_self _
  | none => rfl

end ChainFollower

/-! ## Eras -/

/-- Each token has the given key scheme as its era, or else none, and all keys that
may be used for it are of the given scheme. -/
def Ledger.Keyed (ledger : Ledger) (scheme : Token → KeyScheme)
    (usable : Token → DepositKey → Prop) : Prop :=
  ∀ token, ledger.eras.get? token = some (scheme token) ∨
    ledger.eras.get? token = none ∧ ∀ key, usable token key → key.scheme = scheme token

namespace Ledger.Keyed

variable {ledger : Ledger} {scheme : Token → KeyScheme} {usable : Token → DepositKey → Prop}

/-- Whether a usable key is accepted does not depend on whether the era is set. -/
theorem requireEra_eq (keyed : ledger.Keyed scheme usable) {token : Token} {key : DepositKey}
    (used : usable token key) :
    ledger.requireEra token key =
      if scheme token = key.scheme then .ok ()
      else .error (.versionMismatch token (scheme token) key) := by
  unfold requireEra
  rcases keyed token with set | ⟨unset, fits⟩
  · rw [set]
  · rw [unset, if_pos (fits key used).symm]

theorem of_eras_eq (keyed : ledger.Keyed scheme usable) {other : Ledger}
    (same : other.eras = ledger.eras) : other.Keyed scheme usable := by
  unfold Keyed
  rw [same]
  exact keyed

/-- Opening tokens by usable keys keeps every token at its scheme. -/
theorem of_or_opens? (keyed : ledger.Keyed scheme usable) {operation : Operation}
    (keys : ∀ token key, operation.key? = some (token, key) → usable token key)
    {other : Ledger}
    (opened : ∀ token, other.eras.get? token =
      (ledger.eras.get? token).or (operation.opens? token)) : other.Keyed scheme usable := by
  intro token
  rw [opened]
  rcases keyed token with set | ⟨unset, fits⟩
  · exact .inl (by rw [set, Option.some_or])
  · rw [unset, Option.none_or]
    cases operation with
    | putDeposit id =>
        by_cases sameToken : id.token = token
        · subst sameToken
          have fitting := fits id.key (keys id.token id.key rfl)
          exact .inl (by simp only [Operation.opens?, if_true, fitting])
        · exact .inr ⟨if_neg sameToken, fits⟩
    | _ => exact .inr ⟨rfl, fits⟩

end Ledger.Keyed

/-- An event that names an account and uses only usable keys. -/
structure Event.Within (event : Event) (usable : Token → DepositKey → Prop) : Prop where
  named : ∃ pair, event.pair? = some pair ∧ pair.1 ≠ protocolScope
  keys : ∀ token key, event.key? = some (token, key) → usable token key

namespace ChainFollower

variable {pair : Scope × Token} {follower left right : ChainFollower} {event : Event}
  {scheme : Token → KeyScheme} {usable : Token → DepositKey → Prop}

/-! ## Followers of events on accounts -/

/-- What keeps events on different accounts and tokens from meeting each other. -/
structure Ready (follower : ChainFollower) (scheme : Token → KeyScheme)
    (usable : Token → DepositKey → Prop) : Prop where
  standing : follower.ledger.Standing
  keyed : follower.ledger.Keyed scheme usable

/-- Events that name only accounts keep the standing of the ledger. -/
theorem standing_apply (standing : follower.ledger.Standing)
    (indirect : ∀ token, event.pair? ≠ some (protocolScope, token)) :
    (follower.apply event).2.ledger.Standing := by
  have advanced : (follower.ledgerAt event).Standing := standing.of_eq rfl rfl
  rw [apply_eq]
  cases follower.lateness? event with
  | some failure => exact advanced
  | none => exact advanced.perform (Event.followsAccounts indirect)

/-- An event on an account moves the period on and sets eras only by the key of a
deposit that is put in order. -/
theorem shared_apply (about : event.pair? = some pair) (follower : ChainFollower) :
    (follower.apply event).2.ledger.period =
        max follower.ledger.period event.position.period ∧
      ∀ token, (follower.apply event).2.ledger.eras.get? token =
        (follower.ledger.eras.get? token).or
          (if (follower.effect event).inOrder then event.operation.opens? token else none) := by
  unfold effect
  rw [apply_eq]
  cases follower.lateness? event with
  | some failure => exact ⟨rfl, fun token => Option.or_none.symm⟩
  | none => exact Operation.shared_perform about (follower.ledgerAt event)

theorem Ready.apply (ready : follower.Ready scheme usable) (within : event.Within usable) :
    (follower.apply event).2.Ready scheme usable := by
  obtain ⟨pair, about, isAccount⟩ := within.named
  constructor
  · refine standing_apply ready.standing ?_
    intro token isProtocol
    rw [about] at isProtocol
    exact isAccount (congrArg Prod.fst (Option.some.inj isProtocol))
  · have opened := (shared_apply about follower).2
    cases inOrder : (follower.effect event).inOrder with
    | true =>
        rw [inOrder] at opened
        exact ready.keyed.of_or_opens? within.keys opened
    | false =>
        intro token
        rw [opened, inOrder]
        simpa using ready.keyed token

section Own

variable (same : SameOn pair left right) (leftReady : left.Ready scheme usable)
  (rightReady : right.Ready scheme usable) (within : event.Within usable)
  (about : event.pair? = some pair)

include same leftReady rightReady within about

/-- What both followers meet when an event of the account and token is performed. -/
theorem perform_ledgerAt_sameOn :
    ((event.operation.perform (left.ledgerAt event)).result.map fun _ => ()) =
        ((event.operation.perform (right.ledgerAt event)).result.map fun _ => ()) ∧
      event.operation.grown (left.ledgerAt event) =
        event.operation.grown (right.ledgerAt event) ∧
      Ledger.SameOn pair (event.operation.perform (left.ledgerAt event)).ledger
        (event.operation.perform (right.ledgerAt event)).ledger := by
  obtain ⟨named, naming, isAccount⟩ := within.named
  rw [about] at naming
  obtain rfl := Option.some.inj naming
  have advanced : Ledger.SameOn pair (left.ledgerAt event) (right.ledgerAt event) :=
    ((sameOn_ledgerAt pair left event).symm.trans same.ledger).trans
      (sameOn_ledgerAt pair right event)
  have leftReconciled : (left.ledgerAt event).Reconciled fun _ => 0 :=
    leftReady.standing.reconciled.of_balances_eq rfl
  have rightReconciled : (right.ledgerAt event).Reconciled fun _ => 0 :=
    rightReady.standing.reconciled.of_balances_eq rfl
  have keyed : ∀ token key, event.operation.key? = some (token, key) →
      (left.ledgerAt event).requireEra token key =
        (right.ledgerAt event).requireEra token key := by
    intro token key used
    have leftKeyed : (left.ledgerAt event).Keyed scheme usable := leftReady.keyed.of_eras_eq rfl
    have rightKeyed : (right.ledgerAt event).Keyed scheme usable :=
      rightReady.keyed.of_eras_eq rfl
    rw [leftKeyed.requireEra_eq (within.keys token key used),
      rightKeyed.requireEra_eq (within.keys token key used)]
  exact ⟨Operation.result_eq_of_sameOn advanced leftReconciled rightReconciled isAccount about
      keyed,
    Operation.grown_eq_of_sameOn advanced leftReconciled rightReconciled isAccount about keyed,
    Operation.perform_sameOn advanced leftReconciled rightReconciled isAccount about keyed⟩

/-- The effect of an event depends only on what is held for its account and token. -/
theorem effect_eq_of_sameOn : left.effect event = right.effect event := by
  obtain ⟨results, grown, -⟩ := perform_ledgerAt_sameOn same leftReady rightReady within about
  have late := lateness?_eq_of_sameOn same about
  have growths : (left.effect event).growth = (right.effect event).growth := by
    rw [growth_effect, growth_effect, late, grown]
  have outcomes : (left.apply event).1 = (right.apply event).1 := by
    rw [apply_eq, apply_eq, late]
    cases right.lateness? event with
    | some failure => rfl
    | none => exact results
  unfold effect at growths ⊢
  simp only [EventEffect.mk.injEq, true_and]
  exact ⟨outcomes, by rw [late], growths⟩

/-- An event changes what is held for its account and token in a way that depends on
nothing else. -/
theorem apply_sameOn : SameOn pair (left.apply event).2 (right.apply event).2 := by
  obtain ⟨-, -, performed⟩ := perform_ledgerAt_sameOn same leftReady rightReady within about
  rw [apply_eq, apply_eq, lateness?_eq_of_sameOn same about]
  cases right.lateness? event with
  | some failure =>
      exact ⟨same.seen, ((sameOn_ledgerAt pair left event).symm.trans same.ledger).trans
        (sameOn_ledgerAt pair right event)⟩
  | none => exact ⟨get?_seenAfter_eq_of_sameOn same, performed⟩

end Own

end ChainFollower

end DepositYield
