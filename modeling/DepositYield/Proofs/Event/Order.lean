import DepositYield.Proofs.Event.Effect
import DepositYield.Proofs.Ledger.Journal
import Mathlib.Data.List.Pairwise
import Mathlib.Data.Prod.Lex

/-!
# Events in order

For each account and token a follower notes the positions of all events but claims, and
refuses an event that comes before the position noted last.  So the events that go through
are in order apart from claims, which are neither noted nor refused.  A late event leaves
nothing behind, since the period of the ledger is never before a position that was noted.
-/

namespace DepositYield

namespace ChainPosition

/-- The place of a position in the lexicographic order of periods and timestamps. -/
def sortKey (position : ChainPosition) : Int ×ₗ Int :=
  toLex (position.period, position.timestamp)

theorem before_iff {left right : ChainPosition} :
    left.before right ↔ left.sortKey < right.sortKey := by
  simp [before, sortKey, Prod.Lex.toLex_lt_toLex]

theorem period_le_of_before {left right : ChainPosition} (earlier : left.before right) :
    left.period ≤ right.period := by
  rcases Prod.Lex.toLex_lt_toLex.mp (before_iff.mp earlier) with below | ⟨same, -⟩
  · exact Int.le_of_lt below
  · exact Int.le_of_eq same

end ChainPosition

/-- Claims of withdrawals name an account and a token but have no place in their order. -/
def Event.isClaim (event : Event) : Bool :=
  match event.action with
  | .markClaimed _ => true
  | _ => false

theorem Event.orderedPair?_eq_some_iff {event : Event} {pair : Scope × Token} :
    event.action.orderedPair? = some pair ↔
      event.pair? = some pair ∧ event.isClaim = false := by
  rcases event with ⟨position, action⟩
  cases action <;>
    simp [EventAction.orderedPair?, pair?, operation, EventAction.operation, Operation.pair?,
      isClaim]

/-- The position that an event leaves behind as the last one of an account and token. -/
def EventEffect.noted? (pair : Scope × Token) (effect : EventEffect) : Option ChainPosition :=
  if effect.inOrder ∧ effect.event.action.orderedPair? = some pair then
    some effect.event.position
  else
    none

theorem EventEffect.noted?_eq_some_iff {pair : Scope × Token} {effect : EventEffect}
    {position : ChainPosition} :
    effect.noted? pair = some position ↔
      effect.inOrder = true ∧ effect.event.action.orderedPair? = some pair ∧
        effect.event.position = position := by
  simp [noted?, and_assoc]

namespace ChainFollower

variable {follower : ChainFollower} {event : Event} {pair : Scope × Token}

/-! ## Late events -/

theorem lateness?_eq_none_iff (ordered : event.action.orderedPair? = some pair) :
    follower.lateness? event = none ↔
      ∀ last, follower.lastSeen.get? pair = some last →
        last.sortKey ≤ event.position.sortKey := by
  simp only [lateness?, ordered]
  cases follower.lastSeen.get? pair with
  | none => simp
  | some last => simp [ChainPosition.before_iff]

theorem of_lateness? {failure : LedgerFailure} (late : follower.lateness? event = some failure) :
    ∃ pair last, event.action.orderedPair? = some pair ∧
      follower.lastSeen.get? pair = some last ∧ event.position.before last ∧
      failure = .outOfOrder pair.1 pair.2 event.position last := by
  unfold lateness? at late
  split at late
  · contradiction
  · next pair ordered =>
      split at late
      · contradiction
      · next last seen =>
          split at late
          · next earlier =>
              exact ⟨pair, last, ordered, seen, earlier, (Option.some.inj late).symm⟩
          · contradiction

/-- An event is refused as out of order exactly if it is late: the ledger refuses nothing for
its place in an order. -/
theorem lateness?_eq_some_iff {failure : LedgerFailure} :
    follower.lateness? event = some failure ↔
      (follower.apply event).1 = .error failure ∧ failure.code = "out_of_order" := by
  constructor
  · intro late
    rw [apply_eq, late]
    obtain ⟨pair, last, -, -, -, rfl⟩ := of_lateness? late
    exact ⟨rfl, rfl⟩
  · rintro ⟨refused, code⟩
    rw [apply_eq] at refused
    -- past the check of the order, a refusal is one of the ledger and has another code
    cases late : follower.lateness? event with
    | some reason =>
        rw [late] at refused
        exact congrArg some (Except.error.inj refused)
    | none =>
        rw [late] at refused
        cases performed : (event.operation.perform (follower.ledgerAt event)).result with
        | ok reply =>
            rw [performed] at refused
            contradiction
        | error reason =>
            rw [performed] at refused
            obtain rfl := Except.error.inj refused
            exact absurd code (Operation.code_of_perform performed)

theorem inOrder_of_ok (through : (follower.effect event).result = .ok ()) :
    (follower.effect event).inOrder = true := by
  cases late : follower.lateness? event with
  | none => exact Option.isNone_iff_eq_none.mpr late
  | some failure =>
      have clash := through.symm.trans (lateness?_eq_some_iff.mp late).1
      contradiction

/-- A claim goes through whenever it comes. -/
theorem apply_of_isClaim (claim : event.isClaim = true) : (follower.apply event).1 = .ok () := by
  rcases event with ⟨position, action⟩
  cases action with
  | markClaimed id => rfl
  | _ => contradiction

/-! ## Noted positions -/

/-- The last position of an account and token is the one that an event leaves behind, or
else the one that was there. -/
theorem get?_lastSeen_apply (follower : ChainFollower) (event : Event) (pair : Scope × Token) :
    (follower.apply event).2.lastSeen.get? pair =
      ((follower.effect event).noted? pair).or (follower.lastSeen.get? pair) := by
  unfold EventEffect.noted? effect
  rw [apply_eq]
  cases follower.lateness? event with
  | some failure => simp [withLedger]
  | none =>
      simp only [seenAfter, Option.isNone_none, true_and]
      cases event.action.orderedPair? with
      | none => simp
      | some own =>
          simp only [Table.get?_set, Option.some.injEq]
          split <;> simp

/-- The positions that are noted for an account and token, oldest first: none comes before
an older one, and the last one is that last seen. -/
structure Noted (follower : ChainFollower) (pair : Scope × Token)
    (positions : List ChainPosition) : Prop where
  last : follower.lastSeen.get? pair = positions.getLast?
  ordered : positions.Pairwise fun earlier later => earlier.sortKey ≤ later.sortKey

theorem noted_ofLedger (ledger : Ledger) (pair : Scope × Token) :
    (ofLedger ledger).Noted pair [] where
  last := rfl
  ordered := .nil

namespace Noted

variable {positions : List ChainPosition}

/-- No position that is noted comes after the one last seen. -/
theorem le_last (noted : follower.Noted pair positions) {position : ChainPosition}
    (inside : position ∈ positions) :
    ∃ last, follower.lastSeen.get? pair = some last ∧ position.sortKey ≤ last.sortKey := by
  have filled := List.ne_nil_of_mem inside
  refine ⟨positions.getLast filled, ?_, ?_⟩
  · rw [noted.last, List.getLast?_eq_some_getLast filled]
  · have keys := List.pairwise_map.mpr noted.ordered
    have bounded := keys.rel_getLast (List.mem_map_of_mem inside)
    rwa [List.getLast_map] at bounded

/-- An event of the account and token is late exactly if it comes before some position
that is noted. -/
theorem isLate_iff (noted : follower.Noted pair positions)
    (ordered : event.action.orderedPair? = some pair) :
    follower.lateness? event ≠ none ↔
      ∃ position ∈ positions, event.position.before position := by
  rw [Ne, lateness?_eq_none_iff ordered]
  simp only [ChainPosition.before_iff]
  constructor
  · intro late
    push Not at late
    obtain ⟨last, seen, earlier⟩ := late
    exact ⟨last, List.mem_of_getLast? (noted.last ▸ seen), earlier⟩
  · rintro ⟨position, inside, earlier⟩ inOrder
    obtain ⟨last, seen, bounded⟩ := noted.le_last inside
    exact absurd (inOrder last seen) (not_le.mpr (earlier.trans_le bounded))

/-- Every event keeps the noted positions in order. -/
theorem apply (noted : follower.Noted pair positions) (event : Event) :
    (follower.apply event).2.Noted pair
      (positions ++ ((follower.effect event).noted? pair).toList) := by
  have seen := get?_lastSeen_apply follower event pair
  cases left : (follower.effect event).noted? pair with
  | none =>
      rw [left, Option.none_or] at seen
      rw [Option.toList_none, List.append_nil]
      exact ⟨seen.trans noted.last, noted.ordered⟩
  | some position =>
      rw [left, Option.some_or] at seen
      refine ⟨by rw [seen, Option.toList_some, List.getLast?_concat], ?_⟩
      obtain ⟨inOrder, placed, rfl⟩ := EventEffect.noted?_eq_some_iff.mp left
      have onTime := (lateness?_eq_none_iff placed).mp (Option.isNone_iff_eq_none.mp inOrder)
      refine List.pairwise_append.mpr ⟨noted.ordered, List.pairwise_singleton _ _, ?_⟩
      -- no noted position is past the last one, and the event is not before that
      intro earlier inside later own
      obtain rfl := List.mem_singleton.mp own
      obtain ⟨last, lastSeen, bounded⟩ := noted.le_last inside
      exact bounded.trans (onTime last lastSeen)

/-- Every row of events keeps the noted positions in order. -/
theorem follow (noted : follower.Noted pair positions) (events : List Event) :
    (follower.follow events).Noted pair
      (positions ++ (follower.effects events).filterMap (EventEffect.noted? pair)) := by
  induction events generalizing follower positions with
  | nil => simpa using noted
  | cons event events ih =>
      have later := ih (noted.apply event)
      rw [follow_cons, effects_cons, List.filterMap_cons]
      cases left : (follower.effect event).noted? pair <;> simpa [left] using later

end Noted

/-! ## The events that go through -/

/-- The events of an account and token that go through. -/
def applied (follower : ChainFollower) (events : List Event) (pair : Scope × Token) :
    List Event :=
  ((follower.effects events).filter fun effect =>
    effect.result = .ok () ∧ effect.event.pair? = some pair).map EventEffect.event

theorem exists_of_mem_effects {events : List Event} {effect : EventEffect}
    (inside : effect ∈ follower.effects events) :
    ∃ (current : ChainFollower) (event : Event), effect = current.effect event := by
  induction events generalizing follower with
  | nil => exact absurd inside List.not_mem_nil
  | cons event events ih =>
      rcases List.mem_cons.mp inside with first | later
      · exact ⟨follower, event, first⟩
      · exact ih later

/-- Every event that goes through is noted, unless it is a claim. -/
theorem noted?_of_applied {events : List Event} {effect : EventEffect}
    (inside : effect ∈ (follower.effects events).filter fun effect =>
      effect.result = .ok () ∧ effect.event.pair? = some pair)
    (placed : effect.event.isClaim = false) :
    effect.noted? pair = some effect.event.position := by
  obtain ⟨among, through⟩ := List.mem_filter.mp inside
  obtain ⟨through, about⟩ := of_decide_eq_true through
  obtain ⟨current, event, rfl⟩ := exists_of_mem_effects among
  exact EventEffect.noted?_eq_some_iff.mpr
    ⟨inOrder_of_ok through, Event.orderedPair?_eq_some_iff.mpr ⟨about, placed⟩, rfl⟩

theorem mem_noted_of_mem_applied {events : List Event}
    (inside : event ∈ follower.applied events pair) (placed : event.isClaim = false) :
    event.position ∈ (follower.effects events).filterMap (EventEffect.noted? pair) := by
  obtain ⟨effect, chosen, rfl⟩ := List.mem_map.mp inside
  exact List.mem_filterMap.mpr
    ⟨effect, (List.mem_filter.mp chosen).1, noted?_of_applied chosen placed⟩

/-- Apart from claims, the events that go through come in order. -/
theorem pairwise_applied {events : List Event}
    (ordered : ((follower.effects events).filterMap (EventEffect.noted? pair)).Pairwise
      fun earlier later => earlier.sortKey ≤ later.sortKey) :
    (follower.applied events pair).Pairwise fun earlier later =>
      earlier.isClaim = false → later.isClaim = false →
        earlier.position.sortKey ≤ later.position.sortKey := by
  rw [List.pairwise_filterMap] at ordered
  refine List.pairwise_map.mpr ((ordered.filter _).imp_of_mem ?_)
  intro earlier later earlierInside laterInside noted earlierPlaced laterPlaced
  exact noted _ (noted?_of_applied earlierInside earlierPlaced) _
    (noted?_of_applied laterInside laterPlaced)

/-- For every account and token, the events that go through come in order apart from
claims.  A claim goes through whenever it comes.  Any other event is refused as out of order
if it comes before one that went through, and exactly if it comes before one that was found
in order, whether or not the ledger refused that later. -/
theorem events_in_order_but_claims (ledger : Ledger) (events : List Event)
    (pair : Scope × Token) :
    let start := ofLedger ledger
    (start.applied events pair).Pairwise (fun earlier later =>
      earlier.isClaim = false → later.isClaim = false →
        earlier.position.sortKey ≤ later.position.sortKey) ∧
    ∀ event : Event, event.pair? = some pair →
      let answer := ((start.follow events).apply event).1
      let isLate := ∃ last, answer = .error (.outOfOrder pair.1 pair.2 event.position last)
      (event.isClaim = true → answer = .ok ()) ∧
      (event.isClaim = false →
        ((∃ other ∈ start.applied events pair, other.isClaim = false ∧
          event.position.before other.position) → isLate) ∧
        (isLate ↔ ∃ position ∈ (start.effects events).filterMap (EventEffect.noted? pair),
          event.position.before position)) := by
  intro start
  have noted := (noted_ofLedger ledger pair).follow events
  rw [List.nil_append] at noted
  refine ⟨pairwise_applied noted.ordered, ?_⟩
  intro event about answer isLate
  refine ⟨apply_of_isClaim, fun placed => ?_⟩
  have ordered := Event.orderedPair?_eq_some_iff.mpr ⟨about, placed⟩
  have late : isLate ↔ (start.follow events).lateness? event ≠ none := by
    constructor
    · rintro ⟨last, refused⟩
      rw [lateness?_eq_some_iff.mpr ⟨refused, rfl⟩]
      exact Option.some_ne_none _
    · intro late
      obtain ⟨failure, late⟩ := Option.ne_none_iff_exists'.mp late
      obtain ⟨own, last, naming, -, -, rfl⟩ := of_lateness? late
      obtain rfl := Option.some.inj (ordered.symm.trans naming)
      exact ⟨last, (lateness?_eq_some_iff.mp late).1⟩
  have exactly := late.trans (noted.isLate_iff ordered)
  refine ⟨?_, exactly⟩
  rintro ⟨other, through, otherPlaced, earlier⟩
  exact exactly.mpr ⟨other.position, mem_noted_of_mem_applied through otherPlaced, earlier⟩

/-- A withdrawal that comes before a deposit is refused, though a claim that came before it,
too, went through in between. -/
theorem late_withdrawal_refused_after_claim :
    let put : Event := ⟨⟨2, 2⟩, .deposit ⟨"0xa", "0xt", .season 1⟩ 10 10⟩
    let claim : Event := ⟨⟨1, 1⟩, .markClaimed ⟨"0xa", "0xt", 1⟩⟩
    let taken : Event := ⟨⟨1, 9⟩, .withdraw ⟨"0xa", "0xt", .season 1⟩ 4 none⟩
    let start := ofLedger (.empty none)
    start.applied [put, claim] ("0xa", "0xt") = [put, claim] ∧
      taken.pair? = some ("0xa", "0xt") ∧ taken.isClaim = false ∧ put.isClaim = false ∧
      taken.position.before put.position ∧
      ∃ last, ((start.follow [put, claim]).apply taken).1 =
        .error (.outOfOrder "0xa" "0xt" ⟨1, 9⟩ last) := by
  intro put claim taken start
  have through : start.applied [put, claim] ("0xa", "0xt") = [put, claim] := by decide +kernel
  have inside : put ∈ start.applied [put, claim] ("0xa", "0xt") := by
    rw [through]
    exact List.mem_cons_self
  have ordered := (events_in_order_but_claims (.empty none) [put, claim] ("0xa", "0xt")).2 taken rfl
  exact ⟨through, rfl, rfl, rfl, rfl, (ordered.2 rfl).1 ⟨put, inside, rfl, rfl⟩⟩

/-- A claim goes through though it comes before a deposit of its account and token that went
through. -/
theorem late_claim_goes_through :
    let put : Event := ⟨⟨2, 2⟩, .deposit ⟨"0xa", "0xt", .season 1⟩ 10 10⟩
    let claim : Event := ⟨⟨1, 1⟩, .markClaimed ⟨"0xa", "0xt", 1⟩⟩
    let start := ofLedger (.empty none)
    start.applied [put, claim] ("0xa", "0xt") = [put, claim] ∧
      ¬(start.applied [put, claim] ("0xa", "0xt")).Pairwise (fun earlier later =>
        earlier.position.sortKey ≤ later.position.sortKey) ∧
      claim.position.before put.position ∧ ((start.follow [put]).apply claim).1 = .ok () := by
  intro put claim start
  have through : start.applied [put, claim] ("0xa", "0xt") = [put, claim] := by decide +kernel
  refine ⟨through, ?_, rfl, rfl⟩
  rw [through]
  decide

/-! ## What late events leave behind -/

/-- No position that was noted lies past the period of the ledger. -/
def SeenInPeriod (follower : ChainFollower) : Prop :=
  ∀ pair last, follower.lastSeen.get? pair = some last → last.period ≤ follower.ledger.period

theorem seenInPeriod_ofLedger (ledger : Ledger) : (ofLedger ledger).SeenInPeriod :=
  fun _ _ seen => absurd seen (Option.not_mem_none _)

/-- An event leaves the ledger at no earlier period, nor before its own. -/
theorem period_le_apply (follower : ChainFollower) (event : Event) :
    max follower.ledger.period event.position.period ≤
      (follower.apply event).2.ledger.period := by
  rw [apply_eq]
  cases follower.lateness? event with
  | some failure => exact Int.le_refl _
  | none => exact event.operation.period_le_perform (follower.ledgerAt event)

namespace SeenInPeriod

/-- Every event keeps the noted positions within the period of the ledger. -/
theorem apply (seenInPeriod : follower.SeenInPeriod) (event : Event) :
    (follower.apply event).2.SeenInPeriod := by
  intro pair last seen
  have advanced := follower.period_le_apply event
  rw [get?_lastSeen_apply] at seen
  cases left : (follower.effect event).noted? pair with
  | none =>
      rw [left, Option.none_or] at seen
      have bounded := seenInPeriod pair last seen
      omega
  | some position =>
      rw [left] at seen
      obtain rfl := Option.some.inj seen
      obtain ⟨-, -, rfl⟩ := EventEffect.noted?_eq_some_iff.mp left
      exact (Int.le_max_right _ _).trans advanced

/-- An event that is late changes nothing. -/
theorem apply_eq_self (seenInPeriod : follower.SeenInPeriod) {failure : LedgerFailure}
    (late : follower.lateness? event = some failure) : (follower.apply event).2 = follower := by
  obtain ⟨pair, last, -, seen, earlier, -⟩ := of_lateness? late
  have reached : event.position.period ≤ follower.ledger.period :=
    (ChainPosition.period_le_of_before earlier).trans (seenInPeriod pair last seen)
  rw [apply_eq, late]
  simp only [withLedger, ledgerAt, Int.max_eq_left reached]

end SeenInPeriod

end ChainFollower

/-- What a follower can be asked for: to apply an event, or to let its ledger perform an
operation. -/
inductive FollowerCall where
  | event (event : Event)
  | operation (operation : Operation)

namespace ChainFollower

/-- The follower after a call.  The ledger does not tell the follower what it performs. -/
def answer (follower : ChainFollower) : FollowerCall → ChainFollower
  | .event event => (follower.apply event).2
  | .operation operation => follower.withLedger (operation.perform follower.ledger).ledger

/-- The follower after calls in a row, with refused ones passed over. -/
def answerAll (follower : ChainFollower) (calls : List FollowerCall) : ChainFollower :=
  calls.foldl answer follower

variable {follower : ChainFollower}

/-- Every call keeps the noted positions within the period of the ledger. -/
theorem SeenInPeriod.answer (seenInPeriod : follower.SeenInPeriod) (call : FollowerCall) :
    (follower.answer call).SeenInPeriod := by
  cases call with
  | event event => exact seenInPeriod.apply event
  | operation operation =>
      intro pair last seen
      exact (seenInPeriod pair last seen).trans (operation.period_le_perform follower.ledger)

theorem SeenInPeriod.answerAll (seenInPeriod : follower.SeenInPeriod)
    (calls : List FollowerCall) : (follower.answerAll calls).SeenInPeriod := by
  induction calls generalizing follower with
  | nil => exact seenInPeriod
  | cons call calls ih => exact ih (seenInPeriod.answer call)

/-- After every mix of events and operations on the ledger, an event that is refused as out
of order changes neither the ledger nor the positions last seen. -/
theorem out_of_order_events_change_nothing (ledger : Ledger) (calls : List FollowerCall)
    (event : Event) (failure : LedgerFailure) :
    let follower := (ofLedger ledger).answerAll calls
    (follower.apply event).1 = .error failure → failure.code = "out_of_order" →
      (follower.apply event).2 = follower := by
  intro follower refused code
  have seenInPeriod := (seenInPeriod_ofLedger ledger).answerAll calls
  exact seenInPeriod.apply_eq_self (lateness?_eq_some_iff.mpr ⟨refused, code⟩)

/-- The ledger is moved on by hand between two events of an account.  The second comes
before the first and leaves the period where it is. -/
theorem late_event_leaves_period :
    let put : Event := ⟨⟨3, 5⟩, .deposit ⟨"0xa", "0xt", .stem 1⟩ 10 10⟩
    let late : Event := ⟨⟨3, 4⟩, .withdraw ⟨"0xa", "0xt", .stem 1⟩ 4 none⟩
    let follower := (ofLedger (.empty (some 4))).answerAll
      [.event put, .operation (.advanceTo 7), .operation (.advanceTo 6)]
    (follower.apply late).1 = .error (.outOfOrder "0xa" "0xt" ⟨3, 4⟩ ⟨3, 5⟩) ∧
      (follower.apply late).2 = follower ∧ follower.ledger.period = 7 := by
  intro put late follower
  have refused : (follower.apply late).1 =
      .error (.outOfOrder "0xa" "0xt" ⟨3, 4⟩ ⟨3, 5⟩) := by decide +kernel
  exact ⟨refused, out_of_order_events_change_nothing _ _ late _ refused rfl, by decide +kernel⟩

end ChainFollower

end DepositYield
