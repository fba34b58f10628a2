import DepositYield.Proofs.Event.Stream
import DepositYield.Proofs.Ledger.Journal
import DepositYield.Proofs.Ledger.Rollup
import DepositYield.Proofs.Settling
import Mathlib.Algebra.Order.Group.Int

/-!
# Periods at which events are applied

An event is entered in the journal, and a new deposit gets its version, by the period that
the ledger has reached when the event is applied.  Another stream may have moved the ledger
past the period of the event itself.  So two interleavings of streams have the same rollup
and the same deposits if each event is applied at the same period in both.
-/

namespace DepositYield

/-! ## Deposits with their versions -/

namespace Ledger

/-- Two ledgers hold the same deposits of an account and a token, versions included, and
will give new ones the same versions at the same period. -/
structure SameDeposits (pair : Scope × Token) (left right : Ledger) : Prop where
  deposits : ∀ key, left.deposits.get? ⟨pair.1, pair.2, key⟩ =
    right.deposits.get? ⟨pair.1, pair.2, key⟩
  v31Period : left.v31Period = right.v31Period

namespace SameDeposits

variable {pair : Scope × Token} {left right other : Ledger}

theorem refl (pair : Scope × Token) (ledger : Ledger) : SameDeposits pair ledger ledger where
  deposits _ := rfl
  v31Period := rfl

theorem symm (same : SameDeposits pair left right) : SameDeposits pair right left where
  deposits key := (same.deposits key).symm
  v31Period := same.v31Period.symm

theorem trans (first : SameDeposits pair left right) (second : SameDeposits pair right other) :
    SameDeposits pair left other where
  deposits key := (first.deposits key).trans (second.deposits key)
  v31Period := first.v31Period.trans second.v31Period

theorem depositAt_eq {id : DepositId} (same : SameDeposits (id.account, id.token) left right)
    (samePeriod : left.period = right.period) (createdAt : Int) :
    left.depositAt id createdAt = right.depositAt id createdAt := by
  have version : left.versionOf id.key = right.versionOf id.key := by
    unfold versionOf
    rw [same.v31Period, samePeriod]
  unfold depositAt Table.getD
  rw [version, show left.deposits.get? id = right.deposits.get? id from same.deposits id.key]

end SameDeposits

end Ledger

namespace Operation

open Ledger

variable {pair own : Scope × Token} {left right ledger : Ledger} {operation : Operation}

section Own

variable (same : SameDeposits pair left right) (samePeriod : left.period = right.period)
  (about : operation.pair? = some pair)

include same samePeriod about

theorem written?_eq_of_sameDeposits : operation.written? left = operation.written? right := by
  cases operation with
  | putDeposit id =>
      obtain rfl := Option.some.inj about
      simp only [written?, depositAfterPut, same.depositAt_eq samePeriod]
  | takeDeposit id =>
      obtain rfl := Option.some.inj about
      simp only [written?, depositAfterTake, valueTaken, same.depositAt_eq samePeriod]
  | _ => rfl

theorem request?_eq_of_sameDeposits : operation.request? left = operation.request? right := by
  cases operation with
  | takeDeposit id =>
      obtain rfl := Option.some.inj about
      simp only [request?, valueTaken, same.depositAt_eq samePeriod]
  | _ => rfl

theorem recorded_sameDeposits :
    SameDeposits pair (operation.recorded left) (operation.recorded right) := by
  obtain ⟨_, _, _, leftRecorded⟩ := recorded_frame_of_pair? about left
  obtain ⟨_, _, _, rightRecorded⟩ := recorded_frame_of_pair? about right
  constructor
  · intro key
    rw [get?_deposits_recorded, get?_deposits_recorded,
      written?_eq_of_sameDeposits same samePeriod about, same.deposits]
  · rw [leftRecorded, rightRecorded]
    exact same.v31Period

end Own

/-- What an operation records leaves alone the deposits of any other account and token. -/
theorem sameDeposits_recorded (about : operation.pair? = some own) (elsewhere : own ≠ pair)
    (ledger : Ledger) : SameDeposits pair ledger (operation.recorded ledger) := by
  obtain ⟨_, _, _, recorded⟩ := recorded_frame_of_pair? about ledger
  constructor
  · intro key
    rw [get?_deposits_recorded]
    cases operation with
    | putDeposit id =>
        obtain rfl := Option.some.inj about
        refine (if_neg ?_).symm
        rintro rfl
        exact elsewhere rfl
    | takeDeposit id =>
        obtain rfl := Option.some.inj about
        refine (if_neg ?_).symm
        rintro rfl
        exact elsewhere rfl
    | _ => rfl
  · rw [recorded]

/-- An operation that goes through leaves the deposits that it records, and is granted what
it asks for. -/
theorem of_accepted {reply : Reply}
    (accepted : (operation.perform ledger).result = .ok reply) :
    (∀ pair, SameDeposits pair (operation.perform ledger).ledger (operation.recorded ledger)) ∧
      operation.granted? ledger = operation.request? ledger := by
  refine ⟨fun pair => ?_, by rw [granted?, accepted]⟩
  cases admission : operation.admission ledger with
  | error failure =>
      rw [perform_of_rejected admission] at accepted
      contradiction
  | ok _ =>
      obtain ⟨_, _, _, _, left⟩ := perform_frame_of_admitted admission
      rw [left]
      exact ⟨fun _ => rfl, rfl⟩

end Operation

/-! ## Events with the periods of the ledger -/

/-- An event and the period of the ledger when it is applied. -/
structure DatedEvent where
  event : Event
  period : Int
  deriving DecidableEq

namespace DatedEvent

/-- The ledger at the period of the event. -/
def on (dated : DatedEvent) (ledger : Ledger) : Ledger :=
  { ledger with period := dated.period }

/-- The ledger with what the event records. -/
def recorded (dated : DatedEvent) (ledger : Ledger) : Ledger :=
  dated.event.operation.recorded (dated.on ledger)

/-- What the event is to enter in the rows of the rollup. -/
def rows (dated : DatedEvent) (ledger : Ledger) : List RollupRow :=
  match dated.event.operation.request? (dated.on ledger) with
  | none => []
  | some request =>
      request.scope.reached.map fun scope =>
        { key := ⟨scope, request.token, dated.period⟩, change := request.change }

variable {pair own : Scope × Token} {dated : DatedEvent} {left right ledger : Ledger}

theorem rows_eq_of_sameDeposits (same : Ledger.SameDeposits pair left right)
    (about : dated.event.pair? = some pair) : dated.rows left = dated.rows right := by
  have advanced : Ledger.SameDeposits pair (dated.on left) (dated.on right) :=
    ⟨same.deposits, same.v31Period⟩
  unfold rows
  rw [Operation.request?_eq_of_sameDeposits advanced rfl about]

theorem recorded_sameDeposits (same : Ledger.SameDeposits pair left right)
    (about : dated.event.pair? = some pair) :
    Ledger.SameDeposits pair (dated.recorded left) (dated.recorded right) :=
  Operation.recorded_sameDeposits ⟨same.deposits, same.v31Period⟩ rfl about

theorem sameDeposits_recorded (about : dated.event.pair? = some own) (elsewhere : own ≠ pair)
    (ledger : Ledger) : Ledger.SameDeposits pair ledger (dated.recorded ledger) := by
  have advanced : Ledger.SameDeposits pair ledger (dated.on ledger) := ⟨fun _ => rfl, rfl⟩
  exact advanced.trans (Operation.sameDeposits_recorded about elsewhere (dated.on ledger))

end DatedEvent

/-- What an event is to enter, with the period of the ledger. -/
structure DatedRows where
  dated : DatedEvent
  rows : List RollupRow

namespace Ledger

/-- The ledger with what events record. -/
def recordedBy (ledger : Ledger) (events : List DatedEvent) : Ledger :=
  events.foldl (fun current dated => dated.recorded current) ledger

/-- What events are to enter, each after what those before it recorded. -/
def datedRows (ledger : Ledger) : List DatedEvent → List DatedRows
  | [] => []
  | dated :: events => ⟨dated, dated.rows ledger⟩ :: (dated.recorded ledger).datedRows events

end Ledger

/-- Events with the periods of a ledger that goes through them from a period on. -/
def datedFrom (period : Int) : List Event → List DatedEvent
  | [] => []
  | event :: events =>
      let reached := max period event.position.period
      ⟨event, reached⟩ :: datedFrom reached events

/-- In the order of their periods, all events are applied at their own, if the ledger has
not passed them all. -/
theorem datedFrom_of_pairwise {events : List Event}
    (ordered : events.Pairwise fun earlier later =>
      earlier.position.period ≤ later.position.period) (period : Int) :
    datedFrom period events =
      events.map fun event => ⟨event, max period event.position.period⟩ := by
  induction ordered generalizing period with
  | nil => rfl
  | @cons event events before _ ih =>
      rw [datedFrom, ih, List.map_cons]
      refine congrArg (List.cons _) (List.map_congr_left fun later inside => ?_)
      rw [max_assoc, max_eq_right (before later inside)]

namespace ChainFollower

variable {pair : Scope × Token} {follower : ChainFollower} {event : Event} {events : List Event}

/-- An event with the period at which a follower applies it. -/
def dated (follower : ChainFollower) (event : Event) : DatedEvent where
  event := event
  period := max follower.ledger.period event.position.period

/-- The events of an account and token, with the periods at which a follower applies them
while it goes through all events. -/
def datedStream (follower : ChainFollower) (events : List Event) (pair : Scope × Token) :
    List DatedEvent :=
  (datedFrom follower.ledger.period events).filter fun dated => dated.event.pair? = some pair

/-- What events enter while a follower goes through them. -/
def datedRows (follower : ChainFollower) : List Event → List DatedRows
  | [] => []
  | event :: events =>
      ⟨follower.dated event, (follower.dated event).rows follower.ledger⟩ ::
        (follower.apply event).2.datedRows events

/-- An event that goes through leaves the deposits that it records, and enters its rows. -/
theorem of_accepted (accepted : (follower.effect event).result = .ok ()) :
    (∀ pair, Ledger.SameDeposits pair (follower.apply event).2.ledger
        ((follower.dated event).recorded follower.ledger)) ∧
      (follower.apply event).2.ledger.journal.map JournalEntry.row =
        follower.ledger.journal.map JournalEntry.row ++
          (follower.dated event).rows follower.ledger := by
  have run := follower.apply_eq event
  unfold effect at accepted
  dsimp only at accepted
  rw [run] at accepted ⊢
  cases late : follower.lateness? event with
  | some failure =>
      rw [late] at accepted
      contradiction
  | none =>
      rw [late] at accepted
      obtain ⟨reply, replied, -⟩ := map_eq_ok_iff.mp accepted
      obtain ⟨recorded, granted⟩ := Operation.of_accepted replied
      refine ⟨recorded, ?_⟩
      dsimp only
      rw [Operation.journal_perform, granted, List.map_append]
      change _ = _ ++ (match event.operation.request? (follower.ledgerAt event) with
        | none => []
        | some request => _)
      cases event.operation.request? (follower.ledgerAt event) with
      | none => rfl
      | some request => exact congrArg _ List.map_map

/-- The journal shows what the events of a run entered, if all of them go through. -/
theorem journal_follow (follower : ChainFollower)
    (accepted : ∀ effect ∈ follower.effects events, effect.result = .ok ()) :
    (follower.follow events).ledger.journal.map JournalEntry.row =
      follower.ledger.journal.map JournalEntry.row ++
        (follower.datedRows events).flatMap DatedRows.rows := by
  induction events generalizing follower with
  | nil => exact (List.append_nil _).symm
  | cons event events ih =>
      rw [effects_cons, List.forall_mem_cons] at accepted
      have entered := (of_accepted accepted.1).2
      rw [follow_cons, ih _ accepted.2, entered, datedRows, List.flatMap_cons,
        List.append_assoc]

/-- What the events of a stream enter and leave in its deposits depends only on the stream
and on the periods at which its events are applied, if all events go through. -/
theorem datedRows_filter (named : ∀ event ∈ events, event.pair?.isSome)
    {follower : ChainFollower} {ledger : Ledger}
    (same : Ledger.SameDeposits pair follower.ledger ledger)
    (accepted : ∀ effect ∈ follower.effects events, effect.result = .ok ()) :
    (follower.datedRows events).filter (fun entered => entered.dated.event.pair? = some pair) =
        ledger.datedRows (follower.datedStream events pair) ∧
      Ledger.SameDeposits pair (follower.follow events).ledger
        (ledger.recordedBy (follower.datedStream events pair)) := by
  induction events generalizing follower ledger with
  | nil => exact ⟨rfl, same⟩
  | cons event events ih =>
      obtain ⟨own, naming⟩ := Option.isSome_iff_exists.mp (named event List.mem_cons_self)
      have others : ∀ other ∈ events, other.pair?.isSome :=
        fun other inside => named other (List.mem_cons_of_mem event inside)
      rw [effects_cons, List.forall_mem_cons] at accepted
      have recorded := (of_accepted accepted.1).1 pair
      have period := (shared_apply naming follower).1
      have unfolded : datedFrom follower.ledger.period (event :: events) =
          follower.dated event :: datedFrom (follower.apply event).2.ledger.period events := by
        rw [period]
        rfl
      rw [datedStream, unfolded, datedRows]
      -- an event of the stream acts alike on equal deposits, any other leaves them alone
      by_cases about : event.pair? = some pair
      · have next : Ledger.SameDeposits pair (follower.apply event).2.ledger
            ((follower.dated event).recorded ledger) :=
          recorded.trans (DatedEvent.recorded_sameDeposits same about)
        obtain ⟨later, held⟩ := ih others next accepted.2
        have rows : (follower.dated event).rows follower.ledger =
            (follower.dated event).rows ledger := DatedEvent.rows_eq_of_sameDeposits same about
        rw [List.filter_cons_of_pos (by simp [dated, about]),
          List.filter_cons_of_pos (by simp [dated, about]), later, rows]
        exact ⟨rfl, held⟩
      · have elsewhere : own ≠ pair := by
          rintro rfl
          exact about naming
        have untouched : Ledger.SameDeposits pair follower.ledger
            ((follower.dated event).recorded follower.ledger) :=
          DatedEvent.sameDeposits_recorded naming elsewhere follower.ledger
        obtain ⟨later, held⟩ := ih others ((recorded.trans untouched.symm).trans same) accepted.2
        rw [List.filter_cons_of_neg (by simp [dated, about]),
          List.filter_cons_of_neg (by simp [dated, about])]
        exact ⟨later, held⟩

/-! ## Two interleavings -/

theorem map_event_datedRows (follower : ChainFollower) (events : List Event) :
    (follower.datedRows events).map (fun entered => entered.dated.event) = events := by
  induction events generalizing follower with
  | nil => rfl
  | cons event events ih => rw [datedRows, List.map_cons, ih]; rfl

section TwoOrders

variable {first second : List Event}
  (firstNamed : ∀ event ∈ first, event.pair?.isSome)
  (secondNamed : ∀ event ∈ second, event.pair?.isSome)
  (firstAccepted : ∀ effect ∈ follower.effects first, effect.result = .ok ())
  (secondAccepted : ∀ effect ∈ follower.effects second, effect.result = .ok ())
  (sameDates : ∀ pair, follower.datedStream first pair = follower.datedStream second pair)

include firstNamed secondNamed firstAccepted secondAccepted sameDates

/-- With the same streams at the same periods, the same is entered. -/
theorem datedRows_perm : (follower.datedRows first).Perm (follower.datedRows second) := by
  classical
  have keyed : ∀ {events : List Event}, (∀ event ∈ events, event.pair?.isSome) →
      ∀ entered ∈ follower.datedRows events, entered.dated.event.pair?.isSome := by
    intro events named entered inside
    refine named entered.dated.event ?_
    rw [← follower.map_event_datedRows events]
    exact List.mem_map_of_mem inside
  refine perm_of_filter_key?_eq (fun entered => entered.dated.event.pair?) (keyed firstNamed)
    (keyed secondNamed) fun pair => ?_
  have same : Ledger.SameDeposits pair follower.ledger follower.ledger := .refl pair _
  rw [(datedRows_filter firstNamed same firstAccepted).1, sameDates,
    (datedRows_filter secondNamed same secondAccepted).1]

/-- With the same streams at the same periods, the same deposits are left. -/
theorem follow_sameDeposits (pair : Scope × Token) :
    Ledger.SameDeposits pair (follower.follow first).ledger
      (follower.follow second).ledger := by
  have same : Ledger.SameDeposits pair follower.ledger follower.ledger := .refl pair _
  have left := (datedRows_filter firstNamed same firstAccepted).2
  have right := (datedRows_filter secondNamed same secondAccepted).2
  rw [sameDates] at left
  exact left.trans right.symm

end TwoOrders

/-- Two interleavings of streams of events, one stream for each account and token, lead to the
same rollup, exact and as it is held in columns, and to the same deposits with the same
versions, if all events go through in both and each event is applied at the same period of
the ledger in both.  This is so if both interleavings keep to the order of periods. -/
theorem interleavings_agree_on_periods (follower : ChainFollower)
    {streams : Scope × Token → List Event} {first second : List Event}
    (named : ∀ pair, ∀ event ∈ streams pair, event.pair? = some pair)
    (firstOrder : Interleaving streams first) (secondOrder : Interleaving streams second)
    (firstAccepted : ∀ effect ∈ follower.effects first, effect.result = .ok ())
    (secondAccepted : ∀ effect ∈ follower.effects second, effect.result = .ok ())
    (samePeriods :
      (∀ pair, follower.datedStream first pair = follower.datedStream second pair) ∨
      (first.Pairwise fun earlier later => earlier.position.period ≤ later.position.period) ∧
        second.Pairwise fun earlier later => earlier.position.period ≤ later.position.period) :
    let left := (follower.follow first).ledger
    let right := (follower.follow second).ledger
    (∀ key, rollupSum left.journal key = rollupSum right.journal key) ∧
      rollup left.journal = rollup right.journal ∧
      ∀ id, left.deposits.get? id = right.deposits.get? id := by
  intro left right
  have isNamed : ∀ {events : List Event}, Interleaving streams events →
      ∀ event ∈ events, event.pair?.isSome := by
    intro events drawn event inside
    obtain ⟨pair, there⟩ := drawn.mem_stream inside
    rw [named pair event there]
    rfl
  have sameDates : ∀ pair,
      follower.datedStream first pair = follower.datedStream second pair := by
    intro pair
    rcases samePeriods with same | ⟨firstOrdered, secondOrdered⟩
    · exact same pair
    · unfold datedStream
      rw [datedFrom_of_pairwise firstOrdered, datedFrom_of_pairwise secondOrdered,
        List.filter_map, List.filter_map]
      exact congrArg _ ((firstOrder.filter_eq named pair).trans
        (secondOrder.filter_eq named pair).symm)
  have sameRows := datedRows_perm (isNamed firstOrder) (isNamed secondOrder) firstAccepted
    secondAccepted sameDates
  have sameJournal : (left.journal.map JournalEntry.row).Perm
      (right.journal.map JournalEntry.row) := by
    rw [journal_follow follower firstAccepted, journal_follow follower secondAccepted]
    exact (sameRows.flatMap_right _).append_left _
  refine ⟨rollupSum_eq_of_perm sameJournal, rollup_eq_of_perm sameJournal, fun id => ?_⟩
  exact (follow_sameDeposits (isNamed firstOrder) (isNamed secondOrder) firstAccepted
    secondAccepted sameDates (id.account, id.token)).deposits id.key

/-- Two streams over two periods, drawn in two orders of periods.  Each deposit is of the
version of its own period in both. -/
theorem two_orders_of_periods_agree :
    let put : Event := ⟨⟨1, 1⟩, .deposit ⟨"0xa", "0xt", .stem 1⟩ 100 70⟩
    let other : Event := ⟨⟨1, 3⟩, .deposit ⟨"0xb", "0xt", .stem 1⟩ 50 50⟩
    let taken : Event := ⟨⟨2, 5⟩, .withdraw ⟨"0xa", "0xt", .stem 1⟩ 30 none⟩
    let otherAgain : Event := ⟨⟨2, 4⟩, .deposit ⟨"0xb", "0xt", .stem 4⟩ 20 20⟩
    let start := ofLedger (.empty (some 2))
    let left := (start.follow [put, other, taken, otherAgain]).ledger
    let right := (start.follow [other, put, otherAgain, taken]).ledger
    rollup left.journal = rollup right.journal ∧
      (left.depositAt ⟨"0xa", "0xt", .stem 1⟩ 0).version = .v3 ∧
      (left.depositAt ⟨"0xb", "0xt", .stem 4⟩ 0).version = .v31 ∧
      ∀ id, left.deposits.get? id = right.deposits.get? id := by
  intro put other taken otherAgain start left right
  let streams := fun pair =>
    [put, other, taken, otherAgain].filter fun event => event.pair? = some pair
  have named : ∀ pair, ∀ event ∈ streams pair, event.pair? = some pair :=
    fun pair event inside => by simpa using (List.mem_filter.mp inside).2
  have firstOrder : Interleaving streams [put, other, taken, otherAgain] :=
    .of_reordered (by decide) (by decide) (by decide)
  have secondOrder : Interleaving streams [other, put, otherAgain, taken] :=
    .of_reordered (by decide) (by decide) (by decide)
  obtain ⟨-, rollups, deposits⟩ := interleavings_agree_on_periods start named firstOrder
    secondOrder (by decide +kernel) (by decide +kernel) (.inr (by decide))
  exact ⟨rollups, by decide +kernel, by decide +kernel, deposits⟩

/-- Two streams in two orders, one of which moves the ledger past the period of the deposit
of `"0xa"` before it is put.  It is entered in another period then and is of another
version, though no stream is out of order and no event is refused. -/
theorem interleavings_differ_across_periods :
    let put : Event := ⟨⟨1, 1⟩, .deposit ⟨"0xa", "0xt", .stem 1⟩ 100 70⟩
    let other : Event := ⟨⟨2, 2⟩, .deposit ⟨"0xb", "0xt", .stem 1⟩ 50 50⟩
    let streams := fun pair => [put, other].filter fun event => event.pair? = some pair
    let start := ofLedger (.empty (some 2))
    let left := (start.follow [put, other]).ledger
    let right := (start.follow [other, put]).ledger
    Interleaving streams [put, other] ∧ Interleaving streams [other, put] ∧
      (∀ pair, (streams pair).Pairwise fun earlier later =>
        later.position.before earlier.position = false) ∧
      (∀ pair, ∀ event ∈ streams pair, ∀ token key,
        event.key? = some (token, key) → key.scheme = .stem) ∧
      (∀ effect ∈ start.effects [put, other], effect.result = .ok ()) ∧
      (∀ effect ∈ start.effects [other, put], effect.result = .ok ()) ∧
      rollupSum left.journal ⟨"0xa", "0xt", 1⟩ ≠ rollupSum right.journal ⟨"0xa", "0xt", 1⟩ ∧
      (left.depositAt ⟨"0xa", "0xt", .stem 1⟩ 0).version = .v3 ∧
      (right.depositAt ⟨"0xa", "0xt", .stem 1⟩ 0).version = .v31 := by
  intro put other streams start left right
  have ordered : [put, other].Pairwise fun earlier later =>
      later.position.before earlier.position = false := by decide
  have stems : ∀ event ∈ [put, other], event.key?.all fun use => use.2.scheme = .stem := by
    decide
  refine ⟨.of_reordered (by decide) (by decide) (by decide),
    .of_reordered (by decide) (by decide) (by decide), fun pair => ordered.filter _, ?_,
    by decide +kernel, by decide +kernel, by decide +kernel, by decide +kernel,
    by decide +kernel⟩
  intro pair event inside token key used
  have stem := stems event (List.mem_filter.mp inside).1
  simpa [used] using stem

end ChainFollower

end DepositYield
