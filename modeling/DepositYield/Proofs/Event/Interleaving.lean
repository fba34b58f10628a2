import DepositYield.Proofs.Event.Stream

/-!
# Interleavings of streams

Two interleavings of the same streams come to the same: each event has the same
effect, and the followers agree in the end.  Accounts meet only in the balance of
the protocol, which is decided by conservation, and in what depends on effects
and not on their order.
-/

namespace DepositYield

namespace Ledger

variable {left right : Ledger}

/-- Ledgers of standing that hold the same for each account and token have the same
balance of the protocol. -/
theorem balance_protocol_eq_of_sameOn (leftStanding : left.Standing)
    (rightStanding : right.Standing) (same : ∀ pair, SameOn pair left right) (token : Token) :
    left.balance protocolScope token = right.balance protocolScope token := by
  rw [leftStanding.reconciled.conserved, rightStanding.reconciled.conserved]
  unfold accountTotal totalWhere
  congr 1
  refine Table.sumOver_eq_of_get?_eq _ fun pair => ?_
  by_cases isAccount : pair.1 = protocolScope
  · exact .inr fun _ => if_neg fun selected => selected.1 isAccount
  · exact .inl ((same pair).balance isAccount)

theorem get?_balances_eq_of_sameOn (leftStanding : left.Standing)
    (rightStanding : right.Standing) (same : ∀ pair, SameOn pair left right)
    (pair : Scope × Token) : left.balances.get? pair = right.balances.get? pair := by
  by_cases isProtocol : pair.1 = protocolScope
  · obtain ⟨scope, token⟩ := pair
    obtain rfl := isProtocol
    have held : (left.balances.get? (protocolScope, token)).isSome ↔
        (right.balances.get? (protocolScope, token)).isSome := by
      rw [leftStanding.held, rightStanding.held]
      refine exists_congr fun account => and_congr_right fun isAccount => ?_
      rw [(same (account, token)).balance isAccount]
    have amounts := balance_protocol_eq_of_sameOn leftStanding rightStanding same token
    unfold balance Table.getD at amounts
    cases leftHeld : left.balances.get? (protocolScope, token) <;>
      cases rightHeld : right.balances.get? (protocolScope, token) <;>
        simp_all
  · exact (same pair).balance isProtocol

/-- Ledgers of standing that hold the same for each account and token have the same
active accounts. -/
theorem mem_activeAccounts_iff_of_sameOn (leftStanding : left.Standing)
    (rightStanding : right.Standing) (same : ∀ pair, SameOn pair left right)
    (account : Scope) : account ∈ left.activeAccounts ↔ account ∈ right.activeAccounts := by
  rw [leftStanding.active, rightStanding.active]
  refine and_congr_right fun isAccount => ?_
  rw [totals_eq_of_balances fun token => (same (account, token)).balance isAccount]

end Ledger

namespace ChainFollower

/-- Two followers hold the same, apart from the versions of deposits and from the
order in which tables and lists were written. -/
structure Agrees (left right : ChainFollower) : Prop where
  period : left.ledger.period = right.ledger.period
  balances : ∀ pair, left.ledger.balances.get? pair = right.ledger.balances.get? pair
  deposits : ∀ id, (left.ledger.deposits.get? id).map Deposit.unversioned =
    (right.ledger.deposits.get? id).map Deposit.unversioned
  withdrawals : ∀ id, left.ledger.withdrawals.get? id = right.ledger.withdrawals.get? id
  eras : ∀ token, left.ledger.eras.get? token = right.ledger.eras.get? token
  grownStalkPerSeason : left.ledger.grownStalkPerSeason = right.ledger.grownStalkPerSeason
  activeAccounts : ∀ account,
    account ∈ left.ledger.activeAccounts ↔ account ∈ right.ledger.activeAccounts
  lastSeen : ∀ pair, left.lastSeen.get? pair = right.lastSeen.get? pair

/-- The followers that events lead to from the empty ledger, refused ones included, as
long as none names the protocol as an account.  A ledger may be taken over by a
follower that has seen no event. -/
inductive Reached : ChainFollower → Prop where
  | start (v31Period : Option Int) : Reached (.ofLedger (.empty v31Period))
  | apply {follower : ChainFollower} {event : Event} (reached : Reached follower)
      (indirect : ∀ token, event.pair? ≠ some (protocolScope, token)) :
      Reached (follower.apply event).2
  | takeOver {follower : ChainFollower} (reached : Reached follower) :
      Reached (.ofLedger follower.ledger)

theorem Reached.standing {follower : ChainFollower} (reached : follower.Reached) :
    follower.ledger.Standing := by
  induction reached with
  | start v31Period => exact Ledger.standing_empty v31Period
  | apply _ indirect ih => exact standing_apply ih indirect
  | takeOver _ ih => exact ih

variable {follower : ChainFollower} {first second : List Event} {scheme : Token → KeyScheme}
  {usable : Token → DepositKey → Prop}

section TwoOrders

variable (ready : follower.Ready scheme usable)
  (firstWithin : ∀ event ∈ first, event.Within usable)
  (secondWithin : ∀ event ∈ second, event.Within usable)
  (sameStreams : ∀ pair, first.filter (fun event => event.pair? = some pair) =
    second.filter (fun event => event.pair? = some pair))

include ready firstWithin secondWithin sameStreams

/-- With the same streams, each event has the same effect. -/
theorem filter_effects_eq (pair : Scope × Token) :
    (follower.effects first).filter (fun effect => effect.event.pair? = some pair) =
      (follower.effects second).filter (fun effect => effect.event.pair? = some pair) := by
  have same : SameOn pair follower follower := .refl pair follower
  rw [(follow_sameOn_filter same ready ready firstWithin).2, sameStreams,
    (follow_sameOn_filter same ready ready secondWithin).2]

theorem follow_sameOn_follow (pair : Scope × Token) :
    SameOn pair (follower.follow first) (follower.follow second) := by
  have same : SameOn pair follower follower := .refl pair follower
  have alone := (follow_sameOn_filter same ready ready firstWithin).1
  rw [sameStreams] at alone
  exact alone.trans (follow_sameOn_filter same ready ready secondWithin).1.symm

theorem effects_perm : (follower.effects first).Perm (follower.effects second) := by
  have keyed : ∀ {events : List Event}, (∀ event ∈ events, event.Within usable) →
      ∀ effect ∈ follower.effects events, effect.event.pair?.isSome := by
    intro events within effect inside
    have happened : effect.event ∈ events := by
      rw [← follower.map_event_effects events]
      exact List.mem_map_of_mem inside
    obtain ⟨pair, naming, -⟩ := (within effect.event happened).named
    rw [naming]
    rfl
  exact perm_of_filter_key?_eq (fun effect => effect.event.pair?) (keyed firstWithin)
    (keyed secondWithin) (filter_effects_eq ready firstWithin secondWithin sameStreams)

/-- With the same streams, followers agree in the end. -/
theorem follow_agrees : (follower.follow first).Agrees (follower.follow second) := by
  have same := follow_sameOn_follow ready firstWithin secondWithin sameStreams
  have perm := effects_perm ready firstWithin secondWithin sameStreams
  have firstReady := ready.follow firstWithin
  have secondReady := ready.follow secondWithin
  have named : ∀ {events : List Event}, (∀ event ∈ events, event.Within usable) →
      ∀ event ∈ events, event.pair?.isSome := by
    intro events within event inside
    obtain ⟨pair, naming, -⟩ := (within event inside).named
    rw [naming]
    rfl
  have sameLedger : ∀ pair, Ledger.SameOn pair (follower.follow first).ledger
      (follower.follow second).ledger := fun pair => (same pair).ledger
  refine {
    period := ?_
    balances := Ledger.get?_balances_eq_of_sameOn firstReady.standing secondReady.standing
      sameLedger
    deposits := fun id => (sameLedger (id.account, id.token)).deposits id.key
    withdrawals := fun id => (sameLedger (id.account, id.token)).withdrawals id.season
    eras := fun token => ?_
    grownStalkPerSeason := ?_
    activeAccounts := Ledger.mem_activeAccounts_iff_of_sameOn firstReady.standing
      secondReady.standing sameLedger
    lastSeen := fun pair => (same pair).seen }
  · rw [period_follow (named firstWithin), period_follow (named secondWithin)]
    have events := perm.map EventEffect.event
    rw [map_event_effects, map_event_effects] at events
    refine events.foldl_eq' (fun one _ other _ period => ?_) _
    omega
  · have unset : (follower.follow first).ledger.eras.get? token = none ↔
        (follower.follow second).ledger.eras.get? token = none := by
      rw [eras_follow_eq_none_iff (named firstWithin), eras_follow_eq_none_iff (named secondWithin)]
      refine and_congr_right fun _ => forall_congr' fun effect => ?_
      rw [perm.mem_iff]
    rcases firstReady.keyed token with firstSet | ⟨firstUnset, -⟩
    · rcases secondReady.keyed token with secondSet | ⟨secondUnset, -⟩
      · rw [firstSet, secondSet]
      · rw [unset.mpr secondUnset, secondUnset]
    · rw [firstUnset, unset.mp firstUnset]
  · rw [grownStalkPerSeason_follow, grownStalkPerSeason_follow, (perm.map _).sum_eq]

end TwoOrders

/-- From every follower that events lead to, two interleavings of streams of events, one
stream for each account and token and none for the protocol, have the same effects and
lead to followers that agree, refused events included, if the keys used for each token
without an era are of one scheme. -/
theorem interleavings_agree (reached : follower.Reached)
    {streams : Scope × Token → List Event}
    (named : ∀ pair, ∀ event ∈ streams pair, event.pair? = some pair)
    (accounts : ∀ token, streams (protocolScope, token) = [])
    (schemes : ∀ token, (follower.ledger.era? token).isSome ∨
      ∃ scheme, ∀ pair, ∀ event ∈ streams pair, ∀ key,
        event.key? = some (token, key) → key.scheme = scheme)
    (firstOrder : Interleaving streams first) (secondOrder : Interleaving streams second) :
    (∀ pair, (follower.effects first).filter (fun effect => effect.event.pair? = some pair) =
      (follower.effects second).filter (fun effect => effect.event.pair? = some pair)) ∧
    (follower.follow first).Agrees (follower.follow second) := by
  let usable : Token → DepositKey → Prop := fun token key =>
    ∃ pair, ∃ event ∈ streams pair, event.key? = some (token, key)
  have keyed : ∃ scheme, follower.ledger.Keyed scheme usable := by
    have each : ∀ token, ∃ scheme, follower.ledger.eras.get? token = some scheme ∨
        follower.ledger.eras.get? token = none ∧
          ∀ key, usable token key → key.scheme = scheme := by
      intro token
      cases set : follower.ledger.eras.get? token with
      | some scheme => exact ⟨scheme, .inl rfl⟩
      | none =>
          rcases schemes token with isSet | ⟨scheme, fits⟩
          · simp [Ledger.era?, set] at isSet
          · refine ⟨scheme, .inr ⟨rfl, ?_⟩⟩
            rintro key ⟨pair, event, inside, used⟩
            exact fits pair event inside key used
    exact Classical.skolem.mp each
  obtain ⟨scheme, keyed⟩ := keyed
  have ready : follower.Ready scheme usable := ⟨reached.standing, keyed⟩
  have within : ∀ {events : List Event}, Interleaving streams events →
      ∀ event ∈ events, event.Within usable := by
    intro events drawn event inside
    obtain ⟨pair, there⟩ := drawn.mem_stream inside
    refine ⟨⟨pair, named pair event there, ?_⟩, fun token key used => ⟨pair, event, there, used⟩⟩
    intro isProtocol
    have empty := accounts pair.2
    rw [← isProtocol] at empty
    simp [empty] at there
  have sameStreams : ∀ pair, first.filter (fun event => event.pair? = some pair) =
      second.filter (fun event => event.pair? = some pair) := by
    intro pair
    rw [firstOrder.filter_eq named, secondOrder.filter_eq named]
  exact ⟨filter_effects_eq ready (within firstOrder) (within secondOrder) sameStreams,
    follow_agrees ready (within firstOrder) (within secondOrder) sameStreams⟩

/-- Four streams with a refusal by the balances, a late event and a key of the wrong
scheme.  In the second order the deposit of `"0xa"` is put after the period has moved
on and so gets another version. -/
theorem refused_and_late_streams_agree :
    let whitelisted : Event := ⟨⟨1, 1⟩, .whitelist "0xt" 1 2000000 none none false⟩
    let held : Event := ⟨⟨1, 2⟩, .deposit ⟨"0xa", "0xt", .season 1⟩ 100 100⟩
    let start := (((ofLedger (.empty (some 5))).apply whitelisted).2.apply held).2
    let put : Event := ⟨⟨2, 3⟩, .deposit ⟨"0xa", "0xs", .stem 7⟩ 10 10⟩
    let taken : Event := ⟨⟨3, 4⟩, .withdraw ⟨"0xa", "0xt", .season 1⟩ 40 none⟩
    let mismatched : Event := ⟨⟨3, 5⟩, .deposit ⟨"0xa", "0xt", .stem 3⟩ 1 1⟩
    let overdrawn : Event := ⟨⟨6, 5⟩, .deposit ⟨"0xb", "0xs", .stem 9⟩ (-5) (-5)⟩
    let late : Event := ⟨⟨4, 1⟩, .moveStalk "0xb" "0xs" 8 8⟩
    let claimed : Event := ⟨⟨6, 6⟩, .markClaimed ⟨"0xb", "0xt", 4⟩⟩
    let first := [put, taken, overdrawn, late, mismatched, claimed]
    let second := [overdrawn, taken, claimed, mismatched, late, put]
    let streams := fun pair => first.filter fun event => event.pair? = some pair
    start.Reached ∧ Interleaving streams first ∧ Interleaving streams second ∧
      (start.follow first).Agrees (start.follow second) ∧
      ((start.follow first).ledger.depositAt ⟨"0xa", "0xs", .stem 7⟩ 0).version = .v3 ∧
      ((start.follow second).ledger.depositAt ⟨"0xa", "0xs", .stem 7⟩ 0).version = .v31 ∧
      ((start.effects first).filter fun effect => effect.result ≠ .ok ()).length = 3 := by
  intro whitelisted held start put taken mismatched overdrawn late claimed first second streams
  have reached : start.Reached := by
    refine .apply (.apply (.start (some 5)) fun token => ?_) fun token => ?_
    · exact nofun
    · simp [Event.pair?, Event.operation, held, EventAction.operation, Operation.pair?,
        protocolScope]
  have ofAccounts : ∀ event ∈ first, event.pair?.map Prod.fst ≠ some protocolScope := by decide
  have stems : ∀ event ∈ first,
      event.key?.all fun use => use.1 = "0xt" || use.2.scheme = .stem := by decide
  have firstOrder : Interleaving streams first := .of_filter_eq (by decide) fun _ => rfl
  have secondOrder : Interleaving streams second :=
    .of_reordered (by decide) (by decide) (by decide)
  refine ⟨reached, firstOrder, secondOrder, (interleavings_agree reached ?_ ?_ ?_ firstOrder
    secondOrder).2, by decide +kernel, by decide +kernel, by decide +kernel⟩
  · intro pair event inside
    simpa using (List.mem_filter.mp inside).2
  · intro token
    refine List.filter_eq_nil_iff.mpr fun event inside isProtocol => ?_
    rw [decide_eq_true_eq] at isProtocol
    exact ofAccounts event inside (by rw [isProtocol]; rfl)
  · intro token
    by_cases isSet : token = "0xt"
    · exact .inl (by rw [isSet]; decide +kernel)
    · refine .inr ⟨.stem, ?_⟩
      intro pair event inside key used
      have stem := stems event (List.mem_filter.mp inside).1
      simpa [used, isSet] using stem

end ChainFollower

end DepositYield
