import DepositYield.Ledger.Operation

/-!
# Events

Events come from the chain, already decoded, and are applied to the ledger one
after the other.  For each account and token, an event that comes before the
last one applied is refused, since deposits and withdrawals do not commute.
-/

namespace DepositYield

/-- What an event does. -/
inductive EventAction where
  | deposit (id : DepositId) (amount value : Int)
  /-- Events of the season era give no value. -/
  | withdraw (id : DepositId) (amount : Int) (value : Option Int)
  | moveStalk (account : Scope) (token : Token) (stalk roots : Int)
  | moveSeeds (account : Scope) (token : Token) (seeds : Int)
  | queueWithdrawal (id : WithdrawalId) (amount : Int)
  | markClaimed (id : WithdrawalId)
  /-- Legacy events give the stalk per season without decimals, the others the
  stalk issued per small unit of value. -/
  | whitelist (token : Token) (stalkIssuedPerValue stalkEarnedPerSeason : Int)
      (gaugePoints optimalPercent : Option Int) (legacy : Bool)
  | dewhitelist (token : Token)
  | setStalkPerSeason (token : Token) (season stalkEarnedPerSeason : Int)
  | configureGauge (token : Token) (gaugePoints optimalPercent : Option Int) (pointRule : String)
  | germinate (token : Token) (value : Int)
  | finishGermination (token : Token)
  deriving DecidableEq, Repr

/-- An event and its place in the order of the chain. -/
structure Event where
  position : ChainPosition
  action : EventAction
  deriving DecidableEq, Repr

/-- A ledger that follows the chain, and the last position seen for each
account and token. -/
structure ChainFollower where
  ledger : Ledger
  lastSeen : Table (Scope × Token) ChainPosition

namespace EventAction

/-- The stalk issued per value of tokens whitelisted by legacy events: one
stalk. -/
def legacyStalkIssued : Int := 10000000000

/-- The factor between the units of whitelisting events and of the ledger. -/
def whitelistUnit : Int := 1000000

/-- The account and token whose events have to come in order, if the event has
one. -/
def orderedPair? : EventAction → Option (Scope × Token)
  | .deposit id _ _ => some (id.account, id.token)
  | .withdraw id _ _ => some (id.account, id.token)
  | .moveStalk account token _ _ => some (account, token)
  | .moveSeeds account token _ => some (account, token)
  | .queueWithdrawal id _ => some (id.account, id.token)
  | _ => none

/-- The settings of a token that a whitelisting event gives. -/
def whitelistSetting (position : ChainPosition)
    (stalkIssuedPerValue stalkEarnedPerSeason : Int) (gaugePoints optimalPercent : Option Int)
    (legacy : Bool) : TokenSetting :=
  { TokenSetting.unregistered with
    stalkIssuedPerValue :=
      if legacy then legacyStalkIssued else stalkIssuedPerValue * whitelistUnit
    stalkEarnedPerSeason :=
      if legacy then stalkEarnedPerSeason * whitelistUnit else stalkEarnedPerSeason
    gaugePoints
    optimalPercent
    milestoneSeason := position.period }

/-- The operation on the ledger that an event stands for. -/
def operation (position : ChainPosition) : EventAction → Operation
  | .deposit id amount value => .putDeposit id amount value position.timestamp
  | .withdraw id amount value => .takeDeposit id amount value position.timestamp
  | .moveStalk account token stalk roots =>
      .moveStalk account token stalk roots position.timestamp
  | .moveSeeds account token seeds => .moveSeeds account token seeds position.timestamp
  | .queueWithdrawal id amount => .queueWithdrawal id amount position.timestamp
  | .markClaimed id => .markClaimed id
  | .whitelist token issued earned gaugePoints optimalPercent legacy =>
      .whitelist token
        (whitelistSetting position issued earned gaugePoints optimalPercent legacy)
        position.timestamp
  | .dewhitelist token => .dewhitelist token
  | .setStalkPerSeason token season earned =>
      .setStalkPerSeason token season earned position.timestamp
  | .configureGauge token gaugePoints optimalPercent pointRule =>
      .configureGauge token gaugePoints optimalPercent pointRule position.timestamp
  | .germinate token value => .germinate token position.period value
  | .finishGermination token => .finishGermination token position.period

end EventAction

namespace ChainFollower

/-- A follower that has seen no event. -/
def ofLedger (ledger : Ledger) : ChainFollower where
  ledger := ledger
  lastSeen := ∅

/-- The follower with another ledger. -/
def withLedger (follower : ChainFollower) (ledger : Ledger) : ChainFollower :=
  { follower with ledger }

/-- Move the ledger on to the period of an event that lies ahead. -/
def advance (follower : ChainFollower) (period : Int) : ChainFollower :=
  if follower.ledger.period < period then
    follower.withLedger { follower.ledger with period }
  else
    follower

/-- Note the position of an event, unless it comes before the last one of its
account and token. -/
def notePosition (follower : ChainFollower) (event : Event) :
    Except LedgerFailure ChainFollower :=
  match event.action.orderedPair? with
  | none => .ok follower
  | some pair =>
      let noted := { follower with lastSeen := follower.lastSeen.set pair event.position }
      match follower.lastSeen.get? pair with
      | none => .ok noted
      | some last =>
          if event.position.before last then
            .error (.outOfOrder pair.1 pair.2 event.position last)
          else
            .ok noted

/-- Apply one event.  The period moves on even if the event is refused. -/
def apply (follower : ChainFollower) (event : Event) :
    Except LedgerFailure Unit × ChainFollower :=
  let advanced := follower.advance event.position.period
  match advanced.notePosition event with
  | .error failure => (.error failure, advanced)
  | .ok noted =>
      let outcome := (event.action.operation event.position).perform noted.ledger
      (outcome.result.map fun _ => (), noted.withLedger outcome.ledger)

/-- Apply events in order, up to the first that is refused.  The result is
their number. -/
def applyAll (follower : ChainFollower) : List Event → Except LedgerFailure Nat × ChainFollower
  | [] => (.ok 0, follower)
  | event :: events =>
      match follower.apply event with
      | (.error failure, next) => (.error failure, next)
      | (.ok (), next) =>
          let (result, last) := next.applyAll events
          (result.map (· + 1), last)

end ChainFollower

end DepositYield
