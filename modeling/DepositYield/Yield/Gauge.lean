import DepositYield.Decimal.Scaled
import DepositYield.Decimal.Written
import DepositYield.Gauge.Points
import DepositYield.Yield.Failure

/-!
# Yields under the seed gauge

Depositors of several assets are followed through the seasons against one
silo.  In each season

* the seed ratio drifts;
* value that germinates becomes live, in the first two seasons;
* with several gauge tokens, gauge points are rebalanced;
* the silo grows stalk, so that a new deposit catches up with the average one
  after `catchUpRate` seasons, and the gauge points share that growth out as
  seeds;
* depositors earn beans by their stalk, except while they germinate, and stalk
  by their seeds.

The silo moves on without regard to the depositors, so the season is split into
a step of the silo and one of each depositor.
-/

namespace DepositYield

open Decimal

/-- What a depositor holds. -/
inductive Asset where
  /-- The bean. -/
  | reference
  /-- A whitelisted token without gauge points, with fixed seeds. -/
  | nonGauge
  /-- The gauge token of the given position. -/
  | gauge (position : Nat)
  deriving DecidableEq, Repr

namespace Asset

/-- The number by which an asset is named. -/
def index : Asset → Int
  | .reference => -1
  | .nonGauge => -2
  | .gauge position => position

/-- The asset that a number names in a silo with `count` gauge tokens. -/
def ofIndex (count : Nat) (index : Int) : Except YieldFailure Asset :=
  if count ≤ index ∨ index < -2 then .error (.unknownAsset index count)
  else if index = -2 then .ok .nonGauge
  else if index = -1 then .ok .reference
  else .ok (.gauge index.toNat)

end Asset

/-- What a simulation under the seed gauge looks up as it goes.  Lists over gauge
tokens follow one order.  Germinating value is given for even and for odd
seasons. -/
structure GaugeTerms where
  /-- The assets to follow, by number. -/
  assets : List Int
  optimalPercents : List Written
  season : Int
  germinatingBean : List Written
  /-- Nothing germinates when the list is empty. -/
  germinatingGauge : List (List Written)
  germinatingNonGauge : List Written
  /-- The seeds of each asset; only those of non-gauge assets count.  There are
  none when the list is empty. -/
  staticSeeds : List (Option Written)
  /-- Points are left as they are when the list is empty. -/
  pointRules : List PointRule

/-- A simulation under the seed gauge: what it starts from and what it looks up. -/
structure GaugeScenario extends GaugeTerms where
  /-- Beans minted to the silo per season. -/
  earnedBeans : Decimal
  catchUpRate : Decimal
  gaugePoints : List Decimal
  gaugeValues : List Decimal
  initialRatio : Decimal
  beanValue : Decimal
  nonGaugeValue : Decimal
  siloStalk : Decimal

/-- A scenario whose start is given by decimals that have not been read. -/
structure WrittenScenario extends GaugeTerms where
  earnedBeans : Written
  catchUpRate : Written
  gaugePoints : List Written
  gaugeValues : List Written
  initialRatio : Written
  beanValue : Written
  nonGaugeValue : Written
  siloStalk : Written

/-- The silo at the start of a season. -/
structure SiloState where
  ratio : Decimal
  beanValue : Decimal
  gaugeTokenValues : List Decimal
  points : List Decimal
  pointsPerValue : List Decimal
  largestPointsPerValue : Decimal
  nonGaugeValue : Decimal
  /-- The value of beans and gauge tokens. -/
  gaugeValue : Decimal
  totalValue : Decimal
  totalStalk : Decimal
  deriving DecidableEq, Repr

/-- What a season of the silo means to its depositors. -/
structure SeasonGrowth where
  grownStalk : Decimal
  pointTotal : Decimal
  beanSeeds : Decimal
  pointsPerValue : List Decimal
  totalStalk : Decimal
  deriving DecidableEq, Repr

/-- A depositor at the start of a season.  A depositor begins with one unit of
value, in beans or in another token. -/
structure Depositor where
  asset : Asset
  /-- The fixed seeds, `none` when the scenario does not reach that far. -/
  staticSeeds : Option Written
  beans : Decimal
  tokens : Decimal
  stalk : Decimal
  deriving DecidableEq, Repr

/-- The yield of an asset, in percent. -/
structure AssetGrowth where
  asset : Asset
  growth : Growth
  deriving DecidableEq, Repr

namespace GaugeScenario

/-- The number of gauge tokens. -/
def tokenCount (scenario : GaugeScenario) : Nat :=
  scenario.gaugePoints.length

/-- The assets to follow. -/
def resolveAssets (scenario : GaugeScenario) : Except YieldFailure (List Asset) :=
  scenario.assets.mapM (Asset.ofIndex scenario.tokenCount)

/-- The position of the germinating value that becomes live: the one opposite
to the parity of the season. -/
def bucket (scenario : GaugeScenario) : Nat :=
  if scenario.season % 2 = 0 then 1 else 0

/-- An entry of a list of a scenario. -/
def entry {α : Type} (values : List α) (position : Nat) : Except YieldFailure α :=
  match values[position]? with
  | some value => .ok value
  | none => .error .missingEntry

/-- The decimal of an entry of a list of a scenario. -/
def decimalEntry (values : List Written) (position : Nat) : Except YieldFailure Decimal := do
  (← entry values position).read

/-- The germinating value of the gauge tokens, in either bucket. -/
def germinatingTokens (scenario : GaugeScenario) : List (List Written) :=
  if scenario.germinatingGauge.isEmpty then
    let nothing := List.replicate scenario.tokenCount (.value zero)
    [nothing, nothing]
  else
    scenario.germinatingGauge

/-- The point rules of the gauge tokens. -/
def rules (scenario : GaugeScenario) : List PointRule :=
  if scenario.pointRules.isEmpty then
    List.replicate scenario.tokenCount .identity
  else
    scenario.pointRules

/-- The fixed seeds of the depositor at a position. -/
def seedsAt (scenario : GaugeScenario) (position : Nat) : Option Written :=
  if scenario.staticSeeds.isEmpty then some (.value zero)
  else (scenario.staticSeeds[position]?).map fun seeds => seeds.getD (.value zero)

/-- The depositors before the first season. -/
def depositors (scenario : GaugeScenario) (assets : List Asset) : List Depositor :=
  assets.mapIdx fun position asset =>
    let isBean := asset = .reference
    { asset
      staticSeeds := scenario.seedsAt position
      beans := if isBean then one else zero
      tokens := if isBean then zero else one
      stalk := one }

/-- The gauge points of tokens per unit of value. -/
def quotients (context : Context) (points values : List Decimal) :
    Except Signal (List Decimal) :=
  (points.zip values).mapM fun (points, value) => context.divOrZero points value

/-- The silo before the first season. -/
def initial (context : Context) (scenario : GaugeScenario) : Except Signal SiloState := do
  let pointsPerValue ← quotients context scenario.gaugePoints scenario.gaugeValues
  let gaugeValue ← context.add scenario.beanValue (← context.sum scenario.gaugeValues)
  let totalValue ← context.add gaugeValue scenario.nonGaugeValue
  let largestPointsPerValue ← greatest pointsPerValue
  return {
    ratio := scenario.initialRatio
    beanValue := scenario.beanValue
    gaugeTokenValues := scenario.gaugeValues
    points := scenario.gaugePoints
    pointsPerValue
    largestPointsPerValue
    nonGaugeValue := scenario.nonGaugeValue
    gaugeValue
    totalValue
    totalStalk := scenario.siloStalk }

/-! ## A season of the silo -/

/-- Add germinating value to the first `count` gauge tokens. -/
def matureTokens (context : Context) : Nat → List Decimal → List Written →
    Except YieldFailure (List Decimal)
  | 0, values, _ => .ok values
  | count + 1, value :: values, germinating :: rest => do
      let matured ← context.add value (← germinating.read)
      return matured :: (← matureTokens context count values rest)
  | _, _, _ => .error .missingEntry

/-- Germinating value becomes live. -/
def mature (context : Context) (scenario : GaugeScenario) (state : SiloState) :
    Except YieldFailure SiloState := do
  let beanValue ← context.add state.beanValue
    (← decimalEntry scenario.germinatingBean scenario.bucket)
  let germinating ←
    if scenario.tokenCount = 0 then pure [] else entry scenario.germinatingTokens scenario.bucket
  let gaugeTokenValues ←
    matureTokens context scenario.tokenCount state.gaugeTokenValues germinating
  let gaugeValue ← context.add beanValue (← context.sum gaugeTokenValues)
  let nonGaugeValue ← context.add state.nonGaugeValue
    (← decimalEntry scenario.germinatingNonGauge scenario.bucket)
  let totalValue ← context.add gaugeValue nonGaugeValue
  return { state with beanValue, gaugeTokenValues, gaugeValue, nonGaugeValue, totalValue }

/-- The new points of one gauge token, and its points per unit of value. -/
def rebalanceToken (context : Context) (scenario : GaugeScenario) (state : SiloState)
    (valueSum : Decimal) (position : Nat) : Except YieldFailure (Decimal × Decimal) := do
  let value ← entry state.gaugeTokenValues position
  let percent ← context.mul (← context.divOrZero value valueSum) hundred
  let rule ← entry scenario.rules position
  let points ← entry state.points position
  let moved ←
    rule.apply context points percent (← decimalEntry scenario.optimalPercents position)
  return (moved, ← context.divOrZero moved value)

/-- The gauge points of all gauge tokens move by their rules. -/
def rebalance (context : Context) (scenario : GaugeScenario) (state : SiloState) :
    Except YieldFailure SiloState := do
  let valueSum ← context.sum state.gaugeTokenValues
  let moved ← (List.range scenario.tokenCount).mapM (rebalanceToken context scenario state valueSum)
  let pointsPerValue := moved.map Prod.snd
  return { state with
    points := moved.map Prod.fst
    pointsPerValue
    largestPointsPerValue := ← greatest pointsPerValue }

/-- The seed ratio of a season. -/
def driftRatio (context : Context) (drift : RatioDrift) (season : Nat) (state : SiloState) :
    Except Signal SiloState := do
  return { state with ratio := ← moveRatio context state.ratio (drift state.ratio season) }

/-- The gauge points per unit of value of the bean: a scaled share of the largest
ones of the gauge tokens. -/
def beanPointsPerValue (context : Context) (state : SiloState) (scaledRatio : Decimal) :
    Except Signal Decimal :=
  context.mul state.largestPointsPerValue scaledRatio

/-- The growth of stalk in a season, and the silo after it. -/
def grow (context : Context) (scenario : GaugeScenario) (seedScale : Decimal) (state : SiloState)
    (scaledRatio : Decimal) : Except Signal (SiloState × SeasonGrowth) := do
  let beanPoints ← beanPointsPerValue context state scaledRatio
  let pointTotal ← context.add (← context.sum state.points)
    (← context.mul beanPoints state.beanValue)
  let averageGrowth ← context.sub (← context.divOr state.totalStalk state.totalValue one) one
  let grownStalk ← context.mul (← context.div averageGrowth scenario.catchUpRate) state.gaugeValue
  let beanSeeds ← context.mul
    (← context.mul (← context.divOrZero grownStalk pointTotal) beanPoints) seedScale
  let totalStalk ← context.add (← context.add state.totalStalk grownStalk) scenario.earnedBeans
  let gaugeValue ← context.add state.gaugeValue scenario.earnedBeans
  let totalValue ← context.add state.totalValue scenario.earnedBeans
  let beanValue ← context.add state.beanValue scenario.earnedBeans
  return (
    { state with totalStalk, gaugeValue, totalValue, beanValue },
    { grownStalk, pointTotal, beanSeeds, pointsPerValue := state.pointsPerValue, totalStalk })

/-- The seasons in which new value germinates. -/
def germinationSeasons : Nat := 2

/-- One season of the silo. -/
def seasonStep (context : Context) (scenario : GaugeScenario) (drift : RatioDrift)
    (seedScale : Decimal) (season : Nat) (state : SiloState) :
    Except YieldFailure (SiloState × SeasonGrowth) := do
  let drifted ← driftRatio context drift season state
  let scaledRatio ← scaleRatio context drifted.ratio
  let matured ←
    if season < germinationSeasons then mature context scenario drifted else pure drifted
  let balanced ←
    if 1 < scenario.tokenCount then rebalance context scenario matured else pure matured
  grow context scenario seedScale balanced scaledRatio

end GaugeScenario

/-! ## A season of a depositor -/

namespace Depositor

/-- The seeds of the token that a depositor holds besides beans. -/
def tokenSeeds (context : Context) (seedScale : Decimal) (growth : SeasonGrowth)
    (depositor : Depositor) : Except YieldFailure Decimal :=
  match depositor.asset with
  | .reference => pure zero
  | .nonGauge =>
      match depositor.staticSeeds with
      | some seeds => seeds.read
      | none => .error .missingEntry
  | .gauge position => do
      let stalkPerPoint ← context.divOrZero growth.grownStalk growth.pointTotal
      let pointsPerValue ← GaugeScenario.entry growth.pointsPerValue position
      context.mul (← context.mul stalkPerPoint pointsPerValue) seedScale

/-- The beans that a depositor earns in a season; none while new value
germinates. -/
def beanShare (context : Context) (earnedBeans : Decimal) (season : Nat) (growth : SeasonGrowth)
    (depositor : Depositor) : Except Signal Decimal := do
  if season < GaugeScenario.germinationSeasons then
    return zero
  else
    context.divOrZero (← context.mul earnedBeans depositor.stalk) growth.totalStalk

/-- One season of a depositor. -/
def seasonStep (context : Context) (earnedBeans seedScale : Decimal) (season : Nat)
    (growth : SeasonGrowth) (depositor : Depositor) : Except YieldFailure Depositor := do
  let tokenSeeds ← depositor.tokenSeeds context seedScale growth
  let share ← depositor.beanShare context earnedBeans season growth
  let shared ← context.add depositor.stalk share
  let seeds ← context.add (← context.mul depositor.beans growth.beanSeeds)
    (← context.mul depositor.tokens tokenSeeds)
  let stalk ← context.add shared (← context.div seeds seedScale)
  let beans ← context.add depositor.beans share
  return { depositor with stalk, beans }

/-- The yield of a depositor, in percent. -/
def assetGrowth (context : Context) (depositor : Depositor) : Except Signal AssetGrowth := do
  let value ← context.add depositor.beans depositor.tokens
  let bean ← context.mul (← context.sub value one) hundred
  let stalk ← context.mul (← context.sub depositor.stalk one) hundred
  return { asset := depositor.asset, growth := { bean, stalk } }

end Depositor

/-! ## Whole simulations -/

namespace GaugeScenario

/-- A number of seasons in a row, counted from `season` on. -/
def run (context : Context) (scenario : GaugeScenario) (drift : RatioDrift) (seedScale : Decimal)
    (season : Nat) : Nat → SiloState → List Depositor →
    Except YieldFailure (List Depositor)
  | 0, _, depositors => .ok depositors
  | seasons + 1, state, depositors => do
      let (next, growth) ← seasonStep context scenario drift seedScale season state
      let advanced ← depositors.mapM
        (Depositor.seasonStep context scenario.earnedBeans seedScale season growth)
      run context scenario drift seedScale (season + 1) seasons next advanced

/-- The seed precision of simulations that are given none. -/
def defaultSeedPrecision : Int := 10000

/-- The yields of the given assets, in percent and in the given order. -/
def simulateAssets (context : Context) (scenario : GaugeScenario) (assets : List Asset)
    (drift : RatioDrift) (seasons : Nat) (seedPrecision : Int) :
    Except YieldFailure (List AssetGrowth) := do
  let seedScale := Decimal.ofInt seedPrecision
  let state ← scenario.initial context
  let final ← run context scenario drift seedScale 0 seasons state (scenario.depositors assets)
  final.mapM fun depositor => liftM (depositor.assetGrowth context)

/-- The yields of the tracked assets, in percent and in their order. -/
def simulate (scenario : GaugeScenario) (drift : RatioDrift) (seasons : Nat) (precision : Int)
    (seedPrecision : Int) : Except YieldFailure (List AssetGrowth) := do
  let assets ← scenario.resolveAssets
  let context ← YieldFailure.context precision
  scenario.simulateAssets context assets drift seasons seedPrecision

end GaugeScenario

namespace WrittenScenario

/-- The scenario, once its decimals are read.  Gauge points are divided by values as
soon as both are read. -/
def read (context : Context) (written : WrittenScenario) : Except Signal GaugeScenario := do
  let earnedBeans ← written.earnedBeans.read
  let catchUpRate ← written.catchUpRate.read
  let gaugePoints ← written.gaugePoints.mapM Written.read
  let gaugeValues ← written.gaugeValues.mapM Written.read
  discard (GaugeScenario.quotients context gaugePoints gaugeValues)
  return {
    toGaugeTerms := written.toGaugeTerms
    earnedBeans
    catchUpRate
    gaugePoints
    gaugeValues
    initialRatio := ← written.initialRatio.read
    beanValue := ← written.beanValue.read
    nonGaugeValue := ← written.nonGaugeValue.read
    siloStalk := ← written.siloStalk.read }

/-- The yields of the tracked assets.  The assets and the precision are checked
before any decimal is read. -/
def simulate (written : WrittenScenario) (drift : RatioDrift) (seasons : Nat) (precision : Int)
    (seedPrecision : Int) : Except YieldFailure (List AssetGrowth) := do
  let assets ← written.assets.mapM (Asset.ofIndex written.gaugePoints.length)
  let context ← YieldFailure.context precision
  let scenario ← written.read context
  scenario.simulateAssets context assets drift seasons seedPrecision

end WrittenScenario

end DepositYield
