import DepositYield.Proofs.Settling
import DepositYield.Yield.Gauge

/-!
# Depositors do not influence each other

The silo goes through its seasons without regard to the depositors, and each depositor
is followed through the growths of these seasons on its own.  So a simulation of several
assets succeeds exactly if the silo gets through its seasons and each asset can be
followed through them, and the yield of an asset is the one that it has alone.
-/

namespace DepositYield

open Decimal

/-- Arithmetic inside a model succeeds with the value of the arithmetic. -/
theorem liftM_eq_ok_iff {Value : Type} {calculation : Except Signal Value} {value : Value} :
    (liftM calculation : Except YieldFailure Value) = .ok value ↔ calculation = .ok value := by
  change calculation.mapError YieldFailure.signal = .ok value ↔ calculation = .ok value
  cases calculation <;> simp [Except.mapError]

/-! ## One depositor -/

namespace Depositor

/-- A depositor before the first season. -/
def opening (asset : Asset) (staticSeeds : Option Written) : Depositor where
  asset
  staticSeeds
  beans := if asset = .reference then one else zero
  tokens := if asset = .reference then zero else one
  stalk := one

/-- A later depositor has the asset, the fixed seeds and the tokens of the earlier one. -/
structure Keeps (earlier later : Depositor) : Prop where
  asset : later.asset = earlier.asset
  staticSeeds : later.staticSeeds = earlier.staticSeeds
  tokens : later.tokens = earlier.tokens

/-- A depositor after seasons of the given growths in a row, counted from `season` on. -/
def follow (context : Context) (earnedBeans seedScale : Decimal) (season : Nat) :
    List SeasonGrowth → Depositor → Except YieldFailure Depositor
  | [], depositor => .ok depositor
  | growth :: later, depositor => do
      let next ← depositor.seasonStep context earnedBeans seedScale season growth
      follow context earnedBeans seedScale (season + 1) later next

variable {context : Context} {earnedBeans seedScale : Decimal} {depositor : Depositor}

/-- A season changes beans and stalk only. -/
theorem seasonStep_keeps (season : Nat) (growth : SeasonGrowth) :
    Gives depositor.Keeps
      (depositor.seasonStep context earnedBeans seedScale season growth) := by
  rw [gives_iff]
  intro next stepped
  simp only [seasonStep, bind_eq_ok_iff] at stepped
  obtain ⟨_, -, _, -, _, -, _, -, _, -, _, -, _, -, _, -, _, -, made⟩ := stepped
  obtain rfl := Except.ok.inj made
  exact ⟨rfl, rfl, rfl⟩

/-- Seasons change beans and stalk only. -/
theorem follow_keeps (season : Nat) (growths : List SeasonGrowth) :
    Gives depositor.Keeps (depositor.follow context earnedBeans seedScale season growths) := by
  induction growths generalizing season depositor with
  | nil => exact ⟨rfl, rfl, rfl⟩
  | cons growth later ih =>
      apply (seasonStep_keeps season growth).bind
      intro next step
      apply (ih (season + 1)).mono
      intro final rest
      exact ⟨rest.asset.trans step.asset, rest.staticSeeds.trans step.staticSeeds,
        rest.tokens.trans step.tokens⟩

/-- The yield of a depositor over seasons of the given growths, in percent. -/
def measure (context : Context) (earnedBeans seedScale : Decimal) (growths : List SeasonGrowth)
    (depositor : Depositor) : Except YieldFailure AssetGrowth := do
  let final ← depositor.follow context earnedBeans seedScale 0 growths
  final.assetGrowth context

end Depositor

namespace GaugeScenario

/-! ## The silo alone -/

/-- The growths of a number of seasons in a row, counted from `season` on. -/
def growthsFrom (context : Context) (scenario : GaugeScenario) (drift : RatioDrift)
    (seedScale : Decimal) (season : Nat) :
    Nat → SiloState → Except YieldFailure (List SeasonGrowth)
  | 0, _ => .ok []
  | seasons + 1, state => do
      let (next, growth) ← seasonStep context scenario drift seedScale season state
      return growth :: (← growthsFrom context scenario drift seedScale (season + 1) seasons next)

/-- The growths of all seasons of a simulation. -/
def growths (context : Context) (scenario : GaugeScenario) (drift : RatioDrift) (seasons : Nat)
    (seedPrecision : Int) : Except YieldFailure (List SeasonGrowth) := do
  let state ← scenario.initial context
  growthsFrom context scenario drift (.ofInt seedPrecision) 0 seasons state

/-- The same silo, in which other assets are followed. -/
def following (scenario : GaugeScenario) (assets : List Int) (staticSeeds : List (Option Written)) :
    GaugeScenario :=
  { scenario with assets, staticSeeds }

variable {context : Context} {scenario : GaugeScenario} {drift : RatioDrift} {seasons : Nat}
  {seedPrecision : Int}

theorem growthsFrom_following (assets : List Int) (staticSeeds : List (Option Written))
    {seedScale : Decimal} {season : Nat} {state : SiloState} :
    growthsFrom context (scenario.following assets staticSeeds) drift seedScale season seasons
        state =
      growthsFrom context scenario drift seedScale season seasons state := by
  induction seasons generalizing season state with
  | zero => rfl
  | succ seasons ih =>
      unfold growthsFrom
      simp only [ih]
      rfl

/-- The growths of a silo do not depend on the assets that are followed. -/
theorem growths_following (assets : List Int) (staticSeeds : List (Option Written)) :
    (scenario.following assets staticSeeds).growths context drift seasons seedPrecision =
      scenario.growths context drift seasons seedPrecision := by
  unfold growths
  simp only [growthsFrom_following]
  rfl

/-! ## Simulations -/

/-- Depositors go through seasons together if the silo does and each of them can be followed
on its own. -/
theorem run_eq_ok_iff {seedScale : Decimal} {season : Nat} {state : SiloState}
    {depositors final : List Depositor} :
    run context scenario drift seedScale season seasons state depositors = .ok final ↔
      ∃ growths,
        growthsFrom context scenario drift seedScale season seasons state = .ok growths ∧
        List.Forall₂
          (fun depositor followed =>
            depositor.follow context scenario.earnedBeans seedScale season growths =
              .ok followed)
          depositors final := by
  induction seasons generalizing season state depositors with
  | zero =>
      constructor
      · intro same
        obtain rfl := Except.ok.inj same
        exact ⟨[], rfl, List.forall₂_same.mpr fun _ _ => rfl⟩
      · rintro ⟨growths, none, followed⟩
        obtain rfl := Except.ok.inj none
        simp only [Depositor.follow, Except.ok.injEq, List.forall₂_eq_eq_eq] at followed
        rw [followed]
        rfl
  | succ seasons ih =>
      -- to follow all depositors is to move them one season and to follow them from there
      have follows : ∀ growth later,
          List.Forall₂
              (fun depositor followed =>
                depositor.follow context scenario.earnedBeans seedScale season (growth :: later) =
                  .ok followed)
              depositors final ↔
            ∃ advanced,
              depositors.mapM (Depositor.seasonStep context scenario.earnedBeans seedScale season
                growth) = .ok advanced ∧
              List.Forall₂
                (fun depositor followed =>
                  depositor.follow context scenario.earnedBeans seedScale (season + 1) later =
                    .ok followed)
                advanced final := by
        intro growth later
        simp only [mapM_eq_ok_iff, ← forall₂_comp_iff, Depositor.follow, bind_eq_ok_iff]
        rfl
      simp only [run, growthsFrom, bind_eq_ok_iff, ih]
      constructor
      · rintro ⟨⟨next, growth⟩, stepped, advanced, moved, later, grown, followed⟩
        exact ⟨growth :: later, ⟨_, stepped, later, grown, rfl⟩,
          (follows growth later).mpr ⟨advanced, moved, followed⟩⟩
      · rintro ⟨_, ⟨⟨next, growth⟩, stepped, later, grown, made⟩, followed⟩
        obtain rfl := Except.ok.inj made
        obtain ⟨advanced, moved, rest⟩ := (follows growth later).mp followed
        exact ⟨_, stepped, advanced, moved, later, grown, rest⟩

/-- A simulation succeeds if the silo gets through its seasons and each depositor can be
measured by their growths. -/
theorem simulateAssets_eq_ok_iff {assets : List Asset} {yields : List AssetGrowth} :
    scenario.simulateAssets context assets drift seasons seedPrecision = .ok yields ↔
      ∃ growths, scenario.growths context drift seasons seedPrecision = .ok growths ∧
        List.Forall₂
          (fun depositor yield =>
            depositor.measure context scenario.earnedBeans (.ofInt seedPrecision) growths =
              .ok yield)
          (scenario.depositors assets) yields := by
  simp only [simulateAssets, growths, Depositor.measure, bind_eq_ok_iff, run_eq_ok_iff,
    mapM_eq_ok_iff]
  constructor
  · rintro ⟨state, started, final, ⟨growths, grown, followed⟩, measured⟩
    exact ⟨growths, ⟨state, started, grown⟩, forall₂_comp_iff.mpr ⟨final, followed, measured⟩⟩
  · rintro ⟨growths, ⟨state, started, grown⟩, measured⟩
    obtain ⟨final, followed, grew⟩ := forall₂_comp_iff.mp measured
    exact ⟨state, started, final, ⟨growths, grown, followed⟩, grew⟩

/-- The depositor of an asset depends on the asset and its seeds only. -/
theorem getElem?_depositors (assets : List Asset) (position : Nat) :
    (scenario.depositors assets)[position]? =
      assets[position]?.map fun asset => .opening asset (scenario.seedsAt position) :=
  List.getElem?_mapIdx

end GaugeScenario

/-! ## Scenarios as they are given -/

namespace GaugeScenario

/-- The scenario with its decimals as they are given. -/
def written (scenario : GaugeScenario) : WrittenScenario where
  toGaugeTerms := scenario.toGaugeTerms
  earnedBeans := .value scenario.earnedBeans
  catchUpRate := .value scenario.catchUpRate
  gaugePoints := scenario.gaugePoints.map .value
  gaugeValues := scenario.gaugeValues.map .value
  initialRatio := .value scenario.initialRatio
  beanValue := .value scenario.beanValue
  nonGaugeValue := .value scenario.nonGaugeValue
  siloStalk := .value scenario.siloStalk

theorem mapM_read_value (decimals : List Decimal) :
    (decimals.map Written.value).mapM Written.read = .ok decimals := by
  rw [mapM_eq_ok_iff, List.forall₂_map_left_iff, List.forall₂_same]
  exact fun _ _ => rfl

theorem read_written (context : Context) (scenario : GaugeScenario) :
    scenario.written.read context = do
      discard (quotients context scenario.gaugePoints scenario.gaugeValues)
      return scenario := by
  simp only [WrittenScenario.read, written, Written.read_value, mapM_read_value]
  rfl

/-- A scenario is simulated alike whether its decimals have been read or not. -/
theorem simulate_written (scenario : GaugeScenario) (drift : RatioDrift) (seasons : Nat)
    (precision seedPrecision : Int) :
    scenario.written.simulate drift seasons precision seedPrecision =
      scenario.simulate drift seasons precision seedPrecision := by
  have count : scenario.written.gaugePoints.length = scenario.tokenCount := List.length_map _
  simp only [WrittenScenario.simulate, simulate, resolveAssets, count, read_written]
  congr 1
  funext assets
  congr 1
  funext context
  -- points are divided by values while reading, and again before the first season
  cases found : quotients context scenario.gaugePoints scenario.gaugeValues with
  | error signal =>
      unfold simulateAssets initial
      rw [found]
      rfl
  | ok pointsPerValue => rfl

end GaugeScenario

/-! ## Assets alone -/

/-- There are no fixed seeds at all, or some for every asset. -/
def GaugeTerms.SeedsMatch (terms : GaugeTerms) : Prop :=
  terms.staticSeeds = [] ∨ terms.assets.length ≤ terms.staticSeeds.length

namespace GaugeScenario

variable {context : Context} {scenario : GaugeScenario} {drift : RatioDrift} {seasons : Nat}
  {seedPrecision : Int}

/-- The same silo, in which only the asset at a position is followed. -/
def alone (scenario : GaugeScenario) (position : Nat) : GaugeScenario :=
  scenario.following scenario.assets[position]?.toList scenario.staticSeeds[position]?.toList

/-- An asset that is alone keeps its seeds. -/
theorem seedsAt_alone (matched : scenario.SeedsMatch) {position : Nat}
    (inside : position < scenario.assets.length) :
    (scenario.alone position).seedsAt 0 = scenario.seedsAt position := by
  unfold alone following seedsAt
  rcases matched with none | enough
  · rw [none]
    rfl
  · have held := List.getElem?_eq_getElem (Nat.lt_of_lt_of_le inside enough)
    have present : scenario.staticSeeds ≠ [] := List.ne_nil_of_length_pos (by omega)
    rw [held]
    simp [present]

/-- The yield of an asset among others is its yield alone. -/
theorem simulateAssets_alone (matched : scenario.SeedsMatch) {assets : List Asset}
    (resolved : assets.length = scenario.assets.length) {yields : List AssetGrowth}
    (simulated :
      scenario.simulateAssets context assets drift seasons seedPrecision = .ok yields)
    {position : Nat} {yield : AssetGrowth} (held : yields[position]? = some yield) :
    ∃ asset, assets[position]? = some asset ∧
      (scenario.alone position).simulateAssets context [asset] drift seasons seedPrecision =
        .ok [yield] := by
  obtain ⟨growths, grown, measured⟩ := simulateAssets_eq_ok_iff.mp simulated
  obtain ⟨depositor, isDepositor, measures⟩ := exists_getElem?_of_forall₂ measured.flip held
  rw [getElem?_depositors, Option.map_eq_some_iff] at isDepositor
  obtain ⟨asset, isAsset, rfl⟩ := isDepositor
  refine ⟨asset, isAsset, simulateAssets_eq_ok_iff.mpr ⟨growths, ?_, ?_⟩⟩
  · exact (growths_following _ _).trans grown
  · have inside : position < scenario.assets.length :=
      resolved ▸ (List.getElem?_eq_some_iff.mp isAsset).1
    rw [← seedsAt_alone matched inside] at measures
    exact .cons measures .nil

end GaugeScenario

namespace WrittenScenario

variable {drift : RatioDrift} {seasons : Nat} {precision seedPrecision : Int}

/-- The same silo, in which other assets are followed. -/
def following (written : WrittenScenario) (assets : List Int)
    (staticSeeds : List (Option Written)) : WrittenScenario :=
  { written with assets, staticSeeds }

/-- The same silo, in which only the asset at a position is followed. -/
def alone (written : WrittenScenario) (position : Nat) : WrittenScenario :=
  written.following written.assets[position]?.toList written.staticSeeds[position]?.toList

/-- The assets that are followed are read with the rest or not at all. -/
theorem read_following (context : Context) (written : WrittenScenario) (assets : List Int)
    (staticSeeds : List (Option Written)) :
    (written.following assets staticSeeds).read context =
      (fun scenario => scenario.following assets staticSeeds) <$> written.read context := by
  simp only [read, map_bind, map_pure]
  rfl

/-- The scenario that is read follows the assets that are given. -/
theorem following_of_read {context : Context} {written : WrittenScenario}
    {scenario : GaugeScenario} (read : written.read context = .ok scenario) :
    scenario.following written.assets written.staticSeeds = scenario := by
  have same := read_following context written written.assets written.staticSeeds
  change written.read context = _ at same
  rw [read] at same
  exact (Except.ok.inj same).symm

/-- The yield of an asset among others is its yield alone. -/
theorem simulate_alone_of_getElem? {written : WrittenScenario} (matched : written.SeedsMatch)
    {yields : List AssetGrowth}
    (simulated : written.simulate drift seasons precision seedPrecision = .ok yields)
    {position : Nat} {yield : AssetGrowth} (held : yields[position]? = some yield) :
    (written.alone position).simulate drift seasons precision seedPrecision = .ok [yield] := by
  simp only [simulate, bind_eq_ok_iff, mapM_eq_ok_iff, liftM_eq_ok_iff] at simulated ⊢
  obtain ⟨assets, resolved, context, precise, scenario, read, simulated⟩ := simulated
  have followed := following_of_read read
  have sameAssets : written.assets = scenario.assets := congrArg (·.assets) followed
  have sameSeeds : written.staticSeeds = scenario.staticSeeds :=
    congrArg (·.staticSeeds) followed
  have readAlone : (written.alone position).read context = .ok (scenario.alone position) := by
    unfold alone GaugeScenario.alone
    rw [read_following, read, sameAssets, sameSeeds]
    rfl
  obtain ⟨asset, isAsset, simulatedAlone⟩ := GaugeScenario.simulateAssets_alone
    (followed ▸ matched) (sameAssets ▸ resolved.length_eq.symm) simulated held
  obtain ⟨index, isIndex, named⟩ := exists_getElem?_of_forall₂ resolved.flip isAsset
  have onlyAsset : (written.alone position).assets = [index] := congrArg Option.toList isIndex
  refine ⟨[asset], ?_, context, precise, _, readAlone, simulatedAlone⟩
  rw [onlyAsset]
  exact .cons named .nil

/-- A simulation that succeeds gives one yield for each asset. -/
theorem length_of_simulate {written : WrittenScenario} {yields : List AssetGrowth}
    (simulated : written.simulate drift seasons precision seedPrecision = .ok yields) :
    yields.length = written.assets.length := by
  simp only [simulate, bind_eq_ok_iff, mapM_eq_ok_iff, liftM_eq_ok_iff] at simulated
  obtain ⟨assets, resolved, context, -, scenario, -, simulated⟩ := simulated
  obtain ⟨growths, -, measured⟩ := GaugeScenario.simulateAssets_eq_ok_iff.mp simulated
  rw [← measured.length_eq, resolved.length_eq]
  exact List.length_mapIdx

/-- If a simulation of several assets succeeds, so does that of each of them alone, with
the same yield.  So the yield of an asset is the same whatever assets it is simulated
with, in whatever order and however often, and by whatever rules the ratio drifts and the
gauge points move. -/
theorem yields_independent (written : WrittenScenario) (matched : written.SeedsMatch)
    (drift : RatioDrift) (seasons : Nat) (precision seedPrecision : Int)
    (yields : List AssetGrowth)
    (simulated : written.simulate drift seasons precision seedPrecision = .ok yields) :
    yields.length = written.assets.length ∧
      (∀ position yield, yields[position]? = some yield →
        (written.alone position).simulate drift seasons precision seedPrecision = .ok [yield]) ∧
      ∀ (assets : List Int) (staticSeeds : List (Option Written)) (others : List AssetGrowth),
        (written.following assets staticSeeds).SeedsMatch →
        (written.following assets staticSeeds).simulate drift seasons precision seedPrecision =
            .ok others →
          ∀ position place : Nat, assets[place]? = written.assets[position]? →
            staticSeeds[place]? = written.staticSeeds[position]? →
              others[place]? = yields[position]? := by
  refine ⟨length_of_simulate simulated, fun _ _ => simulate_alone_of_getElem? matched simulated,
    ?_⟩
  intro assets staticSeeds others otherMatched otherSimulated position place sameAsset sameSeeds
  have sameAlone : (written.following assets staticSeeds).alone place = written.alone position := by
    change written.following assets[place]?.toList staticSeeds[place]?.toList = _
    rw [sameAsset, sameSeeds]
    rfl
  have within : place < others.length ↔ position < yields.length := by
    rw [length_of_simulate simulated, length_of_simulate otherSimulated]
    change place < assets.length ↔ position < written.assets.length
    grind
  by_cases inside : position < yields.length
  · have held := List.getElem?_eq_getElem inside
    have otherHeld := List.getElem?_eq_getElem (within.mpr inside)
    have alone := simulate_alone_of_getElem? matched simulated held
    rw [← sameAlone, simulate_alone_of_getElem? otherMatched otherSimulated otherHeld] at alone
    rw [held, otherHeld, List.singleton_inj.mp (Except.ok.inj alone)]
  · rw [List.getElem?_eq_none (Nat.not_lt.mp inside),
      List.getElem?_eq_none (Nat.not_lt.mp fun outside => inside (within.mp outside))]

/-- A rule that takes half of the points of a token in each season. -/
def halvingRule : PointRule :=
  .custom fun context points _ _ => context.mul points (.finite false 5 (-1))

/-- A silo with a gauge token under the default rule and another one whose points are halved, in
which the bean, the first gauge token twice and a token without points are followed. -/
def mixedAssets : WrittenScenario where
  assets := [0, -1, -2, 0]
  optimalPercents := [.value (.finite false 60 0), .value (.finite false 40 0)]
  season := 4
  germinatingBean := [.value zero, .value one]
  germinatingGauge := []
  germinatingNonGauge := [.value zero, .value one]
  staticSeeds := [none, none, some (.value (.finite false 25 (-1))), none]
  pointRules := [.default, halvingRule]
  earnedBeans := .value (.finite false 7 0)
  catchUpRate := .value hundred
  gaugePoints := [.value hundred, .value (.finite false 8 0)]
  gaugeValues := [.value (.finite false 30 0), .value (.finite false 15 0)]
  initialRatio := .value (.finite false 5 (-1))
  beanValue := .value (.finite false 20 0)
  nonGaugeValue := .value (.finite false 10 0)
  siloStalk := .value (.finite false 90 0)

/-- The third asset has fixed seeds and takes them along when it is followed alone. -/
theorem mixedAssets_third_alone :
    ∃ yields, mixedAssets.simulate (.constant RatioDrift.defaultChange) 3 20 10000 = .ok yields ∧
      ∃ yield, yields[2]? = some yield ∧
        (mixedAssets.following [-2] [some (.value (.finite false 25 (-1)))]).simulate
          (.constant RatioDrift.defaultChange) 3 20 10000 = .ok [yield] := by
  have settled : (mixedAssets.simulate (.constant RatioDrift.defaultChange) 3 20
      10000).isOk := by decide +kernel
  obtain ⟨yields, simulated⟩ := exists_ok_of_isOk settled
  obtain ⟨all, alone, -⟩ := yields_independent mixedAssets (.inr (Nat.le_refl 4)) _ 3 20 10000
    yields simulated
  have third : 2 < yields.length := by
    rw [all]
    decide
  have held := List.getElem?_eq_getElem third
  exact ⟨yields, simulated, _, held, alone 2 _ held⟩

end WrittenScenario

end DepositYield
