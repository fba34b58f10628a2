import DepositYield.Proofs.Yield.Shape
import DepositYield.Proofs.Yield.SingleToken

/-!
# A gauge token of which there is nothing

Beside several gauge tokens, a token of which there is nothing changes no yield.  Beside a
single one it sets the refreshing of points per value off.  It changes no yield there either if
the value that germinates leaves the rounded points per value of the single token as they are.
-/

namespace DepositYield

open Decimal Decimal.Context

variable {context : Context}

/-! ## A season -/

namespace GaugeScenario

variable {scenario : GaugeScenario} {token : GaugeToken} {points value : Decimal}
  {drift : RatioDrift} {left right : SiloState} {seasons season : Nat}
  (precise : 0 < context.precision) (fits : scenario.FitsIdentity) (empty : token.IsEmpty)

include precise fits empty

/-- Beside a single token whose weight is kept, to refresh the weights changes none. -/
theorem rebalance_beside_single (keeps : scenario.KeepsWeight context seasons)
    (within : season < seasons) (tracks : Tracks context scenario (season + 1) left)
    (widened : left.Widened scenario.tokenCount right) (alone : scenario.tokenCount = 1) :
    Alike (SiloState.Widened scenario.tokenCount) (.ok left)
      (rebalance context (scenario.withToken token points value) right) := by
  have refreshes :
      Alike (SiloState.Widened scenario.tokenCount) (rebalance context scenario left)
        (rebalance context (scenario.withToken token points value) right) :=
    rebalance_alike precise fits empty widened
  obtain ⟨points, value, germinating, single⟩ := exists_single fits alone
  obtain ⟨pointsAmount, -, -⟩ := single.amounts fits
  obtain ⟨isPoints, ⟨matured, isValue, -, isNumber, sinceFirst⟩,
    ⟨weight, isWeight, isLargest, isQuotient, weightResult⟩⟩ :=
    tracks points value germinating single
  -- nothing matures after the second season, whose weight is the one to keep from then on
  have kept := keeps points value germinating single (min season 1) (by omega)
    (by unfold germinationSeasons; omega)
  have count : min (season + 1) germinationSeasons = min season 1 + 1 := by
    unfold germinationSeasons
    omega
  rw [count] at isNumber sinceFirst
  obtain ⟨refreshed, sameWeight, rebalanced⟩ := rebalance_single precise single fits
    pointsAmount.finite isPoints isValue (sinceFirst (by omega)) weightResult
    (by rw [isQuotient, isNumber, kept])
  rw [rebalanced] at refreshes
  generalize rebalance context (scenario.withToken token _ _) right = outcome at refreshes ⊢
  cases refreshes with
  | values refreshedWidened =>
      refine .values { refreshedWidened with
        points := isPoints ▸ refreshedWidened.points
        pointsPerValue := ?_
        largestPointsPerValue := ?_
        pointAmounts := isPoints ▸ refreshedWidened.pointAmounts
        weights := widened.weights }
      · rw [isWeight]
        exact .of_same (.cons sameWeight .nil) refreshedWidened.pointsPerValue
      · rw [isLargest]
        exact sameWeight.trans refreshedWidened.largestPointsPerValue
  | excuseRight isExcused => exact absurd isExcused not_false

/-- With the new token weights are refreshed, also those of a token that is single without it. -/
theorem balance_alike (keeps : scenario.KeepsWeight context seasons) (within : season < seasons)
    (tracks : Tracks context scenario (season + 1) left)
    (widened : left.Widened scenario.tokenCount right) :
    Alike
      (fun balanced other => balanced.Widened scenario.tokenCount other ∧
        (scenario.tokenCount = 1 → balanced = left))
      (balance context scenario left)
      (balance context (scenario.withToken token points value) right) := by
  have present := fits.present
  have more : 1 < (scenario.withToken token points value).tokenCount := by
    rw [tokenCount_withToken]
    omega
  unfold balance
  rw [if_pos more]
  by_cases several : 1 < scenario.tokenCount
  · rw [if_pos several]
    apply (rebalance_alike precise fits empty widened).mono
    intro balanced other balancedWidened
    exact ⟨balancedWidened, fun alone => absurd alone several.ne'⟩
  · rw [if_neg several]
    have alone : scenario.tokenCount = 1 := by omega
    have untouched : Gives (fun balanced => scenario.tokenCount = 1 → balanced = left)
        (.ok left : Except YieldFailure SiloState) :=
      fun _ => rfl
    exact (rebalance_beside_single precise fits empty keeps within tracks widened
      alone).and_left untouched

omit precise fits empty in
theorem driftRatio_alike (widened : left.Widened scenario.tokenCount right) :
    Alike
      (fun drifted other => ∃ ratio : Decimal, ratio.IsAmount ∧
        drifted = { left with ratio } ∧ other = { right with ratio })
      (driftRatio context drift season left) (driftRatio context drift season right) := by
  unfold driftRatio
  rw [← widened.ratio]
  apply (Coincide.same_of_gives (moveRatio_amounts left.ratio (drift left.ratio season))).bind
  rintro ratio _ ⟨rfl, amount⟩
  exact .values ⟨ratio, amount, rfl, rfl⟩

theorem seasonStep_alike (keeps : scenario.KeepsWeight context seasons)
    (within : season < seasons) (tracks : Tracks context scenario season left)
    (widened : left.Widened scenario.tokenCount right) {seedScale : Decimal}
    (scale : seedScale.isFinite) :
    Alike
      (fun next other => next.1.Widened scenario.tokenCount other.1 ∧
        next.2.Widened scenario.tokenCount other.2 ∧
        Tracks context scenario (season + 1) next.1)
      (seasonStep context scenario drift seedScale season left)
      (seasonStep context (scenario.withToken token points value) drift seedScale season
        right) := by
  rw [seasonStep_eq, seasonStep_eq]
  apply (driftRatio_alike widened).lift.bind
  rintro _ _ ⟨ratio, amount, rfl, rfl⟩
  apply (Alike.lift (Coincide.same_of_gives (scaleRatio_amounts precise amount))).bind
  rintro scaledRatio _ ⟨rfl, scaledAmount⟩
  have driftedWidened : { left with ratio }.Widened scenario.tokenCount { right with ratio } :=
    { widened with ratio := rfl }
  have driftedTracks : Tracks context scenario season { left with ratio } :=
    fun points value germinating single => { tracks points value germinating single with }
  have matures : Alike (SiloState.Widened scenario.tokenCount)
      (matureIn context scenario season { left with ratio })
      (matureIn context (scenario.withToken token points value) season { right with ratio }) := by
    unfold matureIn
    by_cases early : season < germinationSeasons
    · rw [if_pos early, if_pos early]
      exact mature_alike precise fits empty driftedWidened
    · rw [if_neg early, if_neg early]
      exact .values driftedWidened
  apply (matures.and_left (matureIn_tracks precise fits driftedTracks)).bind
  rintro matured other ⟨maturedWidened, maturedTracks⟩
  apply (balance_alike precise fits empty keeps within maturedTracks maturedWidened).bind
  rintro balanced otherBalanced ⟨balancedWidened, untouched⟩
  apply (grow_alike precise fits balancedWidened scale scaledAmount.finite).lift.mono
  rintro next otherNext ⟨nextWidened, growthWidened, _, _, _, _, isNext⟩
  refine ⟨nextWidened, growthWidened, ?_⟩
  intro points value germinating single
  have matured := maturedTracks points value germinating single
  rw [← untouched single.tokenCount] at matured
  rw [isNext]
  exact { matured with }

/-! ## Whole simulations -/

theorem run_alike (keeps : scenario.KeepsWeight context seasons) {seedScale : Decimal}
    (scale : seedScale.isFinite) {remaining : Nat} (within : season + remaining ≤ seasons)
    (tracks : Tracks context scenario season left)
    (widened : left.Widened scenario.tokenCount right) {depositors others : List Depositor}
    (each : List.Forall₂ (Depositor.Widened scenario.tokenCount) depositors others) :
    Alike (List.Forall₂ (Depositor.Widened scenario.tokenCount))
      (run context scenario drift seedScale season remaining left depositors)
      (run context (scenario.withToken token points value) drift seedScale season remaining right
        others) := by
  induction remaining generalizing season left right depositors others with
  | zero => exact .values each
  | succ remaining ih =>
      apply (seasonStep_alike precise fits empty keeps (by omega) tracks widened scale).bind
      rintro ⟨next, growth⟩ ⟨otherNext, otherGrowth⟩ ⟨nextWidened, growthWidened, nextTracks⟩
      have moved : List.Forall₂
          (fun depositor other => Alike (Depositor.Widened scenario.tokenCount)
            (depositor.seasonStep context scenario.earnedBeans seedScale season growth)
            (other.seasonStep context scenario.earnedBeans seedScale season otherGrowth))
          depositors others :=
        each.imp fun _ _ depositorWidened =>
          Depositor.seasonStep_alike precise depositorWidened growthWidened
            fits.finite.earnedBeans scale season
      apply (Coincide.mapM moved).bind
      intro advanced otherAdvanced advancedEach
      exact ih (by omega) nextTracks nextWidened advancedEach

theorem simulateAssets_alike (pointsZero : points.DenotesZero) (valueZero : value.DenotesZero)
    (keeps : scenario.KeepsWeight context seasons) {assets : List Asset}
    (among : ∀ asset ∈ assets, asset.Within scenario.tokenCount) (seedPrecision : Int) :
    Alike (List.Forall₂ AssetGrowth.SameValues)
      (scenario.simulateAssets context assets drift seasons seedPrecision)
      ((scenario.withToken token points value).simulateAssets context assets drift seasons
        seedPrecision) := by
  have openings : List.Forall₂ (Depositor.Widened scenario.tokenCount)
      (scenario.depositors assets) (scenario.depositors assets) := by
    rw [List.forall₂_same]
    intro depositor inside
    obtain ⟨position, isPosition, rfl⟩ := List.mem_mapIdx.mp inside
    exact Depositor.opening_widened (among _ (List.getElem_mem isPosition))
      (fun _ => seedsAt_gives isFinite_zero fits.finite.staticSeeds)
  apply ((initial_alike precise fits pointsZero valueZero).lift.and_left
    (initial_tracks precise fits).lift).bind
  rintro state other ⟨widened, tracks⟩
  apply (run_alike precise fits empty keeps (isFinite_ofInt seedPrecision)
    (Nat.zero_add seasons).le tracks widened openings).bind
  intro final otherFinal each
  exact Coincide.mapM (each.imp fun _ _ widened =>
    (Depositor.assetGrowth_alike precise widened).lift)

end GaugeScenario

/-! ## Scenarios as they are given -/

namespace WrittenScenario

variable {written : WrittenScenario} {token : GaugeToken} {drift : RatioDrift} {seasons : Nat}
  {precision seedPrecision : Int}

/-- A given scenario in finite decimals whose gauge tokens, of which there is at least one, have
amounts of points and value. -/
structure FitsIdentity (written : WrittenScenario) : Prop where
  finite : written.IsFinite
  terms : written.toGaugeTerms.FitIdentity written.gaugePoints.length
  present : 0 < written.gaugePoints.length
  pointAmounts : ∀ points ∈ written.gaugePoints, points.ReadsAmount
  valueAmounts : Filled Written.ReadsAmount written.gaugePoints.length written.gaugeValues

/-- Once it is read, the scenario keeps the weight of a single gauge token. -/
def KeepsWeight (written : WrittenScenario) (seasons : Nat) (precision : Int) : Prop :=
  ∀ context scenario, YieldFailure.context precision = .ok context →
    written.read context = .ok scenario → scenario.KeepsWeight context seasons

/-- A single gauge token has no points, or has a value of no more digits than the precision and
nothing of it becomes live. -/
def IsStill (written : WrittenScenario) (precision : Int) : Prop :=
  ∀ context scenario points value germinating, YieldFailure.context precision = .ok context →
    written.read context = .ok scenario → scenario.Single points value germinating →
      points.toRat = 0 ∨
        germinating.toRat = 0 ∧ context.rounded value.toRat = value.toRat

/-- One more token at the end of a list is read after the others. -/
theorem readTokens_alike {tokens : List Written} (amounts : ∀ token ∈ tokens, token.ReadsAmount)
    {last : Written} {decimal : Decimal} (read : last.read = .ok decimal) :
    Alike (fun values others => Filled IsAmount tokens.length values ∧ others = values ++ [decimal])
      (tokens.mapM Written.read) ((tokens ++ [last]).mapM Written.read) := by
  have filled : Gives (Filled IsAmount tokens.length) (tokens.mapM Written.read) :=
    (Settles.mapM amounts).mono fun _ => Filled.of_forall₂
  have alone : [last].mapM Written.read = .ok [decimal] :=
    mapM_eq_ok_iff.mpr (.cons read .nil)
  rw [List.mapM_append, alone]
  generalize tokens.mapM Written.read = outcome at filled ⊢
  cases outcome with
  | error failure => exact .failures failure
  | ok values => exact .values ⟨filled, rfl⟩

theorem read_withToken (precise : 0 < context.precision) (fits : written.FitsIdentity)
    {noPoints noValue : Decimal} (readPoints : token.points.read = .ok noPoints)
    (readValue : token.value.read = .ok noValue) (pointsZero : noPoints.DenotesZero)
    (valueZero : noValue.DenotesZero) :
    Alike
      (fun scenario other => (∀ value ∈ scenario.gaugePoints, value.IsAmount) ∧
        Filled IsAmount scenario.tokenCount scenario.gaugeValues ∧
        scenario.tokenCount = written.gaugePoints.length ∧
        scenario.toGaugeTerms = written.toGaugeTerms ∧
        other = scenario.withToken token noPoints noValue)
      (written.read context) ((written.withToken token).read context) := by
  apply Coincide.bind_same
  intro earnedBeans
  apply Coincide.bind_same
  intro catchUpRate
  apply (readTokens_alike fits.pointAmounts readPoints).bind
  rintro gaugePoints _ ⟨points, rfl⟩
  apply (readTokens_alike fits.valueAmounts.each readValue).bind
  rintro gaugeValues _ ⟨values, rfl⟩
  rw [fits.valueAmounts.length] at values
  have divides := GaugeScenario.quotients_alike precise
    (.concat (fun value inside => (points.each value inside).finite) pointsZero)
    (.concat (fun value inside => (values.each value inside).finite) valueZero)
    (points.length.trans values.length.symm)
  apply divides.discard.bind
  intro _ _ _
  apply Coincide.bind_same
  intro initialRatio
  apply Coincide.bind_same
  intro beanValue
  apply Coincide.bind_same
  intro nonGaugeValue
  apply Coincide.bind_same
  intro siloStalk
  rw [← points.length] at values
  exact .values ⟨points.each, values, points.length, rfl, rfl⟩

theorem read_alike (precise : 0 < context.precision) (fits : written.FitsIdentity)
    (empty : token.IsEmpty) :
    Alike
      (fun scenario other => scenario.FitsIdentity ∧
        scenario.tokenCount = written.gaugePoints.length ∧
        ∃ points value : Decimal, points.DenotesZero ∧ value.DenotesZero ∧
          other = scenario.withToken token points value)
      (written.read context) ((written.withToken token).read context) := by
  obtain ⟨noPoints, readPoints, pointsZero⟩ := empty.points
  obtain ⟨noValue, readValue, valueZero⟩ := empty.value
  have finite : Gives GaugeScenario.IsFinite (written.read context) :=
    (read_gives fits.finite (Settles.any _)).mono fun _ => And.left
  apply ((read_withToken precise fits readPoints readValue pointsZero valueZero).and_left
    finite).mono
  rintro scenario _ ⟨⟨points, values, count, terms, rfl⟩, scenarioFinite⟩
  refine ⟨?_, count, noPoints, noValue, pointsZero, valueZero, rfl⟩
  exact {
    finite := scenarioFinite
    terms := by rw [terms, count]; exact fits.terms
    present := count ▸ fits.present
    pointAmounts := points
    valueAmounts := values }

/-- The tracked assets are found with the new token as without it. -/
theorem resolve_withToken {assets : List Int} {count : Nat}
    (tracked : ∀ index ∈ assets, -2 ≤ index ∧ index < count) :
    Alike (fun found other => found = other ∧ ∀ asset ∈ found, asset.Within count)
      (assets.mapM (Asset.ofIndex count)) (assets.mapM (Asset.ofIndex (count + 1))) := by
  have each : List.Forall₂
      (fun index other => Alike (fun found other => found = other ∧ found.Within count)
        (Asset.ofIndex count index) (Asset.ofIndex (count + 1) other)) assets assets := by
    rw [List.forall₂_same]
    intro index inside
    obtain ⟨above, below⟩ := tracked index inside
    have same : Asset.ofIndex (count + 1) index = Asset.ofIndex count index := by
      have known : ¬(count ≤ index ∨ index < -2) := by omega
      have stillKnown : ¬((count + 1 : Nat) ≤ index ∨ index < -2) := by omega
      rw [Asset.ofIndex, Asset.ofIndex, if_neg known, if_neg stillKnown]
    rw [same]
    exact Coincide.same_of_gives (GaugeScenario.ofIndex_reports count index).gives
  apply (Coincide.mapM each).mono
  intro found other related
  constructor
  · rw [← List.forall₂_eq_eq_eq]
    exact related.imp fun _ _ => And.left
  · intro asset inside
    obtain ⟨_, -, -, within⟩ := exists_mem_of_forall₂ related inside
    exact within

theorem simulate_alike (fits : written.FitsIdentity) (empty : token.IsEmpty)
    (keeps : written.gaugePoints.length = 1 → written.KeepsWeight seasons precision) :
    Alike (List.Forall₂ AssetGrowth.SameValues)
      (written.simulate drift seasons precision seedPrecision)
      ((written.withToken token).simulate drift seasons precision seedPrecision) := by
  have contexts : Gives
      (fun context => 0 < context.precision ∧ YieldFailure.context precision = .ok context)
      (YieldFailure.context precision) := by
    rw [gives_iff]
    intro context isContext
    exact ⟨gives_iff.mp (YieldFailure.context_gives precision) context isContext, isContext⟩
  have more : (written.withToken token).gaugePoints.length = written.gaugePoints.length + 1 :=
    List.length_append
  unfold simulate
  rw [more]
  apply (resolve_withToken fits.terms.assets).bind
  rintro assets _ ⟨rfl, among⟩
  apply (Coincide.same_of_gives contexts).bind
  rintro context _ ⟨rfl, precise, isContext⟩
  have isRead : Gives (written.read context = .ok ·) (written.read context) :=
    gives_iff.mpr fun _ => id
  apply (Alike.lift ((read_alike precise fits empty).and_left isRead)).bind
  rintro scenario _ ⟨⟨scenarioFits, count, points, value, pointsZero, valueZero, rfl⟩, read⟩
  have keepsWeight : scenario.KeepsWeight context seasons := by
    intro points value germinating single
    have alone : written.gaugePoints.length = 1 := count ▸ single.tokenCount
    exact keeps alone context scenario isContext read points value germinating single
  rw [← count] at among
  exact GaugeScenario.simulateAssets_alike precise scenarioFits empty pointsZero valueZero
    keepsWeight among seedPrecision

theorem keepsWeight_of_isStill (still : written.IsStill precision) :
    written.KeepsWeight seasons precision := by
  intro context scenario isContext isRead points value germinating single season _ _
  rcases still context scenario points value germinating isContext isRead single with
    noPoints | ⟨nothing, settled⟩
  · rw [noPoints, zero_div, zero_div]
  · rw [nothing, maturedValue_of_nothing settled]

/-- To put a token of which there is nothing beside gauge tokens whose points never move changes
no yield, and makes no simulation fail or succeed, if there are several tokens or the weight of
the single one is kept.  That is so if the single one has no points or nothing of it becomes
live. -/
theorem yields_beside_empty_token (fits : written.FitsIdentity) (empty : token.IsEmpty) :
    ((written.gaugePoints.length = 1 → written.KeepsWeight seasons precision) →
      Alike (List.Forall₂ AssetGrowth.SameValues)
        (written.simulate drift seasons precision seedPrecision)
        ((written.withToken token).simulate drift seasons precision seedPrecision)) ∧
    (written.IsStill precision → written.KeepsWeight seasons precision) :=
  ⟨simulate_alike fits empty, keepsWeight_of_isStill⟩

end WrittenScenario

/-- A gauge token of which there is nothing. -/
def noToken : GaugeToken where
  points := .value zero
  value := .value zero
  germinating := .value zero
  optimalPercent := .value zero

theorem noToken_isEmpty : noToken.IsEmpty :=
  have isZero : (Written.value zero).IsZero := ⟨zero, rfl, isFinite_zero, toRat_zero⟩
  ⟨isZero, isZero, isZero, isZero⟩

/-- A single gauge token whose value doubles in the first season. -/
def growingToken : GaugeScenario where
  assets := [0, -1]
  optimalPercents := [.value hundred]
  season := 3
  germinatingBean := [.value zero, .value zero]
  germinatingGauge := [[.value hundred], [.value zero]]
  germinatingNonGauge := [.value zero, .value zero]
  staticSeeds := []
  pointRules := []
  earnedBeans := .finite false 10 0
  catchUpRate := hundred
  gaugePoints := [hundred]
  gaugeValues := [hundred]
  initialRatio := .finite false 5 (-1)
  beanValue := hundred
  nonGaugeValue := zero
  siloStalk := .finite false 1000 0

theorem growingToken_fits : growingToken.written.FitsIdentity where
  finite := {
    optimalPercents := by decide
    germinatingBean := by decide
    germinatingGauge := by decide
    germinatingNonGauge := by decide
    staticSeeds := by intro seeds inside; cases inside
    pointRules := List.forall_mem_nil _
    earnedBeans := rfl
    catchUpRate := rfl
    gaugePoints := by decide
    gaugeValues := by decide
    initialRatio := rfl
    beanValue := rfl
    nonGaugeValue := rfl
    siloStalk := rfl }
  terms := {
    assets := by decide
    optimalPercents := .cons ⟨hundred, rfl, rfl⟩ .nil
    germinatingGauge := .inr (.cons (.cons ⟨hundred, rfl, isAmount_finite 100 0⟩ .nil)
      (.cons (.cons ⟨zero, rfl, isAmount_zero⟩ .nil) .nil))
    pointRules := .inl rfl }
  present := Nat.one_pos
  pointAmounts := by decide
  valueAmounts := ⟨rfl, by decide⟩

/-- The weight of the token halves beside the empty token, which lowers its yields. -/
theorem growingToken_loses_weight :
    growingToken.written.FitsIdentity ∧ noToken.IsEmpty ∧
      ∃ yields others,
        growingToken.written.simulate (.constant RatioDrift.defaultChange) 3 6 10000 =
          .ok yields ∧
        (growingToken.written.withToken noToken).simulate (.constant RatioDrift.defaultChange) 3 6
          10000 = .ok others ∧
        ¬List.Forall₂ AssetGrowth.SameValues yields others := by
  refine ⟨growingToken_fits, noToken_isEmpty,
    [⟨.gauge 0, .finite false 102300 (-5), .finite false 116380 (-4)⟩,
      ⟨.reference, .finite false 100500 (-5), .finite false 886400 (-5)⟩],
    [⟨.gauge 0, .finite false 99300 (-5), .finite false 671400 (-5)⟩,
      ⟨.reference, .finite false 98200 (-5), .finite false 522100 (-5)⟩],
    by decide +kernel, by decide +kernel, ?_⟩
  rintro (_ | ⟨first, -⟩)
  exact absurd first.stalk.value (by decide +kernel)

/-- The token a season later, when nothing of it germinates. -/
def restingToken : GaugeScenario :=
  { growingToken with season := 4 }

theorem restingToken_fits : restingToken.written.FitsIdentity :=
  { growingToken_fits with
    finite := { growingToken_fits.finite with }
    terms := { growingToken_fits.terms with } }

theorem restingToken_isStill : restingToken.written.IsStill 6 := by
  intro context scenario points value germinating isContext isRead single
  obtain rfl : { precision := 6 } = context := Except.ok.inj isContext
  rw [GaugeScenario.read_written] at isRead
  obtain ⟨_, -, isScenario⟩ := bind_eq_ok_iff.mp isRead
  obtain rfl := Except.ok.inj isScenario
  obtain ⟨written, isBucket, read⟩ := single.germinating
  obtain rfl : Written.value zero = written := List.singleton_inj.mp (Option.some_inj.mp isBucket)
  obtain rfl : zero = germinating := Except.ok.inj read
  obtain rfl : hundred = value := List.singleton_inj.mp single.value
  exact .inr ⟨toRat_zero, by decide +kernel⟩

/-- Then its yields are the same beside the empty token. -/
theorem restingToken_keeps_yields :
    ∃ yields others,
      restingToken.written.simulate (.constant RatioDrift.defaultChange) 3 6 10000 =
        .ok yields ∧
      (restingToken.written.withToken noToken).simulate (.constant RatioDrift.defaultChange) 3 6
        10000 = .ok others ∧
      List.Forall₂ AssetGrowth.SameValues yields others := by
  obtain ⟨yields, simulated⟩ := exists_ok_of_isOk
    (show (restingToken.written.simulate (.constant RatioDrift.defaultChange) 3 6 10000).isOk by
      decide +kernel)
  obtain ⟨unlessGrowing, keeps⟩ :=
    WrittenScenario.yields_beside_empty_token restingToken_fits noToken_isEmpty
  have alike := unlessGrowing fun _ => keeps restingToken_isStill
  rw [simulated] at alike
  generalize (restingToken.written.withToken noToken).simulate _ _ _ _ = outcome at alike ⊢
  cases alike with
  | values same => exact ⟨yields, _, simulated, rfl, same⟩
  | excuseRight isExcused => exact absurd isExcused not_false

end DepositYield
