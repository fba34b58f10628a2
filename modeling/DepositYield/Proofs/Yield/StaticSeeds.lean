import DepositYield.Proofs.Yield.Accrual

/-!
# More fixed seeds, more yield

Two depositors of one asset who differ in their fixed seeds are followed side by side.  The
one with no more seeds never has more stalk, so it never has a greater share of the minted
beans, and from then on it never has more beans either.  The silo goes through the same
seasons for both.
-/

namespace DepositYield

open Decimal Decimal.Context

variable {context : Context}

theorem AlsoGives.lift {First Second : Type} {related : First → Second → Prop}
    {left : Except Signal First} {right : Except Signal Second}
    (also : AlsoGives related left right) :
    AlsoGives related (liftM left : Except YieldFailure First) (liftM right) := by
  intro value given
  obtain ⟨other, isOther, areRelated⟩ := also value (liftM_eq_ok_iff.mp given)
  exact ⟨other, liftM_eq_ok_iff.mpr isOther, areRelated⟩

namespace Depositor

/-- The seeds of a token are no more than those of another one, whatever the season grows. -/
def SeedsAtMost (context : Context) (seedScale : Decimal) (lesser greater : Depositor) : Prop :=
  ∀ growth : SeasonGrowth, growth.HasAmounts →
    AlsoGives AmountAtMost (lesser.tokenSeeds context seedScale growth)
      (greater.tokenSeeds context seedScale growth)

/-- A depositor in amounts with no more seeds of tokens, beans and stalk than another one. -/
structure Trails (context : Context) (seedScale : Decimal) (lesser greater : Depositor) :
    Prop where
  lesserAmounts : lesser.HasAmounts context
  greaterAmounts : greater.HasAmounts context
  gains : lesser.Gains greater
  seeds : SeedsAtMost context seedScale lesser greater

variable {lesser greater depositor next : Depositor} {growth : SeasonGrowth}
  {earnedBeans seedScale : Decimal}

theorem tokenSeeds_eq_of_keeps (keeps : depositor.Keeps next) :
    next.tokenSeeds context seedScale growth = depositor.tokenSeeds context seedScale growth := by
  unfold tokenSeeds
  rw [keeps.asset, keeps.staticSeeds]

theorem Gains.beansAtMost (gains : lesser.Gains greater) (holds : lesser.HasAmounts context) :
    lesser.beans.AmountAtMost greater.beans :=
  ⟨gains.beans, holds.beans.nonneg⟩

theorem Gains.stalkAtMost (gains : lesser.Gains greater) (holds : lesser.HasAmounts context) :
    lesser.stalk.AmountAtMost greater.stalk :=
  ⟨gains.stalk, holds.stalk.nonneg⟩

variable (precise : 0 < context.precision)

include precise

section Season

variable (trails : lesser.Trails context seedScale greater) (grown : growth.HasAmounts)
  (earned : earnedBeans.IsAmount)

include trails grown earned

/-- Who has no more stalk has no greater share of the minted beans. -/
theorem beanShare_atMost (season : Nat) :
    AlsoGives AmountAtMost (lesser.beanShare context earnedBeans season growth)
      (greater.beanShare context earnedBeans season growth) := by
  unfold beanShare
  split
  · exact .values (.refl isAmount_zero)
  · apply (mul_atMost precise (.refl earned)
      (trails.gains.stalkAtMost trails.lesserAmounts)).bind
    intro claimed claimedGreater claimedAtMost
    exact divOrZero_atMost precise claimedAtMost grown.totalStalk

/-- Who trails still does after a season, and gets through it if the other one does. -/
theorem seasonStep_trails (scale : seedScale.IsAmount) (positive : 0 < seedScale.toRat)
    (season : Nat) :
    AlsoGives (Trails context seedScale)
      (lesser.seasonStep context earnedBeans seedScale season growth)
      (greater.seasonStep context earnedBeans seedScale season growth) := by
  have stalkAtMost := trails.gains.stalkAtMost trails.lesserAmounts
  have beansAtMost := trails.gains.beansAtMost trails.lesserAmounts
  have tokensAtMost : lesser.tokens.AmountAtMost greater.tokens :=
    trails.gains.tokens ▸ .refl trails.lesserAmounts.tokens
  have isPositive : seedScale.IsPositive := by
    rw [IsPositive, lt?_eq isFinite_zero scale.finite, toRat_zero, decide_eq_true positive]
  have gains : AlsoGives Gains
      (lesser.seasonStep context earnedBeans seedScale season growth)
      (greater.seasonStep context earnedBeans seedScale season growth) := by
    apply (trails.seeds growth grown).bind
    intro tokenSeeds greaterSeeds tokenSeedsAtMost
    apply (beanShare_atMost precise trails grown earned season).lift.bind
    intro share greaterShare shareAtMost
    apply (add_atMost precise stalkAtMost shareAtMost).lift.bind
    intro shared greaterShared sharedAtMost
    apply (mul_atMost precise beansAtMost (.refl grown.beanSeeds)).lift.bind
    intro seedsOfBeans greaterSeedsOfBeans seedsOfBeansAtMost
    apply (mul_atMost precise tokensAtMost tokenSeedsAtMost).lift.bind
    intro seedsOfTokens greaterSeedsOfTokens seedsOfTokensAtMost
    apply (add_atMost precise seedsOfBeansAtMost seedsOfTokensAtMost).lift.bind
    intro seeds greaterSeeds seedsAtMost
    apply (div_atMost precise seedsAtMost scale.finite positive).lift.bind
    intro grownStalk greaterGrownStalk grownStalkAtMost
    apply (add_atMost precise sharedAtMost grownStalkAtMost).lift.bind
    intro stalk greaterStalk newStalkAtMost
    apply (add_atMost precise beansAtMost shareAtMost).lift.bind
    intro beans greaterBeans newBeansAtMost
    exact .values ⟨trails.gains.asset, trails.gains.tokens, newBeansAtMost.toAtMost,
      newStalkAtMost.toAtMost⟩
  have lesserNext := seasonStep_gains precise trails.lesserAmounts grown earned scale isPositive
    season
  have greaterNext := seasonStep_gains precise trails.greaterAmounts grown earned scale isPositive
    season
  intro next given
  obtain ⟨lesserNext, isLesser, gains, ⟨⟨lesserAmounts, -⟩, lesserKeeps⟩,
    ⟨greaterAmounts, -⟩, greaterKeeps⟩ :=
    gains.and_gives (lesserNext.and (seasonStep_keeps season growth))
      (greaterNext.and (seasonStep_keeps season growth)) next given
  refine ⟨lesserNext, isLesser, lesserAmounts, greaterAmounts, gains, fun later laterAmounts => ?_⟩
  rw [tokenSeeds_eq_of_keeps lesserKeeps, tokenSeeds_eq_of_keeps greaterKeeps]
  exact trails.seeds later laterAmounts

omit grown in
/-- So it does after any number of seasons. -/
theorem follow_trails {growths : List SeasonGrowth}
    (grown : ∀ growth ∈ growths, growth.HasAmounts) (scale : seedScale.IsAmount)
    (positive : 0 < seedScale.toRat) (season : Nat) :
    AlsoGives (Trails context seedScale)
      (lesser.follow context earnedBeans seedScale season growths)
      (greater.follow context earnedBeans seedScale season growths) := by
  induction growths generalizing lesser greater season with
  | nil => exact .values trails
  | cons growth later ih =>
      rw [List.forall_mem_cons] at grown
      apply (seasonStep_trails precise trails grown.1 earned scale positive season).bind
      intro next greaterNext trailsNext
      exact ih trailsNext grown.2 (season + 1)

end Season

/-- What is above one keeps its order when one is taken away. -/
theorem gained_atMost {value more : Decimal}
    (atMost : value.AmountAtMost more) (whole : 1 ≤ value.toRat) :
    AlsoGives AmountAtMost (context.sub value one) (context.sub more one) := by
  refine (sub_calculates precise atMost.leftFinite isFinite_one).alsoGives precise
    (sub_calculates precise atMost.rightFinite isFinite_one) ?_ (sub_le_sub_right atMost.le _)
  rw [toRat_one]
  exact sub_nonneg.mpr whole

/-- Who trails has no greater yield. -/
theorem Trails.assetGrowth (trails : lesser.Trails context seedScale greater) :
    AlsoGives (fun less more => less.asset = more.asset ∧ less.growth.AtMost more.growth)
      (lesser.assetGrowth context) (greater.assetGrowth context) := by
  have holds := trails.lesserAmounts
  have tokensAtMost : lesser.tokens.AmountAtMost greater.tokens :=
    trails.gains.tokens ▸ .refl holds.tokens
  have hundredAtMost : hundred.AmountAtMost hundred := .refl (isAmount_finite 100 0)
  have wholeValue : Gives (fun value => 1 ≤ value.toRat)
      (context.add lesser.beans lesser.tokens) := by
    apply (add_amounts precise holds.beans holds.tokens).mono
    rintro value ⟨-, isValue⟩
    rw [isValue]
    exact le_rounded_of_settled precise (rounded_one precise) holds.wholeValue
  apply ((add_atMost precise (trails.gains.beansAtMost holds) tokensAtMost).and_gives wholeValue
    (Settles.any _)).bind
  rintro value more ⟨valueAtMost, whole, -⟩
  apply (gained_atMost precise valueAtMost whole).bind
  intro gained moreGained gainedAtMost
  apply (mul_atMost precise gainedAtMost hundredAtMost).bind
  intro bean moreBean beanAtMost
  apply (gained_atMost precise (trails.gains.stalkAtMost holds) holds.wholeStalk).bind
  intro gainedStalk moreStalk gainedStalkAtMost
  apply (mul_atMost precise gainedStalkAtMost hundredAtMost).bind
  intro stalk moreStalk stalkAtMost
  exact .values ⟨trails.gains.asset, beanAtMost.toAtMost, stalkAtMost.toAtMost⟩

/-- Who trails over the same seasons has no greater yield. -/
theorem Trails.measure (trails : lesser.Trails context seedScale greater)
    {growths : List SeasonGrowth} (grown : ∀ growth ∈ growths, growth.HasAmounts)
    (earned : earnedBeans.IsAmount) (scale : seedScale.IsAmount)
    (positive : 0 < seedScale.toRat) :
    AlsoGives (fun less more => less.asset = more.asset ∧ less.growth.AtMost more.growth)
      (lesser.measure context earnedBeans seedScale growths)
      (greater.measure context earnedBeans seedScale growths) := by
  apply (follow_trails precise trails earned grown scale positive 0).bind
  intro final greaterFinal finalTrails
  exact (finalTrails.assetGrowth precise).lift

omit precise in
/-- Depositors of one asset start alike, apart from the seeds of a token without gauge points. -/
theorem opening_trails (precise : 0 < context.precision) {asset : Asset}
    {few many : Option Written} (fewAmounts : ∀ seeds, few = some seeds → seeds.ReadsAmount)
    (manyAmounts : ∀ seeds, many = some seeds → seeds.ReadsAmount) (scale : seedScale.IsAmount)
    (ordered : asset = .nonGauge → ∀ more, many = some more →
      ∃ fewer, few = some fewer ∧ AlsoGives AmountAtMost fewer.read more.read) :
    (opening asset few).Trails context seedScale (opening asset many) := by
  have lesserAmounts := opening_amounts precise asset fewAmounts
  have greaterAmounts := opening_amounts precise asset manyAmounts
  refine ⟨lesserAmounts, greaterAmounts, ⟨rfl, rfl, .refl lesserAmounts.beans.finite,
    .refl lesserAmounts.stalk.finite⟩, fun growth grown => ?_⟩
  cases asset with
  | nonGauge =>
      cases many with
      | none => exact .of_error _ _
      | some more =>
          obtain ⟨fewer, rfl, also⟩ := ordered rfl more rfl
          exact also.lift
  | reference =>
      exact .same (tokenSeeds_amounts precise lesserAmounts grown scale) fun _ => .refl
  | gauge position =>
      exact .same (tokenSeeds_amounts precise lesserAmounts grown scale) fun _ => .refl

end Depositor

/-! ## Simulations -/

/-- The fixed seeds of all assets; none where no list of them is given. -/
def GaugeTerms.seedList (terms : GaugeTerms) : List (Option Written) :=
  if terms.staticSeeds.isEmpty then terms.assets.map fun _ => none else terms.staticSeeds

namespace GaugeScenario

/-- The same silo, in which the asset at a position has other fixed seeds. -/
def withSeeds (scenario : GaugeScenario) (position : Nat) (seeds : Option Written) :
    GaugeScenario :=
  scenario.following scenario.assets (scenario.seedList.set position seeds)

variable {scenario : GaugeScenario} {position : Nat} {seeds few many : Option Written}

theorem seedsAt_withSeeds {place : Nat} (inside : place < scenario.assets.length) :
    (scenario.withSeeds position seeds).seedsAt place =
      if position = place then
        if position < scenario.seedList.length then some (seeds.getD (.value zero)) else none
      else scenario.seedList[place]?.map fun seeds => seeds.getD (.value zero) := by
  have given : (scenario.seedList.set position seeds).isEmpty = false := by
    unfold GaugeTerms.seedList
    split
    · simpa using List.ne_nil_of_length_pos (Nat.zero_lt_of_lt inside)
    · next present => simpa using present
  unfold withSeeds following seedsAt
  simp only [given, Bool.false_eq_true, if_false, List.getElem?_set]
  split
  · split <;> rfl
  · rfl

theorem withSeeds_amounts (amounts : scenario.HasAmounts)
    (replaced : (seeds.getD (.value zero)).ReadsAmount) :
    (scenario.withSeeds position seeds).HasAmounts where
  toHasAmounts := {
    germinatingBean := amounts.germinatingBean
    germinatingGauge := amounts.germinatingGauge
    germinatingNonGauge := amounts.germinatingNonGauge
    staticSeeds := by
      intro given inside
      rcases List.mem_or_eq_of_mem_set inside with before | same
      · unfold GaugeTerms.seedList at before
        split at before
        · simp at before
        · exact amounts.staticSeeds given before
      · rwa [← same] at replaced
    pointRules := amounts.pointRules }
  earnedBeans := amounts.earnedBeans
  catchUpRate := amounts.catchUpRate
  gaugePoints := amounts.gaugePoints
  gaugeValues := amounts.gaugeValues
  beanValue := amounts.beanValue
  nonGaugeValue := amounts.nonGaugeValue
  siloStalk := amounts.siloStalk

/-- If the seeds of one asset are no more, the depositors trail those of the other scenario from
the start. -/
theorem depositors_trail (precise : 0 < context.precision) {seedScale : Decimal}
    (scale : seedScale.IsAmount) (amounts : scenario.HasAmounts) {assets : List Asset}
    (resolved : assets.length = scenario.assets.length) (position : Nat) {lesser greater : Decimal}
    (fewRead : (few.getD (.value zero)).read = .ok lesser)
    (manyRead : (many.getD (.value zero)).read = .ok greater)
    (atMost : lesser.AmountAtMost greater) :
    List.Forall₂ (Depositor.Trails context seedScale)
      ((scenario.withSeeds position few).depositors assets)
      ((scenario.withSeeds position many).depositors assets) := by
  have fewAmounts : (few.getD (.value zero)).ReadsAmount :=
    gives_iff.mpr fun _ read => Except.ok.inj (fewRead.symm.trans read) ▸ atMost.leftAmount
  have manyAmounts : (many.getD (.value zero)).ReadsAmount :=
    gives_iff.mpr fun _ read => Except.ok.inj (manyRead.symm.trans read) ▸ atMost.rightAmount
  refine List.forall₂_iff_get.mpr ⟨by simp [depositors], fun place first second => ?_⟩
  have inside : place < assets.length := by simpa [depositors] using first
  have opens : ∀ seeds (held : place < ((scenario.withSeeds position seeds).depositors
      assets).length),
      ((scenario.withSeeds position seeds).depositors assets)[place] =
        .opening assets[place] ((scenario.withSeeds position seeds).seedsAt place) := by
    intro seeds held
    have found := (scenario.withSeeds position seeds).getElem?_depositors assets place
    rwa [List.getElem?_eq_getElem held, List.getElem?_eq_getElem inside, Option.map_some,
      Option.some_inj] at found
  rw [List.get_eq_getElem, List.get_eq_getElem, opens few, opens many]
  have fewHolds : (scenario.withSeeds position few).HasAmounts :=
    withSeeds_amounts amounts fewAmounts
  have manyHolds : (scenario.withSeeds position many).HasAmounts :=
    withSeeds_amounts amounts manyAmounts
  refine Depositor.opening_trails precise
    (fun _ => seedsAt_gives isAmount_zero fewHolds.staticSeeds)
    (fun _ => seedsAt_gives isAmount_zero manyHolds.staticSeeds) scale ?_
  intro _ more isMore
  have moreAmount := seedsAt_gives isAmount_zero manyHolds.staticSeeds isMore
  rw [seedsAt_withSeeds (resolved ▸ inside)] at isMore ⊢
  by_cases same : position = place
  · simp only [if_pos same] at isMore ⊢
    split at isMore
    · obtain rfl := Option.some.inj isMore
      refine ⟨_, if_pos ‹_›, ?_⟩
      rw [fewRead, manyRead]
      exact .values atMost
    · contradiction
  · simp only [if_neg same] at isMore ⊢
    exact ⟨more, isMore, .same moreAmount fun _ => .refl⟩

/-- A simulation in which one asset has no more seeds succeeds where that with more of them does,
and no yield is greater. -/
theorem simulateAssets_withSeeds (precise : 0 < context.precision) {drift : RatioDrift}
    {seasons : Nat} {seedPrecision : Int} (positive : 0 < seedPrecision)
    (covered : ∀ season < seasons, season < germinationSeasons →
      Gives SiloState.Covered (scenario.liveAt context drift seedPrecision season))
    (amounts : scenario.HasAmounts) {assets : List Asset}
    (resolved : assets.length = scenario.assets.length) {lesser greater : Decimal}
    (fewRead : (few.getD (.value zero)).read = .ok lesser)
    (manyRead : (many.getD (.value zero)).read = .ok greater)
    (atMost : lesser.AmountAtMost greater) :
    AlsoGives
      (List.Forall₂ fun less more => less.asset = more.asset ∧ less.growth.AtMost more.growth)
      ((scenario.withSeeds position few).simulateAssets context assets drift seasons
        seedPrecision)
      ((scenario.withSeeds position many).simulateAssets context assets drift seasons
        seedPrecision) := by
  intro yields simulated
  obtain ⟨growths, grown, measured⟩ := simulateAssets_eq_ok_iff.mp simulated
  have grownAlone : scenario.growths context drift seasons seedPrecision = .ok growths :=
    (growths_following _ _).symm.trans grown
  have grownAmounts :=
    gives_iff.mp (growths_amounts precise covered amounts positive) growths grownAlone
  have scale : (Decimal.ofInt seedPrecision).IsAmount := isAmount_ofInt positive.le
  have above : 0 < (Decimal.ofInt seedPrecision).toRat := by
    rw [toRat_ofInt]
    exact_mod_cast positive
  have trail := depositors_trail precise scale amounts resolved position fewRead manyRead atMost
  obtain ⟨others, measuredOthers, related⟩ := AlsoGives.mapM (trail.imp fun _ _ trails =>
    trails.measure precise grownAmounts amounts.earnedBeans scale above) yields
    (mapM_eq_ok_iff.mpr measured)
  exact ⟨others, simulateAssets_eq_ok_iff.mpr ⟨growths, (growths_following _ _).trans grownAlone,
    mapM_eq_ok_iff.mp measuredOthers⟩, related⟩

end GaugeScenario

/-! ## Scenarios as they are given -/

namespace WrittenScenario

/-- The same silo, in which the asset at a position has other fixed seeds. -/
def withSeeds (written : WrittenScenario) (position : Nat) (seeds : Option Written) :
    WrittenScenario :=
  written.following written.assets (written.seedList.set position seeds)

/-- Replacing seeds and reading can be exchanged. -/
theorem read_withSeeds (context : Context) (written : WrittenScenario) (position : Nat)
    (seeds : Option Written) :
    (written.withSeeds position seeds).read context =
      (fun scenario => scenario.withSeeds position seeds) <$> written.read context := by
  unfold withSeeds
  rw [read_following]
  cases read : written.read context with
  | error failure => rfl
  | ok scenario =>
      have followed := following_of_read read
      have sameAssets : written.assets = scenario.assets := congrArg (·.assets) followed
      have sameSeeds : written.staticSeeds = scenario.staticSeeds :=
        congrArg (·.staticSeeds) followed
      have sameList : written.seedList = scenario.seedList := by
        unfold GaugeTerms.seedList
        rw [sameAssets, sameSeeds]
      rw [sameAssets, sameList]
      rfl

/-- In a silo of amounts that is covered while value germinates, and whose point rules lead from
amounts to amounts, the yields of an asset without gauge points do not shrink if it has more
fixed seeds.  If the simulation with more of them succeeds, so does that with fewer.  No seeds
count as zero. -/
theorem yields_mono_seeds (written : WrittenScenario) (drift : RatioDrift) (seasons : Nat)
    (precision seedPrecision : Int) (amounts : written.HasAmounts) (positive : 0 < seedPrecision)
    (covered : written.StartsCovered drift seasons precision seedPrecision) (position : Nat)
    (few many : Option Written) {lesser greater : Decimal}
    (fewRead : (few.getD (.value zero)).read = .ok lesser)
    (manyRead : (many.getD (.value zero)).read = .ok greater) (nonneg : lesser.IsAmount)
    (atMost : lesser.AtMost greater) {yields : List AssetGrowth}
    (simulated : (written.withSeeds position many).simulate drift seasons precision
      seedPrecision = .ok yields) :
    ∃ others,
      (written.withSeeds position few).simulate drift seasons precision seedPrecision =
          .ok others ∧
        List.Forall₂ (fun less more => less.asset = more.asset ∧ less.growth.AtMost more.growth)
          others yields := by
  simp only [simulate, bind_eq_ok_iff, liftM_eq_ok_iff, read_withSeeds, map_eq_ok_iff]
    at simulated ⊢
  obtain ⟨assets, resolved, context, isContext, _, ⟨scenario, isRead, rfl⟩, simulated⟩ :=
    simulated
  have precise := gives_iff.mp (YieldFailure.context_gives precision) context isContext
  have scenarioAmounts := gives_iff.mp (read_amounts amounts) scenario isRead
  have sameAssets : written.assets = scenario.assets :=
    congrArg (·.assets) (following_of_read isRead)
  have count : assets.length = scenario.assets.length := by
    rw [← sameAssets]
    exact (mapM_eq_ok_iff.mp resolved).length_eq.symm
  obtain ⟨others, simulatedOthers, related⟩ :=
    GaugeScenario.simulateAssets_withSeeds precise positive
      (covered context scenario isContext isRead) scenarioAmounts count fewRead manyRead
      ⟨atMost, nonneg.nonneg⟩ yields simulated
  exact ⟨others, ⟨assets, resolved, context, isContext, _, ⟨scenario, isRead, rfl⟩,
    simulatedOthers⟩, related⟩

end WrittenScenario

/-- The third asset of the silo gains no less with three seeds than with two and a half. -/
theorem germinatingSilo_more_seeds :
    ∃ yields others,
      (germinatingSilo.written.withSeeds 2 (some (.value (.finite false 3 0)))).simulate
        (.constant RatioDrift.defaultChange) 4 6 10000 = .ok yields ∧
      (germinatingSilo.written.withSeeds 2 (some (.value (.finite false 25 (-1))))).simulate
        (.constant RatioDrift.defaultChange) 4 6 10000 = .ok others ∧
      List.Forall₂ (fun less more => less.asset = more.asset ∧ less.growth.AtMost more.growth)
        others yields := by
  obtain ⟨yields, simulated⟩ := exists_ok_of_isOk
    (show ((germinatingSilo.written.withSeeds 2 (some (.value (.finite false 3 0)))).simulate
      (.constant RatioDrift.defaultChange) 4 6 10000).isOk by decide +kernel)
  have atMost : (Decimal.finite false 25 (-1)).AtMost (.finite false 3 0) :=
    ⟨rfl, rfl, by norm_num [toRat_finite, sign]⟩
  obtain ⟨others, simulatedOthers, related⟩ := WrittenScenario.yields_mono_seeds
    germinatingSilo.written _ 4 6 10000 germinatingSilo_amounts (by decide)
    germinatingSilo_covered 2 (some (.value (.finite false 25 (-1))))
    (some (.value (.finite false 3 0))) rfl rfl (isAmount_finite 25 (-1)) atMost simulated
  exact ⟨yields, others, simulated, simulatedOthers, related⟩

/-- A silo with two gauge tokens, of which one is given a fixed number of points below zero in
each season, beside an asset without gauge points. -/
def indebtedSilo : GaugeScenario where
  assets := [-2]
  optimalPercents := [.value (.finite false 50 0), .value (.finite false 50 0)]
  season := 3
  germinatingBean := [.value zero, .value zero]
  germinatingGauge := []
  germinatingNonGauge := [.value zero, .value zero]
  staticSeeds := []
  pointRules := [.identity, .custom fun _ _ _ _ => .ok (.finite true 3002 0)]
  earnedBeans := .finite false 1000 0
  catchUpRate := one
  gaugePoints := [one, one]
  gaugeValues := [one, one]
  initialRatio := one
  beanValue := zero
  nonGaugeValue := zero
  siloStalk := .finite false 20 0

/-- A silo without gauge tokens and beans, in which beans are minted. -/
def mintingSilo : GaugeScenario where
  assets := [-2]
  optimalPercents := []
  season := 3
  germinatingBean := [.value zero, .value zero]
  germinatingGauge := []
  germinatingNonGauge := [.value zero, .value zero]
  staticSeeds := []
  pointRules := []
  earnedBeans := .finite false 1 10
  catchUpRate := hundred
  gaugePoints := []
  gaugeValues := []
  initialRatio := .finite false 5 (-1)
  beanValue := zero
  nonGaugeValue := .finite false 10 0
  siloStalk := .finite false 10 0

theorem indebtedSilo_amounts :
    ({ indebtedSilo with pointRules := [] } : GaugeScenario).written.HasAmounts where
  germinatingBean := by decide
  germinatingGauge := List.forall_mem_nil _
  germinatingNonGauge := by decide
  staticSeeds := fun _ inside => absurd inside List.not_mem_nil
  pointRules := .of_forall (List.forall_mem_nil _)
  earnedBeans := isAmount_finite 1000 0
  catchUpRate := by decide
  gaugePoints := by decide
  gaugeValues := by decide
  beanValue := isAmount_zero
  nonGaugeValue := isAmount_zero
  siloStalk := isAmount_finite 20 0

theorem mintingSilo_amounts : mintingSilo.written.HasAmounts where
  germinatingBean := by decide
  germinatingGauge := List.forall_mem_nil _
  germinatingNonGauge := by decide
  staticSeeds := fun _ inside => absurd inside List.not_mem_nil
  pointRules := .of_forall (List.forall_mem_nil _)
  earnedBeans := isAmount_finite 1 10
  catchUpRate := by decide
  gaugePoints := List.forall_mem_nil _
  gaugeValues := List.forall_mem_nil _
  beanValue := isAmount_zero
  nonGaugeValue := isAmount_finite 10 0
  siloStalk := isAmount_finite 10 0

/-- Neither the condition on the point rules nor that the simulation with more seeds succeeds can
be left out.  Where a rule leads below zero, beans have negative seeds, and who has more fixed
seeds gains more of these beans and loses more stalk with them.  Where there are too many seeds,
the stalk that they grow has no decimal. -/
theorem indebtedSilo_loses_by_seeds :
    let seeds (value : Decimal) : Option Written := some (.value value)
    let drift : RatioDrift := .constant RatioDrift.defaultChange
    (({ indebtedSilo with pointRules := [] } : GaugeScenario).written.HasAmounts ∧
      indebtedSilo.written.StartsCovered (.constant zero) 4 6 10000 ∧
      ∃ few many,
        (indebtedSilo.written.withSeeds 0 (seeds zero)).simulate (.constant zero) 4 6 10000 =
          .ok [few] ∧
        (indebtedSilo.written.withSeeds 0 (seeds (.finite false 1 4))).simulate (.constant zero)
          4 6 10000 = .ok [many] ∧
        many.growth.stalk.toRat < few.growth.stalk.toRat) ∧
    mintingSilo.written.HasAmounts ∧ mintingSilo.written.StartsCovered drift 3 34 10000 ∧
      ((mintingSilo.written.withSeeds 0 (seeds zero)).simulate drift 3 34 10000).isOk ∧
      (mintingSilo.written.withSeeds 0 (seeds (.finite false 1 999999))).simulate drift 3 34
        10000 = .error (.signal .overflow) := by
  intro seeds drift
  refine ⟨⟨indebtedSilo_amounts, GaugeScenario.startsCovered_written rfl (by decide +kernel),
    ⟨.nonGauge, .finite false 625060 (-4), .finite true 451398 (-2)⟩,
    ⟨.nonGauge, .finite false 210828 (-3), .finite true 131187 (-1)⟩, by decide +kernel,
    by decide +kernel, ?_⟩, mintingSilo_amounts,
    GaugeScenario.startsCovered_written rfl (by decide +kernel), by decide +kernel,
    by decide +kernel⟩
  norm_num [toRat_finite, sign]

end DepositYield
