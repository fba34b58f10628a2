import DepositYield.Proofs.Yield.Figures
import DepositYield.Proofs.Yield.Finite

/-!
# Seasons without mints

If no beans are minted, nothing is shared out, so the beans of a deposit do not change:
each season adds a zero to a number that has been rounded before, and the last difference
is that of a number and itself.  This holds in both models, under any precision.

Stalk still grows from seeds.  Before the seed gauge it does so visibly: a season adds at
least `10 ^ -11` stalk, which sixteen digits hold beside the stalk that was there.
-/

namespace DepositYield

open Decimal Decimal.Context

variable {context : Context}

/-! ## Before the seed gauge -/

namespace PreGauge

/-- A number of seeds: a positive number of millionths, below a billion. -/
structure IsSeedCount (number : ℚ) : Prop where
  positive : 0 < number
  below : number < 10 ^ 9
  millionths : ∃ units : ℤ, number = units / 10 ^ 6

variable {scenario : Scenario} {state : State} {stalkPerBean : Decimal}

/-- Seasons in a row keep what each of them keeps. -/
theorem State.run_gives {good : State → Prop}
    (keeps : ∀ state, good state → Gives good (state.season context scenario stalkPerBean))
    (seasons : Nat) (starts : good state) :
    Gives good (state.run context scenario stalkPerBean seasons) := by
  induction seasons generalizing state with
  | zero => exact starts
  | succ seasons ih =>
      apply (keeps state starts).bind
      intro next nextGood
      exact ih nextGood

section Seasons

variable (precise : 0 < context.precision) (finite : scenario.IsFinite)
  (idle : scenario.minted.toRat = 0)

include precise finite idle

/-- Without mints only the stalk of the depositor grows. -/
theorem State.season_gives (stalkPerBeanFinite : stalkPerBean.isFinite)
    (isStalkPerBean : stalkPerBean.toRat = scenario.beanGrowth context)
    (stateFinite : state.IsFinite) :
    Gives
      (fun next => next.IsFinite ∧
        next.depositorValue.toRat = context.rounded state.depositorValue.toRat ∧
        next.depositorStalk.toRat =
          context.rounded (context.rounded state.depositorStalk.toRat +
            context.rounded (stalkPerBean.toRat * state.depositorValue.toRat)))
      (state.season context scenario stalkPerBean) := by
  apply (State.season_figures precise finite stalkPerBeanFinite isStalkPerBean stateFinite).mono
  rintro next ⟨nextFinite, isNext⟩
  have nothing : state.figures.earned context scenario = 0 := by
    rw [Figures.earned, idle, zero_mul, rounded_zero]
  have isValue : next.depositorValue.toRat = _ := congrArg Figures.depositorValue isNext
  have isStalk : next.depositorStalk.toRat = _ := congrArg Figures.depositorStalk isNext
  simp only [Figures.season, nothing, add_zero] at isValue isStalk
  rw [← isStalkPerBean] at isStalk
  exact ⟨nextFinite, isValue, isStalk⟩

/-- The value of the depositor stays a rounded number. -/
theorem State.run_value (stalkPerBeanFinite : stalkPerBean.isFinite)
    (isStalkPerBean : stalkPerBean.toRat = scenario.beanGrowth context) {value : ℚ}
    (settled : context.rounded value = value) (seasons : Nat) (stateFinite : state.IsFinite)
    (isValue : state.depositorValue.toRat = value) :
    Gives (fun final => final.IsFinite ∧ final.depositorValue.toRat = value)
      (state.run context scenario stalkPerBean seasons) := by
  refine State.run_gives ?_ seasons ⟨stateFinite, isValue⟩
  rintro state ⟨stateFinite, isValue⟩
  apply (State.season_gives precise finite idle stalkPerBeanFinite isStalkPerBean
    stateFinite).mono
  rintro next ⟨nextFinite, keepsValue, -⟩
  exact ⟨nextFinite, by rw [keepsValue, isValue, settled]⟩

end Seasons

theorem Scenario.initial_gives (precise : 0 < context.precision) (finite : scenario.IsFinite) :
    Gives
      (fun initial => initial.IsFinite ∧
        initial.depositorValue.toRat =
          context.rounded (scenario.seedsPerValue.toRat / scenario.seedsPerBean.toRat) ∧
        initial.depositorStalk = one)
      (scenario.initial context) := by
  apply (Scenario.initial_figures precise finite).mono
  rintro initial ⟨initialFinite, isInitial, isOne⟩
  exact ⟨initialFinite, congrArg Figures.depositorValue isInitial, isOne⟩

/-- Without mints the bean yield is zero. -/
theorem Scenario.simulate_bean (precise : 0 < context.precision) (finite : scenario.IsFinite)
    (idle : scenario.minted.toRat = 0) (seasons : Nat) :
    Gives (fun growth => growth.bean.DenotesZero) (scenario.simulate context seasons) := by
  apply (Scenario.initial_gives precise finite).bind
  rintro initial ⟨initialFinite, isValue, -⟩
  apply (div_calculates precise finite.seedsPerBean (rfl : seedsPerStalk.isFinite)
    seedsPerStalk_ne_zero).gives.bind
  rintro stalkPerBean ⟨stalkPerBeanFinite, isStalkPerBean⟩
  have settled : context.rounded initial.depositorValue.toRat = initial.depositorValue.toRat := by
    rw [isValue, rounded_rounded precise]
  apply (State.run_value precise finite idle stalkPerBeanFinite isStalkPerBean settled seasons
    initialFinite rfl).bind
  rintro final ⟨finalFinite, sameValue⟩
  apply ((sub_calculates precise finalFinite.depositorValue
    initialFinite.depositorValue).gives_zero (by rw [sameValue, sub_self])).bind
  intro bean beanZero
  apply (Settles.any (context.sub final.depositorStalk initial.depositorStalk)).bind
  intro stalk _
  exact beanZero

/-! ### Stalk from seeds -/

/-- The stalk that a deposit grows at least in a season. -/
def leastGrowth : ℚ := 10 ^ (-11 : ℤ)

/-- Sixteen digits hold the least growth beside a whole stalk. -/
theorem le_rounded_of_growths (precise : 16 ≤ context.precision) {growths : ℤ} {number : ℚ}
    (few : |growths| < 10 ^ 16) (le : growths * leastGrowth ≤ number) :
    growths * leastGrowth ≤ context.rounded number := by
  have most := pow_le_pow_right₀ (show (1 : ℤ) ≤ 10 by norm_num) precise
  exact le_rounded_of_digits (by omega) (few.trans_le most) (tiny_le (by norm_num)) le

namespace IsSeedCount

variable {number : ℚ}

theorem exists_units (count : IsSeedCount number) :
    ∃ units : ℤ, number = units * 10 ^ (-6 : ℤ) ∧ 1 ≤ units ∧ units < 10 ^ 15 := by
  obtain ⟨units, isUnits⟩ := count.millionths
  have positive := count.positive
  have below := count.below
  rw [isUnits] at positive below
  refine ⟨units, by rw [isUnits]; ring, ?_, ?_⟩
  · have cast : (0 : ℚ) < units := by linarith
    exact_mod_cast cast
  · have cast : (units : ℚ) < 10 ^ 15 := by linarith
    exact_mod_cast cast

theorem millionth_le (count : IsSeedCount number) : 10 ^ (-6 : ℤ) ≤ number := by
  obtain ⟨units, rfl, atLeast, -⟩ := count.exists_units
  have cast : (1 : ℚ) ≤ units := by exact_mod_cast atLeast
  exact le_mul_of_one_le_left (by positivity) cast

/-- Under a precision of sixteen digits the stalk that a bean grows in a season is exact. -/
theorem rounded_stalkPerBean (count : IsSeedCount number) (precise : 16 ≤ context.precision) :
    context.rounded (number / seedsPerStalk.toRat) = number * 10 ^ (-4 : ℤ) := by
  obtain ⟨units, rfl, atLeast, below⟩ := count.exists_units
  have quotient : units * 10 ^ (-6 : ℤ) / seedsPerStalk.toRat = units * (10 : ℚ) ^ (-10 : ℤ) := by
    norm_num [seedsPerStalk, sign]
    ring
  have exact : units * 10 ^ (-6 : ℤ) * 10 ^ (-4 : ℤ) = units * (10 : ℚ) ^ (-10 : ℤ) := by
    rw [mul_assoc, ← zpow_add₀ (by norm_num)]
    norm_num
  rw [quotient, exact]
  refine rounded_of_digits rfl ?_ (tiny_le (by norm_num))
  rw [abs_of_pos (by omega)]
  exact below.trans (pow_lt_pow_right₀ (by norm_num) (by omega))

/-- Rounding leaves at least a tenth of the value of the deposit. -/
theorem tenth_le_rounded_div {divisor : ℚ} (token : IsSeedCount number)
    (bean : IsSeedCount divisor) (precise : 0 < context.precision) :
    number / divisor / 10 ≤ context.rounded (number / divisor) := by
  have positive : 0 < number / divisor := div_pos token.positive bean.positive
  have large : ((10 : ℕ) : ℚ) ^ (-15 : ℤ) ≤ number / divisor := by
    rw [le_div_iff₀ bean.positive]
    have least := token.millionth_le
    have most := bean.below
    norm_num at least most ⊢
    linarith
  have normal : context.tiny ≤ Int.log 10 (number / divisor) := by
    have log := (Int.zpow_le_iff_le_log (by decide) positive).mp large
    exact tiny_le (by omega)
  have below : number / divisor < ((10 : ℕ) : ℚ) ^ (Int.log 10 (number / divisor) + 1) :=
    Int.lt_zpow_succ_log_self (by decide) _
  rw [Nat.cast_ofNat, zpow_add_one₀ (by norm_num)] at below
  have kept := pow_log_le_rounded precise positive normal
  linarith

/-- What a deposit grows in a season is not rounded below the least growth. -/
theorem leastGrowth_le {divisor : ℚ} (token : IsSeedCount number) (bean : IsSeedCount divisor)
    (precise : 16 ≤ context.precision) :
    leastGrowth ≤
      context.rounded (context.rounded (divisor / seedsPerStalk.toRat) *
        context.rounded (number / divisor)) := by
  have beanPositive := bean.positive
  have growth : leastGrowth ≤
      context.rounded (divisor / seedsPerStalk.toRat) * context.rounded (number / divisor) :=
    calc
      leastGrowth = 10 ^ (-6 : ℤ) * 10 ^ (-5 : ℤ) := by
        rw [leastGrowth, ← zpow_add₀ (by norm_num)]
        norm_num
      _ ≤ number * 10 ^ (-5 : ℤ) := by
        gcongr
        exact token.millionth_le
      _ = divisor * 10 ^ (-4 : ℤ) * (number / divisor / 10) := by
        field_simp
      _ ≤ divisor * 10 ^ (-4 : ℤ) * context.rounded (number / divisor) := by
        gcongr
        exact tenth_le_rounded_div token bean (by omega)
      _ = context.rounded (divisor / seedsPerStalk.toRat) * context.rounded (number / divisor) := by
        rw [bean.rounded_stalkPerBean precise]
  have rounded := le_rounded_of_growths precise (show |(1 : ℤ)| < 10 ^ 16 by norm_num)
    (by simpa using growth)
  simpa using rounded

end IsSeedCount

/-- The silo and a depositor of the given value who has at least a number of growths of
stalk. -/
structure State.Holds (value : ℚ) (growths : ℤ) (state : State) : Prop extends state.IsFinite where
  hasValue : state.depositorValue.toRat = value
  hasStalk : growths * leastGrowth ≤ state.depositorStalk.toRat

/-- One stalk, in growths. -/
def wholeStalk : ℤ := 10 ^ 11

section Stalk

variable (precise : 16 ≤ context.precision) (finite : scenario.IsFinite)
  (idle : scenario.minted.toRat = 0)

include precise finite idle

/-- A season adds the least growth to the stalk of a new deposit, and takes nothing from
stalk that has grown by it. -/
theorem State.season_stalk (stalkPerBeanFinite : stalkPerBean.isFinite)
    (isStalkPerBean : stalkPerBean.toRat = scenario.beanGrowth context) {value : ℚ}
    (settled : context.rounded value = value)
    (grows : leastGrowth ≤ context.rounded (stalkPerBean.toRat * value))
    (holds : state.Holds value wholeStalk) :
    Gives (State.Holds value (wholeStalk + 1)) (state.season context scenario stalkPerBean) := by
  apply (State.season_gives (by omega) finite idle stalkPerBeanFinite isStalkPerBean
    holds.toIsFinite).mono
  rintro next ⟨nextFinite, isValue, isStalk⟩
  rw [holds.hasValue] at isValue isStalk
  have kept := le_rounded_of_growths precise (by norm_num [wholeStalk]) holds.hasStalk
  have summed : ((wholeStalk + 1 : ℤ) : ℚ) * leastGrowth ≤
      context.rounded state.depositorStalk.toRat +
        context.rounded (stalkPerBean.toRat * value) := by
    push_cast
    linarith
  refine { nextFinite with hasValue := isValue.trans settled, hasStalk := ?_ }
  rw [isStalk]
  exact le_rounded_of_growths precise (by norm_num [wholeStalk]) summed

/-- So after at least one season the least growth has been added. -/
theorem State.run_stalk (stalkPerBeanFinite : stalkPerBean.isFinite)
    (isStalkPerBean : stalkPerBean.toRat = scenario.beanGrowth context) {value : ℚ}
    (settled : context.rounded value = value)
    (grows : leastGrowth ≤ context.rounded (stalkPerBean.toRat * value)) (seasons : Nat)
    (holds : state.Holds value wholeStalk) :
    Gives (State.Holds value (wholeStalk + 1))
      (state.run context scenario stalkPerBean (seasons + 1)) := by
  have step := fun state (holds : State.Holds value wholeStalk state) =>
    State.season_stalk precise finite idle stalkPerBeanFinite isStalkPerBean settled grows holds
  have weaken : ∀ state, State.Holds value (wholeStalk + 1) state →
      state.Holds value wholeStalk := by
    intro state holds
    refine { holds with hasStalk := le_trans ?_ holds.hasStalk }
    have unit : 0 ≤ leastGrowth := by
      unfold leastGrowth
      positivity
    push_cast
    linarith
  apply (step state holds).bind
  intro next nextHolds
  exact State.run_gives (fun state holds => step state (weaken state holds)) seasons nextHolds

/-- Without mints the stalk of a deposit grows over any number of seasons but zero. -/
theorem Scenario.simulate_stalk (token : IsSeedCount scenario.seedsPerValue.toRat)
    (bean : IsSeedCount scenario.seedsPerBean.toRat) (seasons : Nat) :
    Gives (fun growth => growth.stalk.isFinite = true ∧ leastGrowth ≤ growth.stalk.toRat)
      (scenario.simulate context (seasons + 1)) := by
  have precise' : 0 < context.precision := by omega
  apply (Scenario.initial_gives precise' finite).bind
  rintro initial ⟨initialFinite, isValue, isOne⟩
  apply (div_calculates precise' finite.seedsPerBean (rfl : seedsPerStalk.isFinite)
    seedsPerStalk_ne_zero).gives.bind
  rintro stalkPerBean ⟨stalkPerBeanFinite, isStalkPerBean⟩
  have settled : context.rounded initial.depositorValue.toRat = initial.depositorValue.toRat := by
    rw [isValue, rounded_rounded precise']
  have grows : leastGrowth ≤
      context.rounded (stalkPerBean.toRat * initial.depositorValue.toRat) := by
    rw [isStalkPerBean, isValue]
    exact token.leastGrowth_le bean precise
  have holds : initial.Holds initial.depositorValue.toRat wholeStalk := by
    refine { initialFinite with hasValue := rfl, hasStalk := ?_ }
    rw [isOne]
    norm_num [wholeStalk, leastGrowth, one, sign]
  apply (State.run_stalk precise finite idle stalkPerBeanFinite isStalkPerBean settled grows
    seasons holds).bind
  intro final finalHolds
  apply (Settles.any (context.sub final.depositorValue initial.depositorValue)).bind
  intro gained _
  apply (sub_calculates precise' finalHolds.depositorStalk initialFinite.depositorStalk).gives.bind
  rintro stalk ⟨stalkFinite, isStalk⟩
  refine ⟨stalkFinite, ?_⟩
  have grown := finalHolds.hasStalk
  have difference : ((1 : ℤ) : ℚ) * leastGrowth ≤
      final.depositorStalk.toRat - initial.depositorStalk.toRat := by
    rw [isOne]
    norm_num [wholeStalk, leastGrowth, one, sign] at grown ⊢
    linarith
  rw [isStalk]
  simpa using le_rounded_of_growths precise (by norm_num) difference

end Stalk

end PreGauge

/-! ## Under the seed gauge -/

/-- A depositor who holds the one unit of value that was deposited. -/
structure Depositor.Idle (context : Context) (depositor : Depositor) : Prop extends
    depositor.IsFinite where
  settled : context.rounded depositor.beans.toRat = depositor.beans.toRat
  whole : depositor.beans.toRat + depositor.tokens.toRat = 1

namespace Depositor

variable {depositor : Depositor} {earnedBeans seedScale : Decimal}
  (precise : 0 < context.precision)

include precise

theorem opening_idle (asset : Asset) {staticSeeds : Option Written}
    (seedsFinite : ∀ seeds, staticSeeds = some seeds → seeds.ReadsFinite) :
    (opening asset staticSeeds).Idle context := by
  by_cases isBean : asset = .reference
  · subst isBean
    exact {
      staticSeeds := seedsFinite
      beans := isFinite_one
      tokens := isFinite_zero
      stalk := isFinite_one
      settled := by simp [opening, rounded_one precise]
      whole := by simp [opening] }
  · have beansZero : (opening asset staticSeeds).beans = zero := if_neg isBean
    have tokensOne : (opening asset staticSeeds).tokens = one := if_neg isBean
    exact {
      staticSeeds := seedsFinite
      beans := beansZero ▸ isFinite_zero
      tokens := tokensOne ▸ isFinite_one
      stalk := isFinite_one
      settled := by simp [beansZero]
      whole := by simp [beansZero, tokensOne] }

theorem beanShare_gives (idle : depositor.Idle context) {growth : SeasonGrowth}
    (growthFinite : growth.IsFinite) (none : earnedBeans.DenotesZero) (season : Nat) :
    Gives DenotesZero (depositor.beanShare context earnedBeans season growth) := by
  unfold beanShare
  split
  · exact ⟨isFinite_zero, toRat_zero⟩
  · apply ((mul_calculates precise none.finite idle.stalk).gives_zero
      (by rw [none.value, zero_mul])).bind
    intro claimed nothing
    apply (divOrZero_calculates precise nothing.finite growthFinite.totalStalk).mono
    rintro share ⟨shareFinite, isShare⟩
    exact ⟨shareFinite, by rw [isShare, nothing.value, zero_div, rounded_zero]⟩

/-- Without mints a depositor holds the same beans after a season. -/
theorem seasonStep_gives (idle : depositor.Idle context) {growth : SeasonGrowth}
    (growthFinite : growth.IsFinite) (none : earnedBeans.DenotesZero)
    (scaleFinite : seedScale.isFinite) (season : Nat) :
    Gives (Idle context) (depositor.seasonStep context earnedBeans seedScale season growth) := by
  apply (tokenSeeds_gives precise idle.toIsFinite growthFinite scaleFinite).bind
  intro tokenSeeds tokenSeedsFinite
  apply (beanShare_gives precise idle growthFinite none season).lift.bind
  intro share nothing
  apply (add_settles precise idle.stalk nothing.finite).gives.lift.bind
  intro shared sharedFinite
  apply (mul_settles precise idle.beans growthFinite.beanSeeds).gives.lift.bind
  intro seedsOfBeans seedsOfBeansFinite
  apply (mul_settles precise idle.tokens tokenSeedsFinite).gives.lift.bind
  intro seedsOfTokens seedsOfTokensFinite
  apply (add_settles precise seedsOfBeansFinite seedsOfTokensFinite).gives.lift.bind
  intro seeds seedsFinite
  apply (div_gives precise seedsFinite scaleFinite).lift.bind
  intro grown grownFinite
  apply (add_settles precise sharedFinite grownFinite).gives.lift.bind
  intro stalk stalkFinite
  apply (add_calculates precise idle.beans nothing.finite).gives.lift.bind
  rintro beans ⟨beansFinite, isBeans⟩
  have sameBeans : beans.toRat = depositor.beans.toRat := by
    rw [isBeans, nothing.value, add_zero, idle.settled]
  exact {
    staticSeeds := idle.staticSeeds
    beans := beansFinite
    tokens := idle.tokens
    stalk := stalkFinite
    settled := by rw [sameBeans, idle.settled]
    whole := by rw [sameBeans, idle.whole] }

/-- So does a depositor who is followed through any number of seasons. -/
theorem follow_gives (idle : depositor.Idle context) {growths : List SeasonGrowth}
    (growthsFinite : ∀ growth ∈ growths, growth.IsFinite) (none : earnedBeans.DenotesZero)
    (scaleFinite : seedScale.isFinite) (season : Nat) :
    Gives (Idle context) (depositor.follow context earnedBeans seedScale season growths) := by
  induction growths generalizing depositor season with
  | nil => exact idle
  | cons growth later ih =>
      rw [List.forall_mem_cons] at growthsFinite
      apply (seasonStep_gives precise idle growthsFinite.1 none scaleFinite season).bind
      intro next nextIdle
      exact ih nextIdle growthsFinite.2 (season + 1)

/-- Who holds one unit of value has earned nothing. -/
theorem assetGrowth_gives (idle : depositor.Idle context) :
    Gives (fun yield => yield.growth.bean.DenotesZero) (depositor.assetGrowth context) := by
  apply (add_calculates precise idle.beans idle.tokens).gives.bind
  rintro value ⟨valueFinite, isValue⟩
  rw [idle.whole, rounded_one precise] at isValue
  apply ((sub_calculates precise valueFinite isFinite_one).gives_zero
    (by rw [isValue, toRat_one, sub_self])).bind
  intro gained nothing
  apply ((mul_calculates precise nothing.finite (rfl : hundred.isFinite)).gives_zero
    (by rw [nothing.value, zero_mul])).bind
  intro bean isZero
  apply (Settles.any (context.sub depositor.stalk one)).bind
  intro gainedStalk _
  apply (Settles.any (context.mul gainedStalk hundred)).bind
  intro stalk _
  exact isZero

/-- Without mints a depositor earns no beans over seasons of any growths in finite
decimals. -/
theorem measure_gives (idle : depositor.Idle context) {growths : List SeasonGrowth}
    (growthsFinite : ∀ growth ∈ growths, growth.IsFinite) (none : earnedBeans.DenotesZero)
    (scaleFinite : seedScale.isFinite) :
    Gives (fun yield => yield.growth.bean.DenotesZero)
      (depositor.measure context earnedBeans seedScale growths) := by
  apply (follow_gives precise idle growthsFinite none scaleFinite 0).bind
  intro final finalIdle
  exact (assetGrowth_gives precise finalIdle).lift

end Depositor

namespace GaugeScenario

variable {scenario : GaugeScenario}

theorem simulateAssets_gives (precise : 0 < context.precision) (finite : scenario.IsFinite)
    (none : scenario.earnedBeans.DenotesZero) (assets : List Asset) (drift : RatioDrift)
    (seasons : Nat) (seedPrecision : Int) :
    Gives (fun yields => ∀ yield ∈ yields, yield.growth.bean.DenotesZero)
      (scenario.simulateAssets context assets drift seasons seedPrecision) := by
  rw [gives_iff]
  intro yields simulated yield inside
  obtain ⟨growths, grown, measured⟩ := simulateAssets_eq_ok_iff.mp simulated
  have growthsFinite :=
    gives_iff.mp (growths_gives precise finite drift seasons seedPrecision) growths grown
  obtain ⟨position, held⟩ := List.mem_iff_getElem?.mp inside
  obtain ⟨depositor, isDepositor, measures⟩ := exists_getElem?_of_forall₂ measured.flip held
  rw [getElem?_depositors, Option.map_eq_some_iff] at isDepositor
  obtain ⟨asset, -, rfl⟩ := isDepositor
  have idle : (Depositor.opening asset (scenario.seedsAt position)).Idle context :=
    Depositor.opening_idle precise asset fun _ => seedsAt_gives isFinite_zero finite.staticSeeds
  exact gives_iff.mp (Depositor.measure_gives precise idle growthsFinite none
    (isFinite_ofInt seedPrecision)) yield measures

end GaugeScenario

namespace WrittenScenario

variable {written : WrittenScenario}

/-- Without mints no asset earns beans under the seed gauge. -/
theorem simulate_bean (finite : written.IsFinite)
    (none : Gives DenotesZero written.earnedBeans.read) (drift : RatioDrift) (seasons : Nat)
    (precision seedPrecision : Int) :
    Gives (fun yields => ∀ yield ∈ yields, yield.growth.bean.DenotesZero)
      (written.simulate drift seasons precision seedPrecision) := by
  apply (Settles.any (written.assets.mapM (Asset.ofIndex written.gaugePoints.length))).bind
  intro assets _
  apply (YieldFailure.context_gives precision).bind
  intro context precise
  apply (read_gives finite none).lift.bind
  rintro scenario ⟨scenarioFinite, nothing⟩
  exact GaugeScenario.simulateAssets_gives precise scenarioFinite nothing assets drift seasons
    seedPrecision

end WrittenScenario

/-! ## Yields without mints -/

/-- If no beans are minted, whatever a simulation gives, its bean yields are zero: before the
seed gauge, under the gauge with any drift of the seed ratio and any point rules that keep
points finite, as the rules of the gauge do, and over seasons of any finite growths at all.
Before the gauge, stalk grows from whole millionths of seeds under at least sixteen digits. -/
theorem no_beans_without_mints :
    (∀ (context : Context) (scenario : PreGauge.Scenario) (seasons : Nat) (growth : Growth),
      0 < context.precision → scenario.IsFinite → scenario.minted.toRat = 0 →
        scenario.simulate context seasons = .ok growth →
          growth.bean.DenotesZero ∧
            (16 ≤ context.precision → PreGauge.IsSeedCount scenario.seedsPerValue.toRat →
              PreGauge.IsSeedCount scenario.seedsPerBean.toRat → 1 ≤ seasons →
                growth.stalk.isFinite ∧ 0 < growth.stalk.toRat)) ∧
    (∀ (written : WrittenScenario) (drift : RatioDrift) (seasons : Nat)
        (precision seedPrecision : Int) (yields : List AssetGrowth),
      written.IsFinite → Gives DenotesZero written.earnedBeans.read →
        written.simulate drift seasons precision seedPrecision = .ok yields →
          ∀ yield ∈ yields, yield.growth.bean.DenotesZero) ∧
    ∀ (context : Context) (asset : Asset) (staticSeeds : Option Written)
        (earnedBeans seedScale : Decimal) (growths : List SeasonGrowth) (yield : AssetGrowth),
      0 < context.precision → (∀ seeds, staticSeeds = some seeds → seeds.ReadsFinite) →
        earnedBeans.DenotesZero → seedScale.isFinite → (∀ growth ∈ growths, growth.IsFinite) →
          (Depositor.opening asset staticSeeds).measure context earnedBeans seedScale growths =
              .ok yield →
            yield.growth.bean.DenotesZero := by
  refine ⟨?_, ?_, ?_⟩
  · intro context scenario seasons growth precise finite idle simulated
    refine ⟨gives_iff.mp (PreGauge.Scenario.simulate_bean precise finite idle seasons) growth
      simulated, ?_⟩
    intro precise' token bean some
    obtain ⟨fewer, rfl⟩ := Nat.exists_eq_add_of_le' some
    obtain ⟨stalkFinite, grown⟩ := gives_iff.mp
      (PreGauge.Scenario.simulate_stalk precise' finite idle token bean fewer) growth simulated
    have positive : 0 < PreGauge.leastGrowth := by
      unfold PreGauge.leastGrowth
      positivity
    exact ⟨stalkFinite, positive.trans_le grown⟩
  · intro written drift seasons precision seedPrecision yields finite none simulated
    exact gives_iff.mp (WrittenScenario.simulate_bean finite none drift seasons precision
      seedPrecision) yields simulated
  · intro context asset staticSeeds earnedBeans seedScale growths yield precise seedsFinite none
      scaleFinite growthsFinite measured
    exact gives_iff.mp (Depositor.measure_gives precise
      (Depositor.opening_idle precise asset seedsFinite) growthsFinite none scaleFinite) yield
      measured

/-- A deposit that yields a third more seeds than the bean does, while nothing is minted. -/
def idleDeposit : PreGauge.Scenario where
  minted := .finite true 0 (-3)
  seedsPerValue := .finite false 4 0
  seedsPerBean := .finite false 3000000 (-6)
  stalk := 70000000000
  seeds := 5000000

/-- A silo in which all kinds of assets are followed while nothing is minted. -/
def idleAssets : WrittenScenario :=
  { WrittenScenario.mixedAssets with earnedBeans := .text "-0E+7" }

/-- A season in which stalk grows. -/
def grownSeason : SeasonGrowth where
  grownStalk := .finite false 3 0
  pointTotal := .finite false 12 0
  beanSeeds := .finite false 5 (-1)
  pointsPerValue := [.finite false 7 0]
  totalStalk := .finite false 93 0

theorem idleAssets_read : idleAssets.earnedBeans.read = .ok (.finite true 0 7) := by
  decide +kernel

theorem halvingRule_keepsFinite : WrittenScenario.halvingRule.KeepsFinite :=
  fun _ precise _ _ _ pointsFinite _ _ => (mul_settles precise pointsFinite rfl).gives

theorem idleAssets_finite : idleAssets.IsFinite where
  optimalPercents := by decide
  germinatingBean := by decide
  germinatingGauge := by decide
  germinatingNonGauge := by decide
  staticSeeds := by
    intro seeds inside
    obtain rfl : seeds = .value (.finite false 25 (-1)) := by
      simpa [idleAssets, WrittenScenario.mixedAssets] using inside
    decide
  pointRules := List.forall_mem_cons.mpr ⟨PointRule.default_settlesFinite.keepsFinite,
    List.forall_mem_singleton.mpr halvingRule_keepsFinite⟩
  earnedBeans := by
    rw [Written.ReadsFinite, idleAssets_read]
    decide
  catchUpRate := by decide
  gaugePoints := by decide
  gaugeValues := by decide
  initialRatio := by decide
  beanValue := by decide
  nonGaugeValue := by decide
  siloStalk := by decide

/-- The deposit, the assets and a depositor of beans earn nothing, but the deposit grows. -/
theorem idle_yields :
    (∃ growth, idleDeposit.simulate { precision := 16 } 2 = .ok growth ∧
      growth.bean.DenotesZero ∧ growth.stalk.isFinite ∧ 0 < growth.stalk.toRat) ∧
    (∃ yields, idleAssets.simulate (.constant (.infinite true)) 3 1 10000 = .ok yields ∧
      ∀ yield ∈ yields, yield.growth.bean.DenotesZero) ∧
    ∃ yield, (Depositor.opening .reference none).measure { precision := 2 } zero
        (.ofInt 10000) [grownSeason, grownSeason, grownSeason] = .ok yield ∧
      yield.growth.bean.DenotesZero := by
  refine ⟨?_, ?_, ?_⟩
  · obtain ⟨growth, simulated⟩ := exists_ok_of_isOk
      (show (idleDeposit.simulate { precision := 16 } 2).isOk by decide +kernel)
    have idle : idleDeposit.minted.toRat = 0 := by simp [idleDeposit]
    have token : PreGauge.IsSeedCount idleDeposit.seedsPerValue.toRat := by
      norm_num [idleDeposit, sign]
      exact ⟨by norm_num, by norm_num, 4000000, by norm_num⟩
    have bean : PreGauge.IsSeedCount idleDeposit.seedsPerBean.toRat := by
      norm_num [idleDeposit, sign]
      exact ⟨by norm_num, by norm_num, 3000000, by norm_num⟩
    obtain ⟨nothing, grows⟩ := no_beans_without_mints.1 _ idleDeposit 2 growth (by decide)
      ⟨rfl, rfl, rfl⟩ idle simulated
    exact ⟨growth, simulated, nothing, grows (by decide) token bean (by decide)⟩
  · obtain ⟨yields, simulated⟩ := exists_ok_of_isOk
      (show (idleAssets.simulate (.constant (.infinite true)) 3 1 10000).isOk by
        decide +kernel)
    have none : Gives DenotesZero idleAssets.earnedBeans.read := by
      rw [idleAssets_read]
      exact ⟨rfl, by simp⟩
    exact ⟨yields, simulated, no_beans_without_mints.2.1 idleAssets _ 3 1 10000 yields
      idleAssets_finite none simulated⟩
  · obtain ⟨yield, measured⟩ := exists_ok_of_isOk
      (show ((Depositor.opening .reference none).measure { precision := 2 } zero (.ofInt 10000)
        [grownSeason, grownSeason, grownSeason]).isOk by decide +kernel)
    have growths : ∀ growth ∈ [grownSeason, grownSeason, grownSeason], growth.IsFinite := by
      intro growth inside
      obtain rfl : growth = grownSeason := by simpa using inside
      exact ⟨rfl, rfl, rfl, by decide, rfl⟩
    exact ⟨yield, measured, no_beans_without_mints.2.2 _ .reference none zero (.ofInt 10000) _
      yield (by decide) (by simp) ⟨rfl, toRat_zero⟩ rfl growths measured⟩

end DepositYield
