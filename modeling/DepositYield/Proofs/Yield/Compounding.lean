import DepositYield.Proofs.Yield.Figures

/-!
# Yields before the seed gauge compound

From amounts, seeds, stalk and value only ever grow: each sum adds an amount to a number that
has been rounded before, and rounding does not fall below that number.  So no growth is a
loss, and it does not shrink over more seasons.

Two silos are compared by the share that a depositor has in them.  A season keeps the silo
with more stalk and seeds ahead in both, and its depositor behind in value and stalk, since
every rounded operation is monotone.
-/

namespace DepositYield.PreGauge

open Decimal Decimal.Context

/-- A scenario in amounts. -/
structure Scenario.IsAmount (scenario : Scenario) : Prop where
  minted : scenario.minted.IsAmount
  seedsPerValue : scenario.seedsPerValue.IsAmount
  seedsPerBean : scenario.seedsPerBean.IsAmount
  stalk : 0 ≤ scenario.stalk
  seeds : 0 ≤ scenario.seeds

theorem Scenario.IsAmount.isFinite {scenario : Scenario} (amounts : scenario.IsAmount) :
    scenario.IsFinite :=
  ⟨amounts.minted.finite, amounts.seedsPerValue.finite, amounts.seedsPerBean.finite⟩

theorem Scenario.IsAmount.beanGrowth {scenario : Scenario} (amounts : scenario.IsAmount)
    (context : Context) : 0 ≤ scenario.beanGrowth context :=
  rounded_nonneg (div_nonneg amounts.seedsPerBean.nonneg (by simp [seedsPerStalk, sign]))

theorem stalkPerSeed_nonneg : 0 ≤ stalkPerSeed.toRat := by
  norm_num [stalkPerSeed, sign]

/-! ## Growth over seasons -/

/-- Numbers that are not negative, those of the depositor rounded. -/
structure Figures.Settled (context : Context) (figures : Figures) : Prop where
  seeds : 0 ≤ figures.seeds
  stalk : 0 ≤ figures.stalk
  depositorValue : 0 ≤ figures.depositorValue
  depositorStalk : 0 ≤ figures.depositorStalk
  valueSettled : context.rounded figures.depositorValue = figures.depositorValue
  stalkSettled : context.rounded figures.depositorStalk = figures.depositorStalk

variable {context : Context} {scenario : Scenario} {figures : Figures}

section Seasons

variable (precise : 0 < context.precision) (amounts : scenario.IsAmount)

include amounts in
theorem Figures.Settled.earned (settled : figures.Settled context) :
    0 ≤ figures.earned context scenario :=
  rounded_nonneg (mul_nonneg amounts.minted.nonneg
    (rounded_nonneg (div_nonneg settled.depositorStalk settled.stalk)))

include amounts in
/-- The stalk that the value of the depositor grows in a season. -/
theorem Figures.Settled.grown (settled : figures.Settled context) :
    0 ≤ context.rounded (scenario.beanGrowth context * figures.depositorValue) :=
  rounded_nonneg (mul_nonneg (amounts.beanGrowth context) settled.depositorValue)

include precise amounts

theorem Figures.Settled.value_le_season (settled : figures.Settled context) :
    figures.depositorValue ≤ (figures.season context scenario).depositorValue :=
  le_rounded_of_settled precise settled.valueSettled
    (le_add_of_nonneg_right (settled.earned amounts))

theorem Figures.Settled.stalk_le_season (settled : figures.Settled context) :
    figures.depositorStalk ≤ (figures.season context scenario).depositorStalk := by
  have earned : figures.depositorStalk ≤
      context.rounded (figures.depositorStalk + figures.earned context scenario) :=
    le_rounded_of_settled precise settled.stalkSettled
      (le_add_of_nonneg_right (settled.earned amounts))
  exact le_rounded_of_settled precise settled.stalkSettled
    (earned.trans (le_add_of_nonneg_right (settled.grown amounts)))

theorem Figures.Settled.season (settled : figures.Settled context) :
    (figures.season context scenario).Settled context where
  seeds := rounded_nonneg (add_nonneg settled.seeds
    (rounded_nonneg (mul_nonneg amounts.minted.nonneg amounts.seedsPerBean.nonneg)))
  stalk := rounded_nonneg (add_nonneg
    (rounded_nonneg (add_nonneg settled.stalk amounts.minted.nonneg))
    (rounded_nonneg (mul_nonneg stalkPerSeed_nonneg settled.seeds)))
  depositorValue := settled.depositorValue.trans (settled.value_le_season precise amounts)
  depositorStalk := settled.depositorStalk.trans (settled.stalk_le_season precise amounts)
  valueSettled := rounded_rounded precise _
  stalkSettled := rounded_rounded precise _

theorem Scenario.opening_settled : (scenario.opening context).Settled context where
  seeds := rounded_nonneg (div_nonneg (by exact_mod_cast amounts.seeds) (by positivity))
  stalk := rounded_nonneg (div_nonneg (by exact_mod_cast amounts.stalk) (by positivity))
  depositorValue :=
    rounded_nonneg (div_nonneg amounts.seedsPerValue.nonneg amounts.seedsPerBean.nonneg)
  depositorStalk := zero_le_one
  valueSettled := rounded_rounded precise _
  stalkSettled := rounded_one precise

theorem Scenario.closing_settled (seasons : Nat) :
    (scenario.closing context seasons).Settled context := by
  induction seasons with
  | zero => exact Scenario.opening_settled precise amounts
  | succ seasons ih =>
      rw [Scenario.closing_succ]
      exact ih.season precise amounts

theorem Scenario.closing_value_mono :
    Monotone fun seasons => (scenario.closing context seasons).depositorValue := by
  refine monotone_nat_of_le_succ fun seasons => ?_
  rw [Scenario.closing_succ]
  exact (Scenario.closing_settled precise amounts seasons).value_le_season precise amounts

theorem Scenario.closing_stalk_mono :
    Monotone fun seasons => (scenario.closing context seasons).depositorStalk := by
  refine monotone_nat_of_le_succ fun seasons => ?_
  rw [Scenario.closing_succ]
  exact (Scenario.closing_settled precise amounts seasons).stalk_le_season precise amounts

theorem Scenario.simulate_amount (seasons : Nat) :
    Gives Growth.IsAmount (scenario.simulate context seasons) := by
  apply (Scenario.simulate_figures precise amounts.isFinite seasons).mono
  rintro growth ⟨finite, isBean, isStalk⟩
  have value := Scenario.closing_value_mono precise amounts (Nat.zero_le seasons)
  have stalk := Scenario.closing_stalk_mono precise amounts (Nat.zero_le seasons)
  refine ⟨⟨finite.bean, ?_⟩, ⟨finite.stalk, ?_⟩⟩
  · rw [isBean]
    exact rounded_nonneg (sub_nonneg.mpr value)
  · rw [isStalk]
    exact rounded_nonneg (sub_nonneg.mpr stalk)

theorem Scenario.simulate_mono {fewer more : Nat} (le : fewer ≤ more) {growth later : Growth}
    (before : scenario.simulate context fewer = .ok growth)
    (after : scenario.simulate context more = .ok later) : growth.AtMost later := by
  obtain ⟨finite, isBean, isStalk⟩ :=
    gives_iff.mp (Scenario.simulate_figures precise amounts.isFinite fewer) growth before
  obtain ⟨laterFinite, isLaterBean, isLaterStalk⟩ :=
    gives_iff.mp (Scenario.simulate_figures precise amounts.isFinite more) later after
  have value := Scenario.closing_value_mono precise amounts le
  have stalk := Scenario.closing_stalk_mono precise amounts le
  refine ⟨⟨finite.bean, laterFinite.bean, ?_⟩, ⟨finite.stalk, laterFinite.stalk, ?_⟩⟩
  · rw [isBean, isLaterBean]
    exact rounded_mono precise (sub_le_sub_right value _)
  · rw [isStalk, isLaterStalk]
    exact rounded_mono precise (sub_le_sub_right stalk _)

end Seasons

/-- From amounts no growth is a loss, and over more seasons it is no less: whatever the
precision is, in an empty silo, and with beans that have no seeds. -/
theorem Scenario.growth_compounds (precise : 0 < context.precision)
    (amounts : scenario.IsAmount) (seasons : Nat) {growth : Growth}
    (simulated : scenario.simulate context seasons = .ok growth) :
    growth.IsAmount ∧
      ∀ more later, seasons ≤ more → scenario.simulate context more = .ok later →
        growth.AtMost later :=
  ⟨gives_iff.mp (Scenario.simulate_amount precise amounts seasons) growth simulated,
    fun _ _ le after => Scenario.simulate_mono precise amounts le simulated after⟩

/-- A silo without stalk, where beans have no seeds. -/
def emptySilo : Scenario where
  minted := .finite false 25 (-1)
  seedsPerValue := .finite false 4 0
  seedsPerBean := zero
  stalk := 0
  seeds := 7

/-- With a single digit the growth over two seasons is not greater than that over five. -/
theorem emptySilo_compounds :
    ∃ growth later, emptySilo.simulate { precision := 1 } 2 = .ok growth ∧
      emptySilo.simulate { precision := 1 } 5 = .ok later ∧
        growth.IsAmount ∧ growth.AtMost later := by
  have amounts : emptySilo.IsAmount :=
    ⟨isAmount_finite 25 (-1), isAmount_finite 4 0, isAmount_zero, by decide, by decide⟩
  obtain ⟨growth, before⟩ := exists_ok_of_isOk
    (show (emptySilo.simulate { precision := 1 } 2).isOk by decide +kernel)
  obtain ⟨later, after⟩ := exists_ok_of_isOk
    (show (emptySilo.simulate { precision := 1 } 5).isOk by decide +kernel)
  obtain ⟨noLoss, compounds⟩ :=
    Scenario.growth_compounds (by decide) amounts 2 before
  exact ⟨growth, later, before, after, noLoss, compounds 5 later (by decide) after⟩

/-! ## Silos of different size -/

/-- The depositor of the right silo has the smaller share of it: there is more stalk and seeds
in the right one, and the depositor has less value and stalk. -/
structure Figures.Diluted (context : Context) (left right : Figures) : Prop where
  leftSettled : left.Settled context
  rightSettled : right.Settled context
  present : 0 < left.stalk
  presentSettled : context.rounded left.stalk = left.stalk
  seeds : left.seeds ≤ right.seeds
  stalk : left.stalk ≤ right.stalk
  depositorValue : right.depositorValue ≤ left.depositorValue
  depositorStalk : right.depositorStalk ≤ left.depositorStalk

section Shares

variable {left right : Figures} (precise : 0 < context.precision) (amounts : scenario.IsAmount)

include precise amounts

theorem Figures.Diluted.earned (diluted : left.Diluted context right) :
    right.earned context scenario ≤ left.earned context scenario := by
  have share : right.depositorStalk / right.stalk ≤ left.depositorStalk / left.stalk :=
    div_le_div₀ diluted.leftSettled.depositorStalk diluted.depositorStalk diluted.present
      diluted.stalk
  exact rounded_mono precise
    (mul_le_mul_of_nonneg_left (rounded_mono precise share) amounts.minted.nonneg)

/-- A season keeps the smaller share smaller. -/
theorem Figures.Diluted.season (diluted : left.Diluted context right) :
    (left.season context scenario).Diluted context (right.season context scenario) where
  leftSettled := diluted.leftSettled.season precise amounts
  rightSettled := diluted.rightSettled.season precise amounts
  present := by
    have minted : left.stalk ≤ context.rounded (left.stalk + scenario.minted.toRat) :=
      le_rounded_of_settled precise diluted.presentSettled
        (le_add_of_nonneg_right amounts.minted.nonneg)
    have grown : 0 ≤ context.rounded (stalkPerSeed.toRat * left.seeds) :=
      rounded_nonneg (mul_nonneg stalkPerSeed_nonneg diluted.leftSettled.seeds)
    exact diluted.present.trans_le (le_rounded_of_settled precise diluted.presentSettled
      (minted.trans (le_add_of_nonneg_right grown)))
  presentSettled := rounded_rounded precise _
  seeds := rounded_mono precise (add_le_add_left diluted.seeds _)
  stalk := by
    have minted : context.rounded (left.stalk + scenario.minted.toRat) ≤
        context.rounded (right.stalk + scenario.minted.toRat) :=
      rounded_mono precise (add_le_add_left diluted.stalk _)
    have grown : context.rounded (stalkPerSeed.toRat * left.seeds) ≤
        context.rounded (stalkPerSeed.toRat * right.seeds) :=
      rounded_mono precise (mul_le_mul_of_nonneg_left diluted.seeds stalkPerSeed_nonneg)
    exact rounded_mono precise (add_le_add minted grown)
  depositorValue :=
    rounded_mono precise (add_le_add diluted.depositorValue (diluted.earned precise amounts))
  depositorStalk := by
    have earned : context.rounded (right.depositorStalk + right.earned context scenario) ≤
        context.rounded (left.depositorStalk + left.earned context scenario) :=
      rounded_mono precise (add_le_add diluted.depositorStalk (diluted.earned precise amounts))
    have grown : context.rounded (scenario.beanGrowth context * right.depositorValue) ≤
        context.rounded (scenario.beanGrowth context * left.depositorValue) :=
      rounded_mono precise
        (mul_le_mul_of_nonneg_left diluted.depositorValue (amounts.beanGrowth context))
    exact rounded_mono precise (add_le_add earned grown)

/-- So do any number of seasons. -/
theorem Figures.Diluted.seasons (diluted : left.Diluted context right) (seasons : Nat) :
    ((Figures.season context scenario)^[seasons] left).Diluted context
      ((Figures.season context scenario)^[seasons] right) := by
  induction seasons with
  | zero => exact diluted
  | succ seasons ih =>
      rw [Function.iterate_succ_apply', Function.iterate_succ_apply']
      exact ih.season precise amounts

end Shares

/-- Some stalk is not rounded to none. -/
theorem Scenario.opening_stalk_pos (precise : 0 < context.precision)
    (present : 0 < scenario.stalk) : 0 < (scenario.opening context).stalk := by
  have least : ((1 : ℤ) : ℚ) * 10 ^ (-10 : ℤ) ≤ scenario.stalk / 10 ^ stalkPlaces := by
    have cast : (1 : ℚ) ≤ scenario.stalk := by exact_mod_cast present
    rw [stalkPlaces, div_eq_mul_inv, ← zpow_neg]
    push_cast
    gcongr
  have few : |(1 : ℤ)| < 10 ^ context.precision := by
    rw [abs_one]
    exact one_lt_pow₀ (by norm_num) precise.ne'
  have kept := le_rounded_of_digits precise few (tiny_le (by decide)) least
  have unit : (0 : ℚ) < (1 : ℤ) * 10 ^ (-10 : ℤ) := by positivity
  exact unit.trans_le kept

theorem Scenario.opening_diluted (precise : 0 < context.precision) {left right : Scenario}
    (leftAmounts : left.IsAmount) (rightAmounts : right.IsAmount) (present : 0 < left.stalk)
    (stalk : left.stalk ≤ right.stalk) (seeds : left.seeds ≤ right.seeds)
    (value : (right.opening context).depositorValue ≤ (left.opening context).depositorValue) :
    (left.opening context).Diluted context (right.opening context) where
  leftSettled := Scenario.opening_settled precise leftAmounts
  rightSettled := Scenario.opening_settled precise rightAmounts
  present := Scenario.opening_stalk_pos precise present
  presentSettled := rounded_rounded precise _
  seeds := rounded_mono precise
    (div_le_div_of_nonneg_right (by exact_mod_cast seeds) (by positivity))
  stalk := rounded_mono precise
    (div_le_div_of_nonneg_right (by exact_mod_cast stalk) (by positivity))
  depositorValue := value
  depositorStalk := le_rfl

/-- A depositor of the same deposit gains no more in a silo with more stalk and seeds. -/
theorem Scenario.simulate_diluted (precise : 0 < context.precision) (amounts : scenario.IsAmount)
    (present : 0 < scenario.stalk) (seasons : Nat) {stalk seeds : Int}
    (moreStalk : scenario.stalk ≤ stalk) (moreSeeds : scenario.seeds ≤ seeds)
    {growth diluted : Growth} (simulated : scenario.simulate context seasons = .ok growth)
    (larger : { scenario with stalk, seeds }.simulate context seasons = .ok diluted) :
    diluted.AtMost growth := by
  have largerAmounts : { scenario with stalk, seeds }.IsAmount :=
    { amounts with stalk := amounts.stalk.trans moreStalk, seeds := amounts.seeds.trans moreSeeds }
  obtain ⟨finite, isBean, isStalk⟩ :=
    gives_iff.mp (Scenario.simulate_figures precise amounts.isFinite seasons) growth simulated
  obtain ⟨dilutedFinite, isDilutedBean, isDilutedStalk⟩ :=
    gives_iff.mp (Scenario.simulate_figures precise largerAmounts.isFinite seasons) diluted larger
  have closes : (scenario.closing context seasons).Diluted context
      ({ scenario with stalk, seeds }.closing context seasons) :=
    (Scenario.opening_diluted precise amounts largerAmounts present moreStalk moreSeeds
      le_rfl).seasons precise amounts seasons
  refine ⟨⟨dilutedFinite.bean, finite.bean, ?_⟩, ⟨dilutedFinite.stalk, finite.stalk, ?_⟩⟩
  · rw [isBean, isDilutedBean]
    exact rounded_mono precise (sub_le_sub_right closes.depositorValue _)
  · rw [isStalk, isDilutedStalk]
    exact rounded_mono precise (sub_le_sub_right closes.depositorStalk _)

/-- In one silo a deposit with more seeds gains no less stalk. -/
theorem Scenario.simulate_stalk_of_seeds (precise : 0 < context.precision)
    (amounts : scenario.IsAmount) (present : 0 < scenario.stalk) (seasons : Nat)
    {seedsPerValue : Decimal} (moreSeeds : scenario.seedsPerValue.AtMost seedsPerValue)
    {growth richer : Growth} (simulated : scenario.simulate context seasons = .ok growth)
    (seeded : { scenario with seedsPerValue }.simulate context seasons = .ok richer) :
    growth.stalk.AtMost richer.stalk := by
  have seededAmounts : { scenario with seedsPerValue }.IsAmount :=
    { amounts with
      seedsPerValue := ⟨moreSeeds.rightFinite, amounts.seedsPerValue.nonneg.trans moreSeeds.le⟩ }
  obtain ⟨finite, -, isStalk⟩ :=
    gives_iff.mp (Scenario.simulate_figures precise amounts.isFinite seasons) growth simulated
  obtain ⟨richerFinite, -, isRicherStalk⟩ :=
    gives_iff.mp (Scenario.simulate_figures precise seededAmounts.isFinite seasons) richer seeded
  have value : (scenario.opening context).depositorValue ≤
      ({ scenario with seedsPerValue }.opening context).depositorValue :=
    rounded_mono precise (div_le_div_of_nonneg_right moreSeeds.le amounts.seedsPerBean.nonneg)
  have closes : ({ scenario with seedsPerValue }.closing context seasons).Diluted context
      (scenario.closing context seasons) :=
    (Scenario.opening_diluted precise seededAmounts amounts present le_rfl le_rfl
      value).seasons precise amounts seasons
  refine ⟨finite.stalk, richerFinite.stalk, ?_⟩
  rw [isStalk, isRicherStalk]
  exact rounded_mono precise (sub_le_sub_right closes.depositorStalk _)

/-- The growth of a deposit goes by its share of the silo.  Of two silos of amounts with some
stalk, the one with no less stalk and seeds gives a deposit no more beans and stalk; and in
one silo a deposit with no fewer seeds per value gains no less stalk. -/
theorem Scenario.growth_by_share (precise : 0 < context.precision) (amounts : scenario.IsAmount)
    (present : 0 < scenario.stalk) (seasons : Nat) {growth : Growth}
    (simulated : scenario.simulate context seasons = .ok growth) :
    (∀ stalk seeds diluted, scenario.stalk ≤ stalk → scenario.seeds ≤ seeds →
      { scenario with stalk, seeds }.simulate context seasons = .ok diluted →
        diluted.AtMost growth) ∧
    ∀ seedsPerValue richer, scenario.seedsPerValue.AtMost seedsPerValue →
      { scenario with seedsPerValue }.simulate context seasons = .ok richer →
        growth.stalk.AtMost richer.stalk := by
  constructor
  · intro stalk seeds diluted moreStalk moreSeeds larger
    exact Scenario.simulate_diluted precise amounts present seasons moreStalk moreSeeds simulated
      larger
  · intro seedsPerValue richer moreSeeds seeded
    exact Scenario.simulate_stalk_of_seeds precise amounts present seasons moreSeeds simulated
      seeded

/-- A silo in which a deposit has four seeds per value and beans have three. -/
def smallSilo : Scenario where
  minted := .finite false 25 (-1)
  seedsPerValue := .finite false 4 0
  seedsPerBean := .finite false 3 0
  stalk := 70000000000
  seeds := 5000000

/-- With two digits, a silo of twice the stalk and a deposit of five seeds per value are
compared over four seasons. -/
theorem smallSilo_by_share :
    ∃ growth diluted richer, smallSilo.simulate { precision := 2 } 4 = .ok growth ∧
      { smallSilo with stalk := 140000000000, seeds := 5000000 }.simulate { precision := 2 } 4 =
        .ok diluted ∧
      { smallSilo with seedsPerValue := .finite false 5 0 }.simulate { precision := 2 } 4 =
        .ok richer ∧
      diluted.AtMost growth ∧ growth.stalk.AtMost richer.stalk := by
  have amounts : smallSilo.IsAmount :=
    ⟨isAmount_finite 25 (-1), isAmount_finite 4 0, isAmount_finite 3 0, by decide, by decide⟩
  obtain ⟨growth, simulated⟩ := exists_ok_of_isOk
    (show (smallSilo.simulate { precision := 2 } 4).isOk by decide +kernel)
  obtain ⟨diluted, larger⟩ := exists_ok_of_isOk
    (show ({ smallSilo with stalk := 140000000000, seeds := 5000000 }.simulate
      { precision := 2 } 4).isOk by decide +kernel)
  obtain ⟨richer, seeded⟩ := exists_ok_of_isOk
    (show ({ smallSilo with seedsPerValue := .finite false 5 0 }.simulate
      { precision := 2 } 4).isOk by decide +kernel)
  have moreSeeds : smallSilo.seedsPerValue.AtMost (.finite false 5 0) :=
    ⟨rfl, rfl, by norm_num [smallSilo, sign]⟩
  obtain ⟨dilutes, enriches⟩ := Scenario.growth_by_share (by decide) amounts (by decide) 4
    simulated
  exact ⟨growth, diluted, richer, simulated, larger, seeded,
    dilutes _ _ diluted (by decide) le_rfl larger, enriches _ richer moreSeeds seeded⟩

/-- A silo with stalk that owes seeds, in which beans have so many that the stalk falls below zero
in the first season. -/
def owingSilo : Scenario where
  minted := .finite false 10 0
  seedsPerValue := zero
  seedsPerBean := seedsPerStalk
  stalk := 10000000000
  seeds := -120000000000

/-- A silo with stalk must not owe seeds.  Once its stalk is below zero, a deposit with more seeds
has the greater share of a debt. -/
theorem owingSilo_loses_by_seeds :
    owingSilo.minted.IsAmount ∧ owingSilo.seedsPerValue.AtMost seedsPerStalk ∧
      owingSilo.seedsPerBean.IsPositive ∧ 0 < owingSilo.stalk ∧
      ∃ growth richer, owingSilo.simulate { precision := 34 } 2 = .ok growth ∧
        { owingSilo with seedsPerValue := seedsPerStalk }.simulate { precision := 34 } 2 =
          .ok richer ∧
        richer.stalk.toRat < growth.stalk.toRat := by
  have moreSeeds : owingSilo.seedsPerValue.AtMost seedsPerStalk :=
    ⟨rfl, rfl, by norm_num [owingSilo, seedsPerStalk, sign]⟩
  refine ⟨isAmount_finite 10 0, moreSeeds, by decide, by decide,
    ⟨.finite true 100 0, .finite true 90 0⟩, ⟨.finite true 110 0, .finite true 98 0⟩,
    by decide +kernel, by decide +kernel, ?_⟩
  norm_num [toRat_finite, sign]

end DepositYield.PreGauge
