import DepositYield.Proofs.Yield.Widening

/-!
# A single gauge token

A single token keeps the points per value that it had at the start, while several tokens have
theirs refreshed in each season.  To refresh those of a single token whose points never move
changes nothing but how they are written, as long as they are the rounded quotient of its
points and its value.
-/

namespace DepositYield

open Decimal Decimal.Context

variable {context : Context}

/-! ## Scenarios and silos of a single token -/

/-- A value after an amount has been added to it a number of times. -/
def maturedValue (context : Context) (value germinating : ℚ) : Nat → ℚ
  | 0 => value
  | count + 1 => context.rounded (maturedValue context value germinating count + germinating)

theorem maturedValue_of_nothing {value : ℚ} (settled : context.rounded value = value)
    (count : Nat) : maturedValue context value 0 count = value := by
  induction count with
  | zero => rfl
  | succ count ih => rw [maturedValue, ih, add_zero, settled]

/-- The scenario has a single gauge token, of the given points, value and germinating value. -/
structure GaugeScenario.Single (scenario : GaugeScenario) (points value germinating : Decimal) :
    Prop where
  points : scenario.gaugePoints = [points]
  value : scenario.gaugeValues = [value]
  germinating : ∃ written, scenario.germinatingTokens[scenario.bucket]? = some [written] ∧
    written.read = .ok germinating

/-- The silo has a single gauge token, whose value has matured a number of times and whose
points per value are those it had at the start. -/
structure SiloState.Single (context : Context) (points value germinating : Decimal) (count : Nat)
    (state : SiloState) : Prop where
  hasPoints : state.points = [points]
  hasValue : ∃ matured, state.gaugeTokenValues = [matured] ∧ matured.isFinite ∧
    matured.toRat = maturedValue context value.toRat germinating.toRat count ∧
    (0 < count → context.IsResult matured)
  hasWeight : ∃ weight, state.pointsPerValue = [weight] ∧ state.largestPointsPerValue = weight ∧
    weight.toRat = context.rounded (points.toRat / value.toRat) ∧ context.IsResult weight

/-- The share of a value in itself is nothing or a hundred percent, which no context finds too
large. -/
theorem exists_percent (precise : 0 < context.precision) {value total : Decimal}
    (same : SameValue value total) :
    ∃ share, context.divOrZero value total = .ok share ∧
      ∃ percent, context.mul share hundred = .ok percent := by
  have isOne : one.toRat = 10 ^ (0 : Int) := by rw [toRat_one, zpow_zero]
  have isHundred : hundred.toRat = 10 ^ (2 : Int) := by norm_num [hundred, sign]
  have oneResult : context.IsResult one :=
    isResult_of_pow precise rfl (le_refl 0) (by decide) isOne
  have hundredResult : context.IsResult hundred :=
    isResult_of_pow precise rfl (by decide) (by decide) isHundred
  obtain ⟨whole, wholeResult, isWhole, part, partResult, isPart⟩ :
      ∃ whole, context.IsResult whole ∧
        whole.toRat = context.rounded (value.toRat / total.toRat) ∧
        ∃ part, context.IsResult part ∧
          part.toRat = context.rounded (whole.toRat * hundred.toRat) := by
    by_cases isZero : total.toRat = 0
    · refine ⟨zero, isResult_zero, ?_, zero, isResult_zero, ?_⟩
      · rw [isZero, div_zero, rounded_zero, toRat_zero]
      · rw [toRat_zero, zero_mul, rounded_zero]
    · refine ⟨one, oneResult, ?_, hundred, hundredResult, ?_⟩
      · rw [same.value, div_self isZero, rounded_one precise, toRat_one]
      · rw [toRat_one, one_mul, hundredResult.settled]
  obtain ⟨share, shared, sameShare⟩ :=
    exists_divOrZero_same precise same.leftFinite same.rightFinite wholeResult isWhole
  have calculates := mul_calculates precise sameShare.rightFinite (rfl : hundred.isFinite)
  rw [← sameShare.value] at calculates
  obtain ⟨percent, multiplied, -⟩ := calculates.exists_same partResult isPart
  exact ⟨share, shared, percent, multiplied⟩

namespace GaugeScenario

variable {scenario : GaugeScenario} {points value germinating : Decimal} {state : SiloState}

theorem Single.tokenCount (single : scenario.Single points value germinating) :
    scenario.tokenCount = 1 := by
  rw [GaugeScenario.tokenCount, single.points]
  rfl

theorem exists_single (fits : scenario.FitsIdentity) (alone : scenario.tokenCount = 1) :
    ∃ points value germinating, scenario.Single points value germinating := by
  obtain ⟨points, isPoints⟩ := List.length_eq_one_iff.mp alone
  obtain ⟨value, isValue⟩ := List.length_eq_one_iff.mp (fits.valueAmounts.length.trans alone)
  obtain ⟨bucket, isBucket, filled⟩ :=
    (germinatingTokens_filled fits).exists_getElem? (bucket_lt scenario)
  obtain ⟨written, isWritten⟩ := List.length_eq_one_iff.mp (filled.length.trans alone)
  obtain ⟨germinating, read, -⟩ := filled.each written (by simp [isWritten])
  exact ⟨points, value, germinating, isPoints, isValue, written, isWritten ▸ isBucket, read⟩

variable (precise : 0 < context.precision)

include precise

theorem matureTokens_single {before : Decimal} {written : Written} (beforeFinite : before.isFinite)
    (read : written.read = .ok germinating) (germinatingFinite : germinating.isFinite) :
    Gives
      (fun values => ∃ matured, values = [matured] ∧ context.IsResult matured ∧
        matured.toRat = context.rounded (before.toRat + germinating.toRat))
      (matureTokens context 1 [before] [written]) := by
  have reads : Gives (· = germinating) written.read := by
    rw [read]
    exact rfl
  have calculates := add_calculates precise beforeFinite germinatingFinite
  apply (Gives.lift reads).bind
  rintro _ rfl
  apply (Gives.lift (calculates.gives.and (calculates.gives_result precise))).bind
  rintro matured ⟨⟨-, isMatured⟩, isResult⟩
  exact ⟨matured, rfl, isResult, isMatured⟩

variable (single : scenario.Single points value germinating)

include single

theorem initial_single (pointsFinite : points.isFinite) (valueFinite : value.isFinite) :
    Gives (SiloState.Single context points value germinating 0) (scenario.initial context) := by
  have quotients : Gives
      (fun weights => ∃ weight, weights = [weight] ∧
        weight.toRat = context.rounded (points.toRat / value.toRat) ∧ context.IsResult weight)
      (quotients context scenario.gaugePoints scenario.gaugeValues) := by
    rw [single.points, single.value]
    apply ((divOrZero_calculates precise pointsFinite valueFinite).and
      (divOrZero_result precise pointsFinite valueFinite)).bind
    rintro weight ⟨⟨-, isWeight⟩, isResult⟩
    exact ⟨weight, rfl, isWeight, isResult⟩
  apply quotients.bind
  rintro _ ⟨weight, rfl, isWeight, isResult⟩
  apply (Settles.any _).bind
  intro tokenValue _
  apply (Settles.any _).bind
  intro gaugeValue _
  apply (Settles.any _).bind
  intro totalValue _
  exact {
    hasPoints := single.points
    hasValue := ⟨value, single.value, valueFinite, rfl, fun none => absurd none (Nat.lt_irrefl 0)⟩
    hasWeight := ⟨weight, rfl, rfl, isWeight, isResult⟩ }

/-- Value that becomes live is added to the single token's. -/
theorem mature_single (germinatingFinite : germinating.isFinite) {count : Nat}
    (holds : state.Single context points value germinating count) :
    Gives (SiloState.Single context points value germinating (count + 1))
      (mature context scenario state) := by
  obtain ⟨written, isBucket, read⟩ := single.germinating
  obtain ⟨before, isBefore, beforeFinite, isNumber, -⟩ := holds.hasValue
  have bucket : (entry scenario.germinatingTokens scenario.bucket :
      Except YieldFailure (List Written)) = .ok [written] := by
    rw [entry, isBucket]
  apply (Settles.any _).bind
  intro germinatedBean _
  apply (Settles.any _).bind
  intro beanValue _
  rw [if_neg (by rw [single.tokenCount]; exact Nat.one_ne_zero), bucket, single.tokenCount,
    isBefore]
  apply (matureTokens_single precise beforeFinite read germinatingFinite).bind
  rintro _ ⟨matured, rfl, isResult, isMatured⟩
  rw [isNumber] at isMatured
  apply (Settles.any _).bind
  intro tokenValue _
  apply (Settles.any _).bind
  intro gaugeValue _
  apply (Settles.any _).bind
  intro germinatedOther _
  apply (Settles.any _).bind
  intro nonGaugeValue _
  apply (Settles.any _).bind
  intro totalValue _
  exact { holds with
    hasValue := ⟨matured, rfl, isResult.finite, isMatured, fun _ => isResult⟩ }

/-- To refresh the weight of a single token changes nothing but how the weight is written, if
it is the rounded quotient of points and value. -/
theorem rebalance_single (fits : scenario.FitsIdentity) {matured weight : Decimal}
    (pointsFinite : points.isFinite) (isPoints : state.points = [points])
    (isValue : state.gaugeTokenValues = [matured]) (valueResult : context.IsResult matured)
    (weightResult : context.IsResult weight)
    (fresh : weight.toRat = context.rounded (points.toRat / matured.toRat)) :
    ∃ refreshed, SameValue weight refreshed ∧
      rebalance context scenario state = .ok { state with
        points := [points]
        pointsPerValue := [refreshed]
        largestPointsPerValue := refreshed } := by
  have alone : 0 < scenario.tokenCount := fits.present
  obtain ⟨total, summed, sameTotal⟩ := exists_sum_single precise valueResult
  obtain ⟨share, shared, percent, multiplied⟩ := exists_percent precise sameTotal
  have isRule := entry_rules fits.terms.pointRules rfl alone
  obtain ⟨optimal, isOptimal⟩ := exists_optimalPercent fits alone
  obtain ⟨refreshed, divided, sameWeight⟩ :=
    exists_divOrZero_same precise pointsFinite valueResult.finite weightResult fresh
  have moved : rebalanceToken context scenario state total 0 = .ok (points, refreshed) := by
    simp only [rebalanceToken, bind_eq_ok_iff, liftM_eq_ok_iff]
    exact ⟨matured, by rw [isValue]; rfl, share, shared, percent, multiplied, .identity, isRule,
      points, by rw [isPoints]; rfl, optimal, isOptimal, points, rfl, refreshed, divided, rfl⟩
  refine ⟨refreshed, sameWeight, ?_⟩
  simp only [rebalance, single.tokenCount, bind_eq_ok_iff, liftM_eq_ok_iff]
  exact ⟨total, by rw [isValue, summed], [(points, refreshed)],
    mapM_eq_ok_iff.mpr (.cons moved .nil), refreshed, rfl, rfl⟩

end GaugeScenario

/-! ## A season -/

namespace GaugeScenario

variable {scenario : GaugeScenario} {state : SiloState} {season : Nat}

/-- The rounded points per value of a single gauge token are the same at the start and in each
season in which germinating value has become live. -/
def KeepsWeight (context : Context) (scenario : GaugeScenario) (seasons : Nat) : Prop :=
  ∀ points value germinating, scenario.Single points value germinating →
    ∀ season < seasons, season < germinationSeasons →
      context.rounded
          (points.toRat / maturedValue context value.toRat germinating.toRat (season + 1)) =
        context.rounded (points.toRat / value.toRat)

/-- A single gauge token has matured as often as it does in a number of seasons. -/
def Tracks (context : Context) (scenario : GaugeScenario) (season : Nat) (state : SiloState) :
    Prop :=
  ∀ points value germinating, scenario.Single points value germinating →
    state.Single context points value germinating (min season germinationSeasons)

/-- What can be said of the parts of a single token that fits. -/
theorem Single.amounts {points value germinating : Decimal}
    (single : scenario.Single points value germinating)
    (fits : scenario.FitsIdentity) :
    points.IsAmount ∧ value.IsAmount ∧ germinating.IsAmount := by
  obtain ⟨written, isBucket, read⟩ := single.germinating
  have filled := (germinatingTokens_filled fits).each _ (List.mem_of_getElem? isBucket)
  obtain ⟨_, readAgain, amount⟩ := filled.each written (.head _)
  obtain rfl := Except.ok.inj (readAgain.symm.trans read)
  exact ⟨fits.pointAmounts points (by simp [single.points]),
    fits.valueAmounts.each value (by simp [single.value]), amount⟩

variable (precise : 0 < context.precision) (fits : scenario.FitsIdentity)

include precise fits

theorem initial_tracks : Gives (Tracks context scenario 0) (scenario.initial context) := by
  rw [gives_iff]
  intro state started points value germinating single
  obtain ⟨pointsAmount, valueAmount, -⟩ := single.amounts fits
  exact gives_iff.mp (initial_single precise single pointsAmount.finite valueAmount.finite) state
    started

theorem matureIn_tracks (tracks : Tracks context scenario season state) :
    Gives (Tracks context scenario (season + 1)) (matureIn context scenario season state) := by
  rw [gives_iff]
  intro matured matures points value germinating single
  obtain ⟨-, -, germinatingAmount⟩ := single.amounts fits
  have before := tracks points value germinating single
  unfold matureIn at matures
  split at matures
  · next early =>
      rw [Nat.min_eq_left early.le] at before
      rw [Nat.min_eq_left early]
      exact gives_iff.mp (mature_single precise single germinatingAmount.finite before) matured
        matures
  · next late =>
      obtain rfl := Except.ok.inj matures
      rw [not_lt] at late
      rw [Nat.min_eq_right late] at before
      rwa [Nat.min_eq_right (Nat.le_succ_of_le late)]

end GaugeScenario

end DepositYield
