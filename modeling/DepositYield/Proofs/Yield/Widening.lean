import DepositYield.Proofs.Decimal.Alike
import DepositYield.Proofs.Yield.Cover

/-!
# A silo with one more gauge token

A gauge token without points and value is put at the end of the lists of a scenario whose
points never move.  The silos with and without the token go through a season side by side:
their sums and greatest weights have the same values, so both seasons grow the same, or stop
for the same failure.
-/

namespace DepositYield

open Decimal Decimal.Context

/-- Arithmetic inside a model gives what it gives alone, or stops for the same failure. -/
theorem Alike.lift {First Second : Type} {related : First → Second → Prop}
    {left : Except Signal First} {right : Except Signal Second} (alike : Alike related left right) :
    Alike related (liftM left : Except YieldFailure First)
      (liftM right : Except YieldFailure Second) :=
  alike.mapError (fun _ => id) fun _ => id

/-! ## Scenarios with one more token -/

/-- A gauge token as it is given. -/
structure GaugeToken where
  points : Written
  value : Written
  /-- What germinates of it, in even and in odd seasons. -/
  germinating : Written
  optimalPercent : Written

/-- The given decimal can be read and is an amount. -/
def Decimal.Written.IsAmount (written : Written) : Prop :=
  ∃ decimal, written.read = .ok decimal ∧ decimal.IsAmount

theorem Decimal.Written.IsAmount.reads {written : Written} (amount : written.IsAmount) :
    written.ReadsAmount := by
  obtain ⟨decimal, read, isAmount⟩ := amount
  rw [ReadsAmount, read]
  exact isAmount

/-- The given decimal can be read and is zero. -/
def Decimal.Written.IsZero (written : Written) : Prop :=
  ∃ decimal, written.read = .ok decimal ∧ decimal.DenotesZero

/-- A gauge token of which there is nothing. -/
structure GaugeToken.IsEmpty (token : GaugeToken) : Prop where
  points : token.points.IsZero
  value : token.value.IsZero
  germinating : token.germinating.IsZero
  optimalPercent : token.optimalPercent.IsZero

/-- The terms with one more gauge token, whose points never move. -/
def GaugeTerms.withToken (terms : GaugeTerms) (token : GaugeToken) : GaugeTerms :=
  { terms with
    optimalPercents := terms.optimalPercents ++ [token.optimalPercent]
    germinatingGauge := terms.germinatingGauge.map (· ++ [token.germinating])
    pointRules := if terms.pointRules.isEmpty then [] else terms.pointRules ++ [.identity] }

/-- The scenario with one more gauge token, whose points and value have been read. -/
def GaugeScenario.withToken (scenario : GaugeScenario) (token : GaugeToken)
    (points value : Decimal) : GaugeScenario :=
  { scenario with
    toGaugeTerms := scenario.toGaugeTerms.withToken token
    gaugePoints := scenario.gaugePoints ++ [points]
    gaugeValues := scenario.gaugeValues ++ [value] }

/-- The scenario with one more gauge token. -/
def WrittenScenario.withToken (written : WrittenScenario) (token : GaugeToken) :
    WrittenScenario :=
  { written with
    toGaugeTerms := written.toGaugeTerms.withToken token
    gaugePoints := written.gaugePoints ++ [token.points]
    gaugeValues := written.gaugeValues ++ [token.value] }

/-- The terms have an entry for each of a number of gauge tokens in either bucket, none of
which moves its points, and track assets among them. -/
structure GaugeTerms.FitIdentity (count : Nat) (terms : GaugeTerms) : Prop where
  assets : ∀ index ∈ terms.assets, -2 ≤ index ∧ index < count
  optimalPercents : Filled Written.IsFinite count terms.optimalPercents
  germinatingGauge :
    terms.germinatingGauge = [] ∨ Filled (Filled Written.IsAmount count) 2 terms.germinatingGauge
  pointRules : terms.pointRules = [] ∨ Filled (· = .identity) count terms.pointRules

/-- A scenario in finite decimals whose gauge tokens, of which there is at least one, have
amounts of points and value. -/
structure GaugeScenario.FitsIdentity (scenario : GaugeScenario) : Prop where
  finite : scenario.IsFinite
  terms : scenario.toGaugeTerms.FitIdentity scenario.tokenCount
  present : 0 < scenario.tokenCount
  pointAmounts : ∀ value ∈ scenario.gaugePoints, value.IsAmount
  valueAmounts : Filled IsAmount scenario.tokenCount scenario.gaugeValues

/-! ## Silos with one more token -/

/-- The right silo has one more gauge token, of no points and value, and the numbers of the left
one otherwise. -/
structure SiloState.Widened (count : Nat) (left right : SiloState) : Prop where
  ratio : left.ratio = right.ratio
  beanValue : SameValue left.beanValue right.beanValue
  gaugeTokenValues : WithZero left.gaugeTokenValues right.gaugeTokenValues
  points : WithZero left.points right.points
  pointsPerValue : WithZero left.pointsPerValue right.pointsPerValue
  largestPointsPerValue : SameValue left.largestPointsPerValue right.largestPointsPerValue
  nonGaugeValue : SameValue left.nonGaugeValue right.nonGaugeValue
  gaugeValue : SameValue left.gaugeValue right.gaugeValue
  totalValue : SameValue left.totalValue right.totalValue
  totalStalk : SameValue left.totalStalk right.totalStalk
  valueAmounts : Filled IsAmount count left.gaugeTokenValues
  pointAmounts : Filled IsAmount count left.points
  weights : left.pointsPerValue.length = count

/-- Growths of silos with and without the token. -/
structure SeasonGrowth.Widened (count : Nat) (left right : SeasonGrowth) : Prop where
  grownStalk : SameValue left.grownStalk right.grownStalk
  pointTotal : SameValue left.pointTotal right.pointTotal
  beanSeeds : SameValue left.beanSeeds right.beanSeeds
  pointsPerValue : WithZero left.pointsPerValue right.pointsPerValue
  totalStalk : SameValue left.totalStalk right.totalStalk
  weights : left.pointsPerValue.length = count

/-- Depositors of the same asset, which is not the new token, and of the same numbers. -/
structure Depositor.Widened (count : Nat) (left right : Depositor) : Prop where
  asset : left.asset = right.asset
  within : left.asset.Within count
  staticSeeds : left.staticSeeds = right.staticSeeds
  seedsFinite : ∀ seeds, left.staticSeeds = some seeds → seeds.ReadsFinite
  beans : SameValue left.beans right.beans
  tokens : SameValue left.tokens right.tokens
  stalk : SameValue left.stalk right.stalk

/-- Yields of the same asset and of the same numbers. -/
structure AssetGrowth.SameValues (left right : AssetGrowth) : Prop where
  asset : left.asset = right.asset
  bean : SameValue left.growth.bean right.growth.bean
  stalk : SameValue left.growth.stalk right.growth.stalk

namespace GaugeScenario

variable {context : Context} {scenario : GaugeScenario} {token : GaugeToken}
  {points value : Decimal} {left right : SiloState}

/-! ## Entries -/

theorem tokenCount_withToken :
    (scenario.withToken token points value).tokenCount = scenario.tokenCount + 1 :=
  List.length_append

/-- The entries but the last one have the same values. -/
theorem entry_alike {lefts rights : List Decimal} (extended : WithZero lefts rights)
    {position : Nat} (within : position < lefts.length) :
    Alike (fun value other => SameValue value other ∧ value ∈ lefts)
      (entry lefts position : Except YieldFailure Decimal) (entry rights position) := by
  obtain ⟨others, nothing, rfl, same, -⟩ := extended
  have held := List.getElem?_eq_getElem within
  obtain ⟨other, isOther, pair⟩ := exists_getElem?_of_forall₂ same held
  have otherHeld : (others ++ [nothing])[position]? = some other := by
    rw [List.getElem?_append_left (same.length_eq ▸ within), isOther]
  rw [entry, entry, held, otherHeld]
  exact .values ⟨pair, List.getElem_mem within⟩

/-- The last entry is zero. -/
theorem entry_last {lefts rights : List Decimal} (extended : WithZero lefts rights) :
    ∃ nothing, (entry rights lefts.length : Except YieldFailure Decimal) = .ok nothing ∧
      nothing.DenotesZero := by
  obtain ⟨others, nothing, rfl, same, isZero⟩ := extended
  refine ⟨nothing, ?_, isZero⟩
  rw [entry, same.length_eq, List.getElem?_concat_length]

/-- No token moves its points. -/
theorem entry_rules {scenario : GaugeScenario} {count : Nat}
    (fits : scenario.pointRules = [] ∨ Filled (· = .identity) count scenario.pointRules)
    (counts : scenario.tokenCount = count) {position : Nat} (within : position < count) :
    (entry scenario.rules position : Except YieldFailure PointRule) = .ok .identity := by
  unfold rules
  rcases fits with none | filled
  · rw [none, List.isEmpty_nil, if_pos rfl, entry, List.getElem?_replicate, counts, if_pos within]
  · obtain ⟨rule, held, rfl⟩ := filled.exists_getElem? within
    have nonempty : scenario.pointRules.isEmpty = false := by
      rw [List.isEmpty_eq_false_iff]
      exact List.ne_nil_of_length_pos (by rw [filled.length]; omega)
    rw [nonempty, if_neg Bool.false_ne_true, entry, held]

theorem entry_rules_withToken (fits : scenario.FitsIdentity) (token : GaugeToken)
    (points value : Decimal) {position : Nat} (within : position < scenario.tokenCount + 1) :
    (entry (scenario.withToken token points value).rules position :
      Except YieldFailure PointRule) = .ok .identity := by
  refine entry_rules ?_ tokenCount_withToken within
  rcases fits.terms.pointRules with none | filled
  · exact .inl (if_pos (List.isEmpty_iff.mpr none))
  · by_cases empty : scenario.pointRules.isEmpty
    · exact .inl (if_pos empty)
    · right
      have appended : (scenario.withToken token points value).pointRules =
          scenario.pointRules ++ [.identity] := if_neg empty
      rw [appended]
      refine ⟨by rw [List.length_append, filled.length]; rfl, ?_⟩
      intro rule inside
      rcases List.mem_append.mp inside with among | last
      · exact filled.each rule among
      · exact List.mem_singleton.mp last

theorem exists_optimalPercent (fits : scenario.FitsIdentity) {position : Nat}
    (within : position < scenario.tokenCount) :
    ∃ optimal, decimalEntry scenario.optimalPercents position = .ok optimal := by
  obtain ⟨written, held, optimal, read, -⟩ := fits.terms.optimalPercents.exists_getElem? within
  refine ⟨optimal, ?_⟩
  simp only [decimalEntry, entry, held, bind_eq_ok_iff]
  exact ⟨written, rfl, liftM_eq_ok_iff.mpr read⟩

/-- The optimal shares but the last one are those of the scenario without the token. -/
theorem decimalEntry_withToken (fits : scenario.FitsIdentity) (token : GaugeToken)
    (points value : Decimal) {position : Nat} (within : position < scenario.tokenCount) :
    decimalEntry (scenario.withToken token points value).optimalPercents position =
      decimalEntry scenario.optimalPercents position := by
  have inside : position < scenario.optimalPercents.length := by
    rwa [fits.terms.optimalPercents.length]
  change decimalEntry (scenario.optimalPercents ++ [token.optimalPercent]) position = _
  unfold decimalEntry entry
  rw [List.getElem?_append_left inside]

theorem decimalEntry_last (fits : scenario.FitsIdentity) (empty : token.IsEmpty)
    (points value : Decimal) :
    ∃ optimal, decimalEntry (scenario.withToken token points value).optimalPercents
      scenario.tokenCount = .ok optimal := by
  obtain ⟨optimal, read, -⟩ := empty.optimalPercent
  have held : (scenario.withToken token points value).optimalPercents[scenario.tokenCount]? =
      some token.optimalPercent := by
    change (scenario.optimalPercents ++ [token.optimalPercent])[scenario.tokenCount]? = _
    rw [← fits.terms.optimalPercents.length, List.getElem?_concat_length]
  refine ⟨optimal, ?_⟩
  simp only [decimalEntry, entry, held, bind_eq_ok_iff]
  exact ⟨token.optimalPercent, rfl, liftM_eq_ok_iff.mpr read⟩

theorem germinatingTokens_filled (fits : scenario.FitsIdentity) :
    Filled (Filled Written.IsAmount scenario.tokenCount) 2 scenario.germinatingTokens := by
  unfold germinatingTokens
  split
  · have nothing : Filled Written.IsAmount scenario.tokenCount
        (List.replicate scenario.tokenCount (.value zero)) := by
      refine ⟨List.length_replicate, ?_⟩
      intro written among
      obtain rfl := List.eq_of_mem_replicate among
      exact ⟨zero, rfl, isAmount_zero⟩
    exact .cons nothing (.cons nothing .nil)
  · next some =>
      exact fits.terms.germinatingGauge.resolve_left fun none =>
        some (List.isEmpty_iff.mpr none)

/-- Of the new token nothing germinates, by its own entry or for want of any. -/
theorem germinatingTokens_withToken (empty : token.IsEmpty) :
    ∃ nothing : Written, nothing.IsZero ∧
      (scenario.withToken token points value).germinatingTokens =
        scenario.germinatingTokens.map (· ++ [nothing]) := by
  have mapped : (scenario.withToken token points value).germinatingGauge =
      scenario.germinatingGauge.map (· ++ [token.germinating]) := rfl
  unfold germinatingTokens
  rw [mapped, List.isEmpty_map, tokenCount_withToken, List.replicate_succ']
  split
  · exact ⟨.value zero, ⟨zero, rfl, rfl, toRat_zero⟩, rfl⟩
  · exact ⟨token.germinating, empty.germinating, rfl⟩

/-- What germinates of the tokens is the same, with a zero at its end. -/
theorem germinating_alike (fits : scenario.FitsIdentity) (empty : token.IsEmpty)
    (position : Nat) :
    Alike
      (fun bucket others => Filled Written.ReadsAmount scenario.tokenCount bucket ∧
        ∃ nothing : Written, others = bucket ++ [nothing] ∧ nothing.IsZero)
      (entry scenario.germinatingTokens position : Except YieldFailure (List Written))
      (entry (scenario.withToken token points value).germinatingTokens position) := by
  obtain ⟨nothing, isZero, extended⟩ := germinatingTokens_withToken empty
  unfold entry
  rw [extended, List.getElem?_map]
  cases held : scenario.germinatingTokens[position]? with
  | none => exact .failures _
  | some bucket =>
      have filled := (germinatingTokens_filled fits).each bucket (List.mem_of_getElem? held)
      exact .values ⟨⟨filled.length, fun written inside => (filled.each written inside).reads⟩,
        nothing, rfl, isZero⟩

variable (precise : 0 < context.precision)

include precise

/-! ## Before the first season -/

theorem quotients_alike {points values otherPoints otherValues : List Decimal}
    (pointsExtended : WithZero points otherPoints) (valuesExtended : WithZero values otherValues)
    (lengths : points.length = values.length) :
    Alike (fun lefts rights => WithZero lefts rights ∧ lefts.length = points.length)
      (quotients context points values) (quotients context otherPoints otherValues) := by
  obtain ⟨firsts, noPoints, rfl, samePoints, pointsZero⟩ := pointsExtended
  obtain ⟨seconds, noValue, rfl, sameValues, valueZero⟩ := valuesExtended
  have aligned : firsts.length = seconds.length := by
    rw [← samePoints.length_eq, ← sameValues.length_eq, lengths]
  have each : List.Forall₂
      (fun item other : Decimal × Decimal =>
        Alike SameValue (context.divOrZero item.1 item.2) (context.divOrZero other.1 other.2))
      (points.zip values) (firsts.zip seconds) :=
    (forall₂_zip samePoints sameValues).imp fun _ _ both => divOrZero_alike precise both.1 both.2
  have last : quotients context [noPoints] [noValue] = .ok [zero] := by
    unfold quotients
    rw [mapM_eq_ok_iff]
    exact .cons (divOrZero_by_zero noPoints valueZero) .nil
  unfold quotients at last ⊢
  rw [List.zip_append aligned, List.mapM_append, ← bind_pure ((points.zip values).mapM _)]
  apply ((Coincide.mapM each).and_left (Settles.length_mapM fun _ _ => Settles.any _)).bind
  rintro lefts rights ⟨same, count⟩
  rw [last]
  refine .values ⟨⟨rights, zero, rfl, same, isFinite_zero, toRat_zero⟩, ?_⟩
  rw [count, List.length_zip, lengths, Nat.min_self]

theorem initial_alike (fits : scenario.FitsIdentity) (pointsZero : points.DenotesZero)
    (valueZero : value.DenotesZero) :
    Alike (SiloState.Widened scenario.tokenCount) (scenario.initial context)
      ((scenario.withToken token points value).initial context) := by
  have pointsExtended := WithZero.concat fits.finite.gaugePoints pointsZero
  have valuesExtended := WithZero.concat fits.finite.gaugeValues valueZero
  apply ((quotients_alike precise pointsExtended valuesExtended
    fits.valueAmounts.length.symm).and_left
      (quotients_amounts precise fits.pointAmounts fits.valueAmounts.each)).bind
  rintro pointsPerValue weights ⟨⟨weightsExtended, count⟩, weightAmounts⟩
  apply (sum_alike precise valuesExtended).bind
  intro tokenValue otherTokenValue sameTokenValue
  apply (Agree.add precise (.refl fits.finite.beanValue) sameTokenValue).alike.bind
  intro gaugeValue otherGaugeValue sameGaugeValue
  apply (Agree.add precise sameGaugeValue (.refl fits.finite.nonGaugeValue)).alike.bind
  intro totalValue otherTotalValue sameTotalValue
  apply (greatest_alike weightAmounts weightsExtended).bind
  intro largest otherLargest sameLargest
  exact .values {
    ratio := rfl
    beanValue := .refl fits.finite.beanValue
    gaugeTokenValues := valuesExtended
    points := pointsExtended
    pointsPerValue := weightsExtended
    largestPointsPerValue := sameLargest
    nonGaugeValue := .refl fits.finite.nonGaugeValue
    gaugeValue := sameGaugeValue
    totalValue := sameTotalValue
    totalStalk := .refl fits.finite.siloStalk
    valueAmounts := fits.valueAmounts
    pointAmounts := ⟨rfl, fits.pointAmounts⟩
    weights := count }

/-! ## Value that becomes live -/

theorem matureTokens_alike {values others : List Decimal} {germinating : List Written}
    {noValue : Decimal} {noGermination : Written} (same : List.Forall₂ SameValue values others)
    (amounts : ∀ value ∈ values, value.IsAmount)
    (filled : Filled Written.ReadsAmount values.length germinating)
    (valueZero : noValue.DenotesZero) (germinationZero : noGermination.IsZero) :
    Alike (fun matured other => WithZero matured other ∧ Filled IsAmount values.length matured)
      (matureTokens context values.length values germinating)
      (matureTokens context (values.length + 1) (others ++ [noValue])
        (germinating ++ [noGermination])) := by
  induction same generalizing germinating with
  | nil =>
      obtain rfl := List.length_eq_zero_iff.mp filled.length
      obtain ⟨nothing, read, isZero⟩ := germinationZero
      have calculates := add_calculates precise valueZero.finite isZero.finite
      rw [valueZero.value, isZero.value, add_zero] at calculates
      obtain ⟨sum, added, sameSum⟩ := calculates.exists_zero
      have matured : matureTokens context 1 [noValue] [noGermination] = .ok [sum] := by
        simp only [matureTokens, bind_eq_ok_iff, liftM_eq_ok_iff]
        exact ⟨nothing, read, sum, added, [], rfl, rfl⟩
      change Alike _ _ (matureTokens context 1 [noValue] [noGermination])
      rw [matured]
      exact .values ⟨⟨[], sum, rfl, .nil, sameSum.leftFinite, sameSum.value.trans toRat_zero⟩, .nil⟩
  | cons first _ ih =>
      obtain ⟨written, rest, rfl, reads, restFilled⟩ := filled.exists_cons
      rw [List.forall_mem_cons] at amounts
      simp only [matureTokens, List.length_cons, List.cons_append]
      apply (Coincide.same_of_gives (Gives.lift reads)).bind
      rintro germinated _ ⟨rfl, germinatedAmount⟩
      have sums := (Agree.add precise first (.refl germinatedAmount.finite)).alike.and_left
        (add_amounts precise amounts.1 germinatedAmount)
      apply (Alike.lift sums).bind
      rintro matured otherMatured ⟨sameMatured, maturedAmount, -⟩
      apply (ih amounts.2 restFilled).bind
      rintro later otherLater ⟨⟨_, nothing, rfl, sameLater, isZero⟩, laterFilled⟩
      exact .values ⟨⟨_, nothing, rfl, .cons sameMatured sameLater, isZero⟩,
        laterFilled.cons maturedAmount⟩

theorem mature_alike (fits : scenario.FitsIdentity) (empty : token.IsEmpty)
    (widened : left.Widened scenario.tokenCount right) :
    Alike (SiloState.Widened scenario.tokenCount) (mature context scenario left)
      (mature context (scenario.withToken token points value) right) := by
  have bean := decimalEntry_gives fits.finite.germinatingBean scenario.bucket
  have nonGauge := decimalEntry_gives fits.finite.germinatingNonGauge scenario.bucket
  apply (Coincide.same_of_gives bean).bind
  rintro germinatedBean _ ⟨rfl, germinatedBeanFinite⟩
  apply (Agree.add precise widened.beanValue (.refl germinatedBeanFinite)).alike.lift.bind
  intro beanValue otherBeanValue sameBeanValue
  rw [if_neg fits.present.ne', if_neg (by rw [tokenCount_withToken]; omega)]
  apply (germinating_alike fits empty scenario.bucket).bind
  rintro germinating _ ⟨filled, nothing, rfl, isZero⟩
  obtain ⟨others, noValue, isRight, same, valueZero⟩ := widened.gaugeTokenValues
  have tokens := matureTokens_alike precise same widened.valueAmounts.each
    (widened.valueAmounts.length.symm ▸ filled) valueZero isZero
  rw [widened.valueAmounts.length] at tokens
  rw [tokenCount_withToken, isRight]
  apply tokens.bind
  rintro gaugeTokenValues otherTokenValues ⟨valuesExtended, valueAmounts⟩
  apply (sum_alike precise valuesExtended).lift.bind
  intro tokenValue otherTokenValue sameTokenValue
  apply (Agree.add precise sameBeanValue sameTokenValue).alike.lift.bind
  intro gaugeValue otherGaugeValue sameGaugeValue
  apply (Coincide.same_of_gives nonGauge).bind
  rintro germinatedOther _ ⟨rfl, germinatedOtherFinite⟩
  apply (Agree.add precise widened.nonGaugeValue (.refl germinatedOtherFinite)).alike.lift.bind
  intro nonGaugeValue otherNonGaugeValue sameNonGaugeValue
  apply (Agree.add precise sameGaugeValue sameNonGaugeValue).alike.lift.bind
  intro totalValue otherTotalValue sameTotalValue
  exact .values { widened with
    beanValue := sameBeanValue
    gaugeTokenValues := valuesExtended
    nonGaugeValue := sameNonGaugeValue
    gaugeValue := sameGaugeValue
    totalValue := sameTotalValue
    valueAmounts := valueAmounts }

/-! ## Points that do not move -/

/-- The new points and the weight of a token are those it has without the new token. -/
theorem rebalanceToken_alike (fits : scenario.FitsIdentity)
    (widened : left.Widened scenario.tokenCount right) {valueSum otherSum : Decimal}
    (sums : SameValue valueSum otherSum) {position : Nat}
    (within : position < scenario.tokenCount) :
    Alike
      (fun moved other => SameValue moved.1 other.1 ∧ SameValue moved.2 other.2 ∧
        moved.1.IsAmount ∧ moved.2.IsAmount)
      (rebalanceToken context scenario left valueSum position)
      (rebalanceToken context (scenario.withToken token points value) right otherSum
        position) := by
  have rules : Alike (fun rule other => rule = .identity ∧ other = .identity)
      (entry scenario.rules position : Except YieldFailure PointRule)
      (entry (scenario.withToken token points value).rules position) := by
    rw [entry_rules fits.terms.pointRules rfl within,
      entry_rules_withToken fits token points value (Nat.lt_succ_of_lt within)]
    exact .values ⟨rfl, rfl⟩
  obtain ⟨optimal, isOptimal⟩ := exists_optimalPercent fits within
  unfold rebalanceToken
  apply (entry_alike widened.gaugeTokenValues (widened.valueAmounts.length.symm ▸ within)).bind
  rintro held other ⟨sameValue, valueInside⟩
  apply (divOrZero_alike precise sameValue sums).lift.bind
  intro share otherShare sameShare
  apply (Agree.mul precise sameShare (.refl (rfl : hundred.isFinite))).alike.lift.bind
  intro percent otherPercent _
  apply rules.bind
  rintro _ _ ⟨rfl, rfl⟩
  apply (entry_alike widened.points (widened.pointAmounts.length.symm ▸ within)).bind
  rintro point otherPoint ⟨samePoint, pointInside⟩
  rw [decimalEntry_withToken fits token points value within, isOptimal]
  have pointAmount := widened.pointAmounts.each point pointInside
  have quotients := (divOrZero_alike precise samePoint sameValue).and_left
    (divOrZero_amounts precise pointAmount (widened.valueAmounts.each held valueInside))
  apply (Alike.lift quotients).bind
  rintro weight otherWeight ⟨sameWeight, weightAmount⟩
  exact .values ⟨samePoint, sameWeight, pointAmount, weightAmount⟩

/-- The new token has no points and no weight. -/
theorem rebalanceToken_last (fits : scenario.FitsIdentity) (empty : token.IsEmpty)
    (points value : Decimal) (widened : left.Widened scenario.tokenCount right)
    {valueSum : Decimal} (finite : valueSum.isFinite) :
    ∃ moved : Decimal × Decimal,
      rebalanceToken context (scenario.withToken token points value) right valueSum
        scenario.tokenCount = .ok moved ∧ moved.1.DenotesZero ∧ moved.2.DenotesZero := by
  obtain ⟨noValue, isValue, valueZero⟩ := entry_last widened.gaugeTokenValues
  obtain ⟨noPoints, isPoints, pointsZero⟩ := entry_last widened.points
  rw [widened.valueAmounts.length] at isValue
  rw [widened.pointAmounts.length] at isPoints
  obtain ⟨optimal, isOptimal⟩ := decimalEntry_last fits empty points value
  have isRule := entry_rules_withToken fits token points value (Nat.lt_succ_self _)
  obtain ⟨share, shared, shareZero⟩ := exists_divOrZero_of_zero precise valueZero finite
  have calculates := mul_calculates precise shareZero.finite (rfl : hundred.isFinite)
  rw [shareZero.value, zero_mul] at calculates
  obtain ⟨percent, multiplied, -⟩ := calculates.exists_zero
  refine ⟨(noPoints, zero), ?_, pointsZero, isFinite_zero, toRat_zero⟩
  simp only [rebalanceToken, bind_eq_ok_iff, liftM_eq_ok_iff]
  exact ⟨noValue, isValue, share, shared, percent, multiplied, .identity, isRule, noPoints,
    isPoints, optimal, isOptimal, noPoints, rfl, zero, divOrZero_by_zero noPoints valueZero, rfl⟩

/-- The refreshed weights are those that the tokens have without the new one. -/
theorem rebalance_alike (fits : scenario.FitsIdentity) (empty : token.IsEmpty)
    (widened : left.Widened scenario.tokenCount right) :
    Alike (SiloState.Widened scenario.tokenCount) (rebalance context scenario left)
      (rebalance context (scenario.withToken token points value) right) := by
  apply (sum_alike precise widened.gaugeTokenValues).lift.bind
  intro valueSum otherSum sums
  obtain ⟨last, isLast, pointsZero, weightZero⟩ :=
    rebalanceToken_last precise fits empty points value widened sums.rightFinite
  have each : List.Forall₂
      (fun position other => Alike
        (fun moved other => SameValue moved.1 other.1 ∧ SameValue moved.2 other.2 ∧
          moved.1.IsAmount ∧ moved.2.IsAmount)
        (rebalanceToken context scenario left valueSum position)
        (rebalanceToken context (scenario.withToken token points value) right otherSum other))
      (List.range scenario.tokenCount) (List.range scenario.tokenCount) := by
    rw [List.forall₂_same]
    intro position inside
    exact rebalanceToken_alike precise fits widened sums (List.mem_range.mp inside)
  have alone : [scenario.tokenCount].mapM (rebalanceToken context
      (scenario.withToken token points value) right otherSum) = .ok [last] :=
    mapM_eq_ok_iff.mpr (.cons isLast .nil)
  rw [tokenCount_withToken, List.range_succ, List.mapM_append, alone, bind_assoc]
  apply ((Coincide.mapM each).and_left (Settles.length_mapM fun _ _ => Settles.any _)).bind
  rintro moved others ⟨related, count⟩
  rw [List.length_range] at count
  have amounts : ∀ both ∈ moved, both.1.IsAmount ∧ both.2.IsAmount := by
    intro both inside
    obtain ⟨_, -, -, -, amounts⟩ := exists_mem_of_forall₂ related inside
    exact amounts
  have pointsExtended : WithZero (moved.map Prod.fst) ((others ++ [last]).map Prod.fst) := by
    refine ⟨others.map Prod.fst, last.1, List.map_append, ?_, pointsZero⟩
    rw [List.forall₂_map_left_iff, List.forall₂_map_right_iff]
    exact related.imp fun _ _ both => both.1
  have weightsExtended : WithZero (moved.map Prod.snd) ((others ++ [last]).map Prod.snd) := by
    refine ⟨others.map Prod.snd, last.2, List.map_append, ?_, weightZero⟩
    rw [List.forall₂_map_left_iff, List.forall₂_map_right_iff]
    exact related.imp fun _ _ both => both.2.1
  have weightAmounts : ∀ value ∈ moved.map Prod.snd, value.IsAmount :=
    List.forall_mem_map.mpr fun both inside => (amounts both inside).2
  apply (greatest_alike weightAmounts weightsExtended).lift.bind
  intro largest otherLargest sameLargest
  exact .values { widened with
    points := pointsExtended
    pointsPerValue := weightsExtended
    largestPointsPerValue := sameLargest
    pointAmounts := ⟨by rw [List.length_map, count],
      List.forall_mem_map.mpr fun both inside => (amounts both inside).1⟩
    weights := by rw [List.length_map, count] }

/-! ## Growth -/

theorem grow_alike (fits : scenario.FitsIdentity)
    (widened : left.Widened scenario.tokenCount right) {seedScale scaledRatio : Decimal}
    (scale : seedScale.isFinite) (ratio : scaledRatio.isFinite) :
    Alike
      (fun next other => next.1.Widened scenario.tokenCount other.1 ∧
        next.2.Widened scenario.tokenCount other.2 ∧
        ∃ totalStalk gaugeValue totalValue beanValue,
          next.1 = { left with totalStalk, gaugeValue, totalValue, beanValue })
      (grow context scenario seedScale left scaledRatio)
      (grow context (scenario.withToken token points value) seedScale right scaledRatio) := by
  have earned := SameValue.refl fits.finite.earnedBeans
  apply (Agree.mul precise widened.largestPointsPerValue (.refl ratio)).alike.bind
  intro beanPoints otherBeanPoints sameBeanPoints
  apply (sum_alike precise widened.points).bind
  intro tokenPoints otherTokenPoints sameTokenPoints
  apply (Agree.mul precise sameBeanPoints widened.beanValue).alike.bind
  intro allBeanPoints otherAllBeanPoints sameAllBeanPoints
  apply (Agree.add precise sameTokenPoints sameAllBeanPoints).alike.bind
  intro pointTotal otherPointTotal samePointTotal
  apply (divOr_alike precise widened.totalStalk widened.totalValue (.refl isFinite_one)).bind
  intro average otherAverage sameAverage
  apply (Agree.sub precise sameAverage (.refl isFinite_one)).alike.bind
  intro averageGrowth otherAverageGrowth sameAverageGrowth
  apply (div_alike precise sameAverageGrowth (.refl fits.finite.catchUpRate)).bind
  intro seasonGrowth otherSeasonGrowth sameSeasonGrowth
  apply (Agree.mul precise sameSeasonGrowth widened.gaugeValue).alike.bind
  intro grownStalk otherGrownStalk sameGrownStalk
  apply (divOrZero_alike precise sameGrownStalk samePointTotal).bind
  intro stalkPerPoint otherStalkPerPoint sameStalkPerPoint
  apply (Agree.mul precise sameStalkPerPoint sameBeanPoints).alike.bind
  intro stalkPerBean otherStalkPerBean sameStalkPerBean
  apply (Agree.mul precise sameStalkPerBean (.refl scale)).alike.bind
  intro beanSeeds otherBeanSeeds sameBeanSeeds
  apply (Agree.add precise widened.totalStalk sameGrownStalk).alike.bind
  intro grownTotal otherGrownTotal sameGrownTotal
  apply (Agree.add precise sameGrownTotal earned).alike.bind
  intro totalStalk otherTotalStalk sameTotalStalk
  apply (Agree.add precise widened.gaugeValue earned).alike.bind
  intro gaugeValue otherGaugeValue sameGaugeValue
  apply (Agree.add precise widened.totalValue earned).alike.bind
  intro totalValue otherTotalValue sameTotalValue
  apply (Agree.add precise widened.beanValue earned).alike.bind
  intro beanValue otherBeanValue sameBeanValue
  exact .values ⟨{ widened with
      totalStalk := sameTotalStalk
      gaugeValue := sameGaugeValue
      totalValue := sameTotalValue
      beanValue := sameBeanValue },
    { grownStalk := sameGrownStalk
      pointTotal := samePointTotal
      beanSeeds := sameBeanSeeds
      pointsPerValue := widened.pointsPerValue
      totalStalk := sameTotalStalk
      weights := widened.weights },
    totalStalk, gaugeValue, totalValue, beanValue, rfl⟩

end GaugeScenario

/-! ## Depositors -/

namespace Depositor

variable {context : Context} {count : Nat} {left right : Depositor}
  {growth otherGrowth : SeasonGrowth} {seedScale earnedBeans : Decimal}

/-- A depositor of one unit of value in an asset other than the new token. -/
theorem opening_widened {asset : Asset} {staticSeeds : Option Written}
    (within : asset.Within count)
    (seedsFinite : ∀ seeds, staticSeeds = some seeds → seeds.ReadsFinite) :
    Widened count (opening asset staticSeeds) (opening asset staticSeeds) := by
  have unit : ∀ isBean : Prop, [Decidable isBean] →
      (if isBean then one else zero).isFinite ∧ (if isBean then zero else one).isFinite := by
    intro isBean _
    split
    · exact ⟨isFinite_one, isFinite_zero⟩
    · exact ⟨isFinite_zero, isFinite_one⟩
  obtain ⟨beansFinite, tokensFinite⟩ := unit (asset = .reference)
  exact {
    asset := rfl
    within := within
    staticSeeds := rfl
    seedsFinite := seedsFinite
    beans := .refl beansFinite
    tokens := .refl tokensFinite
    stalk := .refl isFinite_one }

variable (precise : 0 < context.precision) (widened : left.Widened count right)

include precise widened

theorem tokenSeeds_alike (grown : growth.Widened count otherGrowth)
    (scale : seedScale.isFinite) :
    Alike SameValue (left.tokenSeeds context seedScale growth)
      (right.tokenSeeds context seedScale otherGrowth) := by
  unfold tokenSeeds
  rw [← widened.asset, ← widened.staticSeeds]
  cases holds : left.asset with
  | reference => exact .values (.refl isFinite_zero)
  | nonGauge =>
      cases held : left.staticSeeds with
      | none => exact .failures _
      | some seeds =>
          apply (Coincide.same_of_gives (Gives.lift (widened.seedsFinite seeds held))).mono
          rintro read _ ⟨rfl, finite⟩
          exact .refl finite
  | gauge position =>
      have inside : position < growth.pointsPerValue.length :=
        grown.weights.symm ▸ widened.within position holds
      apply (divOrZero_alike precise grown.grownStalk grown.pointTotal).lift.bind
      intro stalkPerPoint otherStalkPerPoint sameStalkPerPoint
      apply (GaugeScenario.entry_alike grown.pointsPerValue inside).bind
      rintro weight otherWeight ⟨sameWeight, -⟩
      apply (Agree.mul precise sameStalkPerPoint sameWeight).alike.lift.bind
      intro stalkPerValue otherStalkPerValue sameStalkPerValue
      exact (Agree.mul precise sameStalkPerValue (.refl scale)).alike.lift

theorem beanShare_alike (grown : growth.Widened count otherGrowth)
    (earned : earnedBeans.isFinite) (season : Nat) :
    Alike SameValue (left.beanShare context earnedBeans season growth)
      (right.beanShare context earnedBeans season otherGrowth) := by
  unfold beanShare
  by_cases early : season < GaugeScenario.germinationSeasons
  · rw [if_pos early, if_pos early]
    exact .values (.refl isFinite_zero)
  · rw [if_neg early, if_neg early]
    apply (Agree.mul precise (.refl earned) widened.stalk).alike.bind
    intro claimed otherClaimed sameClaimed
    exact divOrZero_alike precise sameClaimed grown.totalStalk

theorem seasonStep_alike (grown : growth.Widened count otherGrowth)
    (earned : earnedBeans.isFinite) (scale : seedScale.isFinite) (season : Nat) :
    Alike (Widened count) (left.seasonStep context earnedBeans seedScale season growth)
      (right.seasonStep context earnedBeans seedScale season otherGrowth) := by
  apply (tokenSeeds_alike precise widened grown scale).bind
  intro tokenSeeds otherTokenSeeds sameTokenSeeds
  apply (beanShare_alike precise widened grown earned season).lift.bind
  intro share otherShare sameShare
  apply (Agree.add precise widened.stalk sameShare).alike.lift.bind
  intro shared otherShared sameShared
  apply (Agree.mul precise widened.beans grown.beanSeeds).alike.lift.bind
  intro seedsOfBeans otherSeedsOfBeans sameSeedsOfBeans
  apply (Agree.mul precise widened.tokens sameTokenSeeds).alike.lift.bind
  intro seedsOfTokens otherSeedsOfTokens sameSeedsOfTokens
  apply (Agree.add precise sameSeedsOfBeans sameSeedsOfTokens).alike.lift.bind
  intro seeds otherSeeds sameSeeds
  apply (div_alike precise sameSeeds (.refl scale)).lift.bind
  intro grown otherGrown sameGrown
  apply (Agree.add precise sameShared sameGrown).alike.lift.bind
  intro stalk otherStalk sameStalk
  apply (Agree.add precise widened.beans sameShare).alike.lift.bind
  intro beans otherBeans sameBeans
  exact .values { widened with
    beans := sameBeans
    stalk := sameStalk }

theorem assetGrowth_alike :
    Alike AssetGrowth.SameValues (left.assetGrowth context) (right.assetGrowth context) := by
  have percent := SameValue.refl (rfl : hundred.isFinite)
  have unit := SameValue.refl isFinite_one
  apply (Agree.add precise widened.beans widened.tokens).alike.bind
  intro value otherValue sameValue
  apply (Agree.sub precise sameValue unit).alike.bind
  intro gained otherGained sameGained
  apply (Agree.mul precise sameGained percent).alike.bind
  intro bean otherBean sameBean
  apply (Agree.sub precise widened.stalk unit).alike.bind
  intro gainedStalk otherGainedStalk sameGainedStalk
  apply (Agree.mul precise sameGainedStalk percent).alike.bind
  intro stalk otherStalk sameStalk
  exact .values ⟨widened.asset, sameBean, sameStalk⟩

end Depositor

end DepositYield
