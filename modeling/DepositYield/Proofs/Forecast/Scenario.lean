import DepositYield.Proofs.Decimal.Finite
import DepositYield.Proofs.Forecast.Partition
import DepositYield.Proofs.Settings.Valid

/-!
# Scenarios hold the amounts of their snapshot

A scenario under the seed gauge converts each amount of the snapshot once and puts it in
its place.  Nothing stops the conversion but an amount of a million digits.
-/

namespace DepositYield

open Decimal Decimal.Context

/-- The given decimal is that of an amount in small units. -/
def Decimal.Written.Converts (context : Context) (places amount : Int) (written : Written) : Prop :=
  ∃ decimal, written = .value decimal ∧ context.Converts places amount decimal

namespace Forecast

variable (context : Context) (settings : Settings) (snapshot : Snapshot) (tokens : List Token)

/-- All amounts of a snapshot that a scenario converts. -/
def scenarioAmounts : List Int :=
  let gauges := gaugeTokens settings snapshot tokens
  let bean := snapshot.germination settings.reference
  let other := otherGermination settings snapshot gauges
  [snapshot.pointRatio, depositedValue snapshot settings.reference,
      otherValue settings snapshot gauges, (snapshot.totals protocolScope).stalk,
      bean.even, bean.odd, other.even, other.odd] ++
    tokens.map (fun token => (snapshot.setting token).stalkEarnedPerSeason) ++
    gauges.flatMap fun token =>
      [(snapshot.setting token).gaugePoints.getD 0, depositedValue snapshot token,
        (snapshot.setting token).optimalPercent.getD 0, (snapshot.germination token).even,
        (snapshot.germination token).odd]

/-- A conversion overflows, and one of the amounts has a million digits. -/
def OversizedAmount (signal : Signal) : Prop :=
  signal = .overflow ∧ ∃ amount ∈ scenarioAmounts settings snapshot tokens,
    (10 : ℚ) ^ maxExponent ≤ |(amount : ℚ)|

/-- The fixed seeds of a token: those of its settings if it is neither the bean nor a
gauge token, and none otherwise. -/
def ConvertsSeeds (token : Token) (seeds : Option Written) : Prop :=
  match assetOf settings (gaugeTokens settings snapshot tokens) token with
  | .nonGauge => ∃ written, seeds = some written ∧
      written.Converts context seedPlaces (snapshot.setting token).stalkEarnedPerSeason
  | _ => seeds = none

/-- The scenario holds the converted amounts of the snapshot, each in its place. -/
structure Translates (earnedBeans : Decimal) (scenario : GaugeScenario) : Prop where
  assets : scenario.assets =
    tokens.map fun token => (assetOf settings (gaugeTokens settings snapshot tokens) token).index
  staticSeeds : List.Forall₂ (ConvertsSeeds context settings snapshot tokens) tokens
    scenario.staticSeeds
  earnedBeans : scenario.earnedBeans = earnedBeans
  catchUpRate : scenario.catchUpRate = .ofInt settings.gauge.catchUpRate
  season : scenario.season = snapshot.period
  gaugePoints : List.Forall₂
    (fun token => context.Converts gaugePointPlaces ((snapshot.setting token).gaugePoints.getD 0))
    (gaugeTokens settings snapshot tokens) scenario.gaugePoints
  gaugeValues : List.Forall₂
    (fun token => context.Converts valuePlaces (depositedValue snapshot token))
    (gaugeTokens settings snapshot tokens) scenario.gaugeValues
  optimalPercents : List.Forall₂
    (fun token => Written.Converts context percentPlaces
      ((snapshot.setting token).optimalPercent.getD 0))
    (gaugeTokens settings snapshot tokens) scenario.optimalPercents
  initialRatio : scenario.initialRatio.isFinite ∧
    scenario.initialRatio.toRat =
      context.rounded (snapshot.pointRatio / settings.gauge.ratioPrecision)
  initialRatioScaled : ∀ places : ℕ, places ≤ maxExponent →
    settings.gauge.ratioPrecision = 10 ^ places →
      context.Converts places snapshot.pointRatio scenario.initialRatio
  beanValue : context.Converts valuePlaces (depositedValue snapshot settings.reference)
    scenario.beanValue
  nonGaugeValue : context.Converts valuePlaces
    (otherValue settings snapshot (gaugeTokens settings snapshot tokens)) scenario.nonGaugeValue
  siloStalk : context.Converts stalkPlaces (snapshot.totals protocolScope).stalk
    scenario.siloStalk
  germinatingBean : List.Forall₂ (Written.Converts context valuePlaces)
    [(snapshot.germination settings.reference).even, (snapshot.germination settings.reference).odd]
    scenario.germinatingBean
  germinatingGauge : List.Forall₂ (List.Forall₂ (Written.Converts context valuePlaces))
    [(gaugeTokens settings snapshot tokens).map fun token => (snapshot.germination token).even,
      (gaugeTokens settings snapshot tokens).map fun token => (snapshot.germination token).odd]
    scenario.germinatingGauge
  germinatingNonGauge : List.Forall₂ (Written.Converts context valuePlaces)
    [(otherGermination settings snapshot (gaugeTokens settings snapshot tokens)).even,
      (otherGermination settings snapshot (gaugeTokens settings snapshot tokens)).odd]
    scenario.germinatingNonGauge
  pointRules : scenario.pointRules = (gaugeTokens settings snapshot tokens).map fun token =>
    .ofSelector (some (ruleSelector settings (snapshot.setting token)))

variable {context settings snapshot tokens}

/-! ## Amounts -/

theorem mem_scenarioAmounts_of_protocol {amount : Int}
    (own : amount ∈ [snapshot.pointRatio, depositedValue snapshot settings.reference,
      otherValue settings snapshot (gaugeTokens settings snapshot tokens),
      (snapshot.totals protocolScope).stalk, (snapshot.germination settings.reference).even,
      (snapshot.germination settings.reference).odd,
      (otherGermination settings snapshot (gaugeTokens settings snapshot tokens)).even,
      (otherGermination settings snapshot (gaugeTokens settings snapshot tokens)).odd]) :
    amount ∈ scenarioAmounts settings snapshot tokens :=
  List.mem_append_left _ (List.mem_append_left _ own)

theorem mem_scenarioAmounts_of_token {token : Token} (member : token ∈ tokens) :
    (snapshot.setting token).stalkEarnedPerSeason ∈ scenarioAmounts settings snapshot tokens :=
  List.mem_append_left _ (List.mem_append_right _ (List.mem_map.mpr ⟨token, member, rfl⟩))

theorem mem_scenarioAmounts_of_gauge {token : Token} {amount : Int}
    (member : token ∈ gaugeTokens settings snapshot tokens)
    (own : amount ∈ [(snapshot.setting token).gaugePoints.getD 0, depositedValue snapshot token,
      (snapshot.setting token).optimalPercent.getD 0, (snapshot.germination token).even,
      (snapshot.germination token).odd]) :
    amount ∈ scenarioAmounts settings snapshot tokens :=
  List.mem_append_right _ (List.mem_flatMap.mpr ⟨token, member, own⟩)

/-! ## Conversions -/

theorem given_converts {Item : Type} {places : Int} {items : List Item} {amount : Item → Int}
    {decimals : List Decimal}
    (converts : List.Forall₂ (fun item => context.Converts places (amount item)) items decimals) :
    List.Forall₂ (fun item => Written.Converts context places (amount item)) items
      (given decimals) :=
  List.forall₂_map_right_iff.mpr (converts.imp fun _ _ converted => ⟨_, rfl, converted⟩)

section Settling

variable (precise : 0 < context.precision)

include precise

theorem ofScaled_settles_scenario {amount places : Int}
    (inside : amount ∈ scenarioAmounts settings snapshot tokens) (natural : 0 ≤ places)
    (within : places ≤ maxExponent) :
    Settles (OversizedAmount settings snapshot tokens) (context.Converts places amount)
      (context.ofScaled amount places) := by
  apply (ofScaled_converts precise amount natural within).allow
  rintro signal ⟨overflows, large⟩
  exact ⟨overflows, amount, inside, large⟩

/-- Amounts of tokens are converted in the order of the tokens. -/
theorem mapM_ofScaled_settles {items : List Token} {amount : Token → Int} {places : Int}
    (inside : ∀ token ∈ items, amount token ∈ scenarioAmounts settings snapshot tokens)
    (natural : 0 ≤ places) (within : places ≤ maxExponent) :
    Settles (OversizedAmount settings snapshot tokens)
      (List.Forall₂ (fun token => context.Converts places (amount token)) items)
      (items.mapM fun token => context.ofScaled (amount token) places) :=
  Settles.mapM fun token member =>
    ofScaled_settles_scenario precise (inside token member) natural within

theorem valuesOf_settles {amounts : List Int}
    (inside : ∀ amount ∈ amounts, amount ∈ scenarioAmounts settings snapshot tokens) :
    Settles (OversizedAmount settings snapshot tokens)
      (List.Forall₂ (context.Converts valuePlaces) amounts) (valuesOf context amounts) :=
  Settles.mapM fun amount member =>
    ofScaled_settles_scenario precise (inside amount member) (by decide) (by decide)

theorem fixedSeeds_settles {token : Token} (member : token ∈ tokens) :
    Settles (OversizedAmount settings snapshot tokens)
      (fun seeds => ConvertsSeeds context settings snapshot tokens token (seeds.map .value))
      (fixedSeeds context snapshot
        (assetOf settings (gaugeTokens settings snapshot tokens) token) token) := by
  unfold fixedSeeds ConvertsSeeds
  cases assetOf settings (gaugeTokens settings snapshot tokens) token with
  | reference => exact rfl
  | gauge position => exact rfl
  | nonGauge =>
      apply (ofScaled_settles_scenario precise (mem_scenarioAmounts_of_token member)
        (by decide) (by decide)).bind
      intro seeds converted
      exact ⟨_, rfl, seeds, rfl, converted⟩

/-- The seeds of all tokens, in their order. -/
theorem staticSeeds_settles :
    Settles (OversizedAmount settings snapshot tokens)
      (fun seeds => List.Forall₂ (ConvertsSeeds context settings snapshot tokens) tokens
        (seeds.map fun seeds => seeds.map .value))
      (((tokens.map (assetOf settings (gaugeTokens settings snapshot tokens))).zip tokens).mapM
        fun (asset, token) => fixedSeeds context snapshot asset token) := by
  rw [← List.map_prod_right_eq_zip]
  have each : Settles (OversizedAmount settings snapshot tokens)
      (List.Forall₂ (fun pair seeds =>
          ConvertsSeeds context settings snapshot tokens pair.2 (seeds.map .value))
        (tokens.map fun token =>
          (assetOf settings (gaugeTokens settings snapshot tokens) token, token)))
      ((tokens.map fun token =>
          (assetOf settings (gaugeTokens settings snapshot tokens) token, token)).mapM
        fun (asset, token) => fixedSeeds context snapshot asset token) := by
    apply Settles.mapM
    intro pair inside
    obtain ⟨token, member, rfl⟩ := List.mem_map.mp inside
    exact fixedSeeds_settles precise member
  apply each.mono
  intro seeds converted
  exact List.forall₂_map_right_iff.mpr (List.forall₂_map_left_iff.mp converted)

/-- The stored ratio is divided by its unit, or it has a million digits. -/
theorem initialRatio_settles (valid : settings.Valid) :
    Settles (OversizedAmount settings snapshot tokens)
      (fun ratio => ratio.isFinite = true ∧
        ratio.toRat = context.rounded (snapshot.pointRatio / settings.gauge.ratioPrecision))
      (context.div (.ofInt snapshot.pointRatio) (.ofInt settings.gauge.ratioPrecision)) := by
  have unit : (1 : ℚ) ≤ settings.gauge.ratioPrecision := by
    exact_mod_cast Int.add_one_le_iff.mpr valid.gauge.ratioPrecision
  have calculates := div_calculates precise (isFinite_ofInt snapshot.pointRatio)
    (isFinite_ofInt settings.gauge.ratioPrecision) (by rw [toRat_ofInt]; linarith)
  rw [toRat_ofInt, toRat_ofInt] at calculates
  apply (calculates.settles_rounded precise).allow
  rintro signal ⟨overflows, large⟩
  refine ⟨overflows, snapshot.pointRatio, mem_scenarioAmounts_of_protocol (by simp),
    large.trans ?_⟩
  rw [abs_div]
  exact div_le_self (abs_nonneg _) (unit.trans (le_abs_self _))

/-- The scenario of a snapshot is made of its converted amounts, or one of them has a
million digits. -/
theorem gaugeScenario_settles (valid : settings.Valid) (earnedBeans : Decimal) :
    Settles (OversizedAmount settings snapshot tokens)
      (Translates context settings snapshot tokens earnedBeans)
      (gaugeScenario context settings snapshot tokens earnedBeans) := by
  have ofGauges : ∀ (amount : Token → Int),
      (∀ token, amount token ∈ [(snapshot.setting token).gaugePoints.getD 0,
        depositedValue snapshot token, (snapshot.setting token).optimalPercent.getD 0,
        (snapshot.germination token).even, (snapshot.germination token).odd]) →
      ∀ token ∈ gaugeTokens settings snapshot tokens,
        amount token ∈ scenarioAmounts settings snapshot tokens :=
    fun amount own token member => mem_scenarioAmounts_of_gauge member (own token)
  apply (staticSeeds_settles precise).bind
  intro staticSeeds seedsConverted
  apply (mapM_ofScaled_settles precise (ofGauges _ (by simp)) (by decide) (by decide)).bind
  intro gaugePoints pointsConverted
  apply (valuesOf_settles precise
    (List.forall_mem_map.mpr (ofGauges (depositedValue snapshot) (by simp)))).bind
  intro gaugeValues valuesConverted
  apply (ofScaled_settles_scenario precise (mem_scenarioAmounts_of_protocol (by simp))
    (by decide) (by decide)).bind
  intro nonGaugeValue otherConverted
  apply (mapM_ofScaled_settles precise (ofGauges _ (by simp)) (by decide) (by decide)).bind
  intro optimalPercents percentsConverted
  apply (initialRatio_settles precise valid).bind
  intro initialRatio ratioConverted
  apply (ofScaled_settles_scenario precise (mem_scenarioAmounts_of_protocol (by simp))
    (by decide) (by decide)).bind
  intro beanValue beanConverted
  apply (ofScaled_settles_scenario precise (mem_scenarioAmounts_of_protocol (by simp))
    (by decide) (by decide)).bind
  intro siloStalk stalkConverted
  apply (valuesOf_settles precise (List.forall_mem_cons.mpr
    ⟨mem_scenarioAmounts_of_protocol (by simp),
      List.forall_mem_singleton.mpr (mem_scenarioAmounts_of_protocol (by simp))⟩)).bind
  intro germinatingBean germinatingBeanConverted
  apply (valuesOf_settles precise (by
    simpa using ofGauges (fun token => (snapshot.germination token).even) (by simp))).bind
  intro germinatingEven evenConverted
  apply (valuesOf_settles precise (by
    simpa using ofGauges (fun token => (snapshot.germination token).odd) (by simp))).bind
  intro germinatingOdd oddConverted
  apply (valuesOf_settles precise (List.forall_mem_cons.mpr
    ⟨mem_scenarioAmounts_of_protocol (by simp),
      List.forall_mem_singleton.mpr (mem_scenarioAmounts_of_protocol (by simp))⟩)).bind
  intro germinatingNonGauge germinatingOtherConverted
  exact {
    assets := by rw [List.map_map]; rfl
    staticSeeds := seedsConverted
    earnedBeans := rfl
    catchUpRate := rfl
    season := rfl
    gaugePoints := pointsConverted
    gaugeValues := List.forall₂_map_left_iff.mp valuesConverted
    optimalPercents := given_converts percentsConverted
    initialRatio := ratioConverted
    initialRatioScaled := by
      intro places within unit
      have divisor : (settings.gauge.ratioPrecision : ℚ) = 10 ^ (places : ℤ) := by
        rw [unit, zpow_natCast]
        push_cast
        rfl
      rw [divisor] at ratioConverted
      exact ⟨ratioConverted.1, ratioConverted.2, fun few =>
        ratioConverted.2.trans (rounded_of_fewDigits precise few within)⟩
    beanValue := beanConverted
    nonGaugeValue := otherConverted
    siloStalk := stalkConverted
    germinatingBean := given_converts germinatingBeanConverted
    germinatingGauge := by
      rw [List.map_map] at evenConverted oddConverted
      exact .cons (given_converts evenConverted) (.cons (given_converts oddConverted) .nil)
    germinatingNonGauge := given_converts germinatingOtherConverted
    pointRules := rfl }

end Settling

/-! ## Places of tokens -/

/-- What a scenario says about the token at a position: the bean is number -1, gauge
tokens are numbered from zero on as they occur, and all others are number -2 and have
fixed seeds. -/
def PlacesToken (context : Context) (settings : Settings) (snapshot : Snapshot)
    (tokens : List Token) (scenario : GaugeScenario) (position : Nat) (token : Token) : Prop :=
  if token = settings.reference then
    scenario.assets[position]? = some (-1) ∧ scenario.staticSeeds[position]? = some none
  else if (snapshot.setting token).isGauge then
    let before := (gaugeTokens settings snapshot (tokens.take position)).length
    scenario.assets[position]? = some (before : Int) ∧
      (gaugeTokens settings snapshot tokens)[before]? = some token ∧
      scenario.staticSeeds[position]? = some none
  else
    scenario.assets[position]? = some (-2) ∧
      ∃ written, scenario.staticSeeds[position]? = some (some written) ∧
        written.Converts context seedPlaces (snapshot.setting token).stalkEarnedPerSeason

theorem assetOf_eq (settings : Settings) (snapshot : Snapshot) (distinct : tokens.Nodup)
    {position : Nat} {token : Token} (held : tokens[position]? = some token) :
    assetOf settings (gaugeTokens settings snapshot tokens) token =
      if token = settings.reference then .reference
      else if (snapshot.setting token).isGauge then
        .gauge (gaugeTokens settings snapshot (tokens.take position)).length
      else .nonGauge := by
  unfold assetOf
  by_cases isBean : token = settings.reference
  · rw [if_pos isBean, if_pos isBean]
  rw [if_neg isBean, if_neg isBean]
  by_cases isGauge : (snapshot.setting token).isGauge
  · rw [if_pos isGauge,
      gaugePosition?_eq (nodup_gaugeTokens distinct) (getElem?_gaugeTokens held isBean isGauge)]
  · have absent : gaugePosition? (gaugeTokens settings snapshot tokens) token = none :=
      if_neg fun inside => isGauge (mem_gaugeTokens.mp inside).2.2
    rw [if_neg isGauge, absent]

theorem Translates.placesToken {earnedBeans : Decimal} {scenario : GaugeScenario}
    (translates : Translates context settings snapshot tokens earnedBeans scenario)
    (distinct : tokens.Nodup) {position : Nat} {token : Token}
    (held : tokens[position]? = some token) :
    PlacesToken context settings snapshot tokens scenario position token := by
  have asset := assetOf_eq settings snapshot distinct held
  have number : scenario.assets[position]? =
      some (assetOf settings (gaugeTokens settings snapshot tokens) token).index := by
    rw [translates.assets, List.getElem?_map, held]
    rfl
  obtain ⟨seeds, seedsHeld, seedsConverted⟩ :=
    exists_getElem?_of_forall₂ translates.staticSeeds held
  unfold ConvertsSeeds at seedsConverted
  rw [asset] at number seedsConverted
  unfold PlacesToken
  split
  · next isBean =>
      rw [if_pos isBean] at number seedsConverted
      exact ⟨number, seedsHeld.trans (congrArg some seedsConverted)⟩
  next other =>
  rw [if_neg other] at number seedsConverted
  split
  · next isGauge =>
      rw [if_pos isGauge] at number seedsConverted
      exact ⟨number, getElem?_gaugeTokens held other isGauge,
        seedsHeld.trans (congrArg some seedsConverted)⟩
  · next notGauge =>
      rw [if_neg notGauge] at number seedsConverted
      obtain ⟨written, rfl, converted⟩ := seedsConverted
      exact ⟨number, written, seedsHeld, converted⟩

/-! ## Reachable snapshots -/

/-- In the scenario of a reachable snapshot nothing is lost or counted twice.  The
deposited value of the bean, of the gauge tokens and of the rest is that of the protocol;
the rest is what all other tokens have and is not below zero.  In both parity buckets the
germinating value of the bean, of the gauge tokens and of the rest is that of all tokens.
Every token has its place, and every amount is converted; the conversion fails for an
amount of a million digits only. -/
theorem gaugeScenario_partitions (v31Period : Option Int) (operations : List Operation)
    (settings : Settings) (valid : settings.Valid) (tokens : List Token)
    (distinct : tokens.Nodup) (context : Context) (precise : 0 < context.precision)
    (earnedBeans : Decimal) :
    let snapshot := ((Ledger.empty v31Period).run operations).snapshot
    let gauges := gaugeTokens settings snapshot tokens
    let other := otherValue settings snapshot gauges
    (depositedValue snapshot settings.reference + (gauges.map (depositedValue snapshot)).sum +
          other = (snapshot.totals protocolScope).depositedValue ∧
        other = valueWhere snapshot (fun token => token ∉ settings.reference :: gauges) ∧
        0 ≤ other) ∧
      (∀ part ∈ [Germination.even, Germination.odd],
        part (snapshot.germination settings.reference) +
            (gauges.map fun token => part (snapshot.germination token)).sum +
            part (otherGermination settings snapshot gauges) =
          snapshot.germinating.sumOver fun _ germination => part germination) ∧
      match gaugeScenario context settings snapshot tokens earnedBeans with
      | .ok scenario =>
          scenario.assets.length = tokens.length ∧
            (∀ position token, tokens[position]? = some token →
              PlacesToken context settings snapshot tokens scenario position token) ∧
            Translates context settings snapshot tokens earnedBeans scenario
      | .error signal => OversizedAmount settings snapshot tokens signal := by
  intro snapshot gauges other
  have listed : (settings.reference :: gauges).Nodup := nodup_reference_gaugeTokens distinct
  have rest : other = valueWhere snapshot (fun token => token ∉ settings.reference :: gauges) :=
    otherValue_eq_valueWhere listed
  refine ⟨⟨?_, rest, ?_⟩, ?_, ?_⟩
  · have gaugeSum := foldl_add_eq_sum (depositedValue snapshot) gauges
    unfold other otherValue
    omega
  · have reconciled := (Ledger.reconciled_empty v31Period).run operations
    rw [rest]
    apply valueWhere_nonneg
    intro pair amounts held
    have solvent := reconciled.solvent pair.1 pair.2
    change (snapshot.balances.getD pair 0).Solvent at solvent
    rw [Table.getD, held] at solvent
    exact solvent.1
  · intro part isBucket
    rw [otherGermination_eq]
    rcases List.mem_pair.mp isBucket with rfl | rfl
    · exact sum_germination Germination.even rfl listed
    · exact sum_germination Germination.odd rfl listed
  · have settled : Settles (OversizedAmount settings snapshot tokens)
        (Translates context settings snapshot tokens earnedBeans) _ :=
      gaugeScenario_settles precise valid earnedBeans
    cases made : gaugeScenario context settings snapshot tokens earnedBeans with
    | ok scenario =>
        rw [made] at settled
        change Translates context settings snapshot tokens earnedBeans scenario at settled
        refine ⟨?_, fun position token held => settled.placesToken distinct held, settled⟩
        rw [settled.assets, List.length_map]
    | error signal =>
        rw [made] at settled
        exact settled

/-- Deposits of the bean, of a gauge token, of another token and of one that is not
simulated. -/
def mixedDeposits : List Operation :=
  [.whitelist "0xlp" { TokenSetting.unregistered with gaugePoints := some 100 } 1,
    .putDeposit ⟨"0xa", Settings.standard.reference, .season 1⟩ 100 100 1,
    .putDeposit ⟨"0xa", "0xlp", .season 1⟩ 50 50 1,
    .putDeposit ⟨"0xb", "0xt", .season 1⟩ 30 30 1,
    .putDeposit ⟨"0xb", "0xgone", .season 1⟩ 5 5 1,
    .germinate "0xlp" 1 7,
    .germinate "0xgone" 1 2]

/-- The token that is not simulated counts among the others. -/
theorem mixedDeposits_partition :
    let tokens := [Settings.standard.reference, "0xlp", "0xt"]
    let snapshot := ((Ledger.empty none).run mixedDeposits).snapshot
    ∃ scenario, gaugeScenario .ambient .standard snapshot tokens .one = .ok scenario ∧
      scenario.assets = [-1, 0, -2] ∧
      Translates .ambient .standard snapshot tokens .one scenario ∧
      otherValue .standard snapshot ["0xlp"] = 35 ∧
      depositedValue snapshot Settings.standard.reference + depositedValue snapshot "0xlp" + 35 =
        (snapshot.totals protocolScope).depositedValue := by
  intro tokens snapshot
  obtain ⟨⟨whole, -⟩, -, translated⟩ := gaugeScenario_partitions none mixedDeposits .standard
    Settings.standard_valid tokens (by decide) .ambient (by decide) .one
  have gauges : gaugeTokens .standard ((Ledger.empty none).run mixedDeposits).snapshot tokens =
      ["0xlp"] := by decide +kernel
  have other : otherValue .standard ((Ledger.empty none).run mixedDeposits).snapshot ["0xlp"] =
      35 := by decide +kernel
  have numbered : (gaugeScenario .ambient .standard snapshot tokens .one).map
      (fun scenario => scenario.assets) = .ok [-1, 0, -2] := by decide +kernel
  rw [gauges, other] at whole
  cases made : gaugeScenario .ambient .standard snapshot tokens .one with
  | error signal =>
      rw [made] at numbered
      contradiction
  | ok scenario =>
      rw [made] at numbered translated
      exact ⟨scenario, rfl, Except.ok.inj numbered, translated.2.2, other, by simpa using whole⟩

end Forecast

end DepositYield
