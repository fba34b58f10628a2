import DepositYield.Proofs.Yield.Silo

/-!
# Simulations whose lists are long enough

A scenario has the right shape if its lists are as long as they should be, whatever
decimals they hold.  No simulation of it reaches beyond a list: it gives yields, or it
stops for a fault of arithmetic or of a value.
-/

namespace DepositYield

open Decimal Decimal.Context

/-- A fault of arithmetic or of a value, which a pool reports for the task.  A list that is
too short stops the pool instead, and a missing answer is no fault. -/
def YieldFailure.IsReported : YieldFailure → Prop
  | .missingEntry => False
  | .noAnswer => False
  | _ => True

/-- The model gives a good value or stops for a fault of arithmetic or of a value. -/
abbrev Reports {Value : Type} (good : Value → Prop) (model : Except YieldFailure Value) : Prop :=
  Settles YieldFailure.IsReported good model

/-- Arithmetic stops for faults of arithmetic only. -/
theorem Gives.report {Value : Type} {good : Value → Prop} {calculation : Except Signal Value}
    (gives : Gives good calculation) :
    Reports good (liftM calculation : Except YieldFailure Value) :=
  gives.mapError fun _ _ => trivial

theorem Reports.arithmetic {Value : Type} (calculation : Except Signal Value) :
    Reports (fun _ => True) (liftM calculation : Except YieldFailure Value) :=
  Gives.report (Settles.any calculation)

theorem YieldFailure.context_reports (precision : Int) :
    Reports (fun _ => True) (YieldFailure.context precision) := by
  unfold YieldFailure.context
  split <;> trivial

/-! ## Shapes -/

/-- The lists of the scenario have the lengths that they should have. -/
structure GaugeScenario.HasShape (scenario : GaugeScenario) : Prop where
  gaugeValues : scenario.gaugeValues.length = scenario.tokenCount
  optimalPercents : scenario.optimalPercents.length = scenario.tokenCount
  germinatingBean : scenario.germinatingBean.length = 2
  germinatingTokens :
    Filled (fun bucket => bucket.length = scenario.tokenCount) 2 scenario.germinatingTokens
  germinatingNonGauge : scenario.germinatingNonGauge.length = 2
  staticSeeds : ∀ position < scenario.assets.length, (scenario.seedsAt position).isSome
  rules : scenario.rules.length = scenario.tokenCount

namespace GaugeScenario

variable {scenario : GaugeScenario}

theorem isSome_seedsAt {position : Nat} (inside : position < scenario.staticSeeds.length) :
    (scenario.seedsAt position).isSome := by
  unfold seedsAt
  split
  · rfl
  · rw [List.getElem?_eq_getElem inside]
    rfl

theorem length_rules (enough : scenario.pointRules.length = scenario.tokenCount) :
    scenario.rules.length = scenario.tokenCount := by
  unfold rules
  split
  · exact List.length_replicate
  · exact enough

end GaugeScenario

/-- A silo with a number of gauge tokens. -/
structure SiloState.HasShape (count : Nat) (state : SiloState) : Prop where
  gaugeTokenValues : state.gaugeTokenValues.length = count
  points : state.points.length = count
  pointsPerValue : state.pointsPerValue.length = count

/-- A depositor of an asset of a silo with a number of gauge tokens. -/
structure Depositor.HasShape (count : Nat) (depositor : Depositor) : Prop where
  asset : depositor.asset.Within count
  staticSeeds : depositor.staticSeeds.isSome

variable {context : Context}

/-! ## Seasons of the silo -/

namespace GaugeScenario

theorem entry_reports {Value : Type} {values : List Value} {position : Nat}
    (inside : position < values.length) : Reports (· ∈ values) (entry values position) := by
  unfold entry
  rw [List.getElem?_eq_getElem inside]
  exact List.getElem_mem inside

theorem decimalEntry_reports {values : List Written} {position : Nat}
    (inside : position < values.length) :
    Reports (fun _ => True) (decimalEntry values position) := by
  apply (entry_reports inside).bind
  intro written _
  exact Reports.arithmetic written.read

variable {scenario : GaugeScenario} {state : SiloState}

theorem length_quotients (points values : List Decimal) :
    Gives (fun quotients => quotients.length = min points.length values.length)
      (quotients context points values) := by
  apply (Settles.length_mapM fun _ _ => Settles.any _).mono
  intro quotients count
  rw [count, List.length_zip]

theorem initial_hasShape (shape : scenario.HasShape) :
    Gives (SiloState.HasShape scenario.tokenCount) (scenario.initial context) := by
  apply (length_quotients scenario.gaugePoints scenario.gaugeValues).bind
  intro pointsPerValue count
  rw [shape.gaugeValues, tokenCount, min_self] at count
  iterate 4 refine (Settles.any _).bind fun _ _ => ?_
  exact ⟨shape.gaugeValues, rfl, count⟩

theorem matureTokens_reports {count : Nat} {values : List Decimal} {germinating : List Written}
    (enoughValues : values.length = count) (enoughGerminating : germinating.length = count) :
    Reports (fun matured => matured.length = count)
      (matureTokens context count values germinating) := by
  induction count generalizing values germinating with
  | zero => exact enoughValues
  | succ count ih =>
      obtain ⟨value, values, rfl⟩ := List.exists_cons_of_length_eq_add_one enoughValues
      obtain ⟨written, germinating, rfl⟩ :=
        List.exists_cons_of_length_eq_add_one enoughGerminating
      apply (Reports.arithmetic written.read).bind
      intro germinated _
      apply (Reports.arithmetic (context.add value germinated)).bind
      intro matured _
      apply (ih (Nat.succ.inj enoughValues) (Nat.succ.inj enoughGerminating)).bind
      intro rest isRest
      exact congrArg Nat.succ isRest

theorem mature_reports (shape : scenario.HasShape)
    (stateShape : state.HasShape scenario.tokenCount) :
    Reports (SiloState.HasShape scenario.tokenCount) (mature context scenario state) := by
  have noTokens (none : scenario.tokenCount = 0) :
      Reports (fun bucket : List Written => bucket.length = scenario.tokenCount) (pure []) :=
    none.symm
  have someTokens : Reports (fun bucket => bucket.length = scenario.tokenCount)
      (entry scenario.germinatingTokens scenario.bucket) := by
    apply (entry_reports (shape.germinatingTokens.length ▸ scenario.bucket_lt)).mono
    exact shape.germinatingTokens.each
  apply (decimalEntry_reports (shape.germinatingBean ▸ scenario.bucket_lt)).bind
  intro germinatedBean _
  apply (Reports.arithmetic (context.add state.beanValue germinatedBean)).bind
  intro beanValue _
  apply Settles.ite_bind noTokens (fun _ => someTokens)
  intro germinatingTokens enough
  apply (matureTokens_reports stateShape.gaugeTokenValues enough).bind
  intro gaugeTokenValues isCount
  apply (Reports.arithmetic (context.sum gaugeTokenValues)).bind
  intro tokenValue _
  apply (Reports.arithmetic (context.add beanValue tokenValue)).bind
  intro gaugeValue _
  apply (decimalEntry_reports (shape.germinatingNonGauge ▸ scenario.bucket_lt)).bind
  intro germinatedOther _
  apply (Reports.arithmetic (context.add state.nonGaugeValue germinatedOther)).bind
  intro nonGaugeValue _
  apply (Reports.arithmetic (context.add gaugeValue nonGaugeValue)).bind
  intro totalValue _
  exact { stateShape with gaugeTokenValues := isCount }

theorem rebalanceToken_reports (shape : scenario.HasShape)
    (stateShape : state.HasShape scenario.tokenCount) (valueSum : Decimal) {position : Nat}
    (within : position < scenario.tokenCount) :
    Reports (fun _ => True) (rebalanceToken context scenario state valueSum position) := by
  apply (entry_reports (stateShape.gaugeTokenValues ▸ within)).bind
  intro value _
  apply (Reports.arithmetic (context.divOrZero value valueSum)).bind
  intro share _
  apply (Reports.arithmetic (context.mul share hundred)).bind
  intro percent _
  apply (entry_reports (shape.rules ▸ within)).bind
  intro rule _
  apply (entry_reports (stateShape.points ▸ within)).bind
  intro points _
  apply (decimalEntry_reports (shape.optimalPercents ▸ within)).bind
  intro optimal _
  apply (Reports.arithmetic (rule.apply context points percent optimal)).bind
  intro moved _
  apply (Reports.arithmetic (context.divOrZero moved value)).bind
  intro quotient _
  trivial

theorem rebalance_reports (shape : scenario.HasShape)
    (stateShape : state.HasShape scenario.tokenCount) :
    Reports (SiloState.HasShape scenario.tokenCount) (rebalance context scenario state) := by
  apply (Reports.arithmetic (context.sum state.gaugeTokenValues)).bind
  intro valueSum _
  apply (Settles.length_mapM fun position inside =>
    rebalanceToken_reports shape stateShape valueSum (List.mem_range.mp inside)).bind
  intro moved count
  rw [List.length_range] at count
  apply (Reports.arithmetic (greatest (moved.map Prod.snd))).bind
  intro largest _
  exact { stateShape with
    points := (List.length_map _).trans count
    pointsPerValue := (List.length_map _).trans count }

theorem grow_hasShape {count : Nat} (stateShape : state.HasShape count)
    (seedScale scaledRatio : Decimal) :
    Gives (fun next => next.1.HasShape count ∧ next.2.pointsPerValue.length = count)
      (grow context scenario seedScale state scaledRatio) := by
  iterate 16 refine (Settles.any _).bind fun _ _ => ?_
  exact ⟨{ stateShape with }, stateShape.pointsPerValue⟩

/-- A season of the silo leads to a silo of the same shape. -/
theorem seasonStep_reports (shape : scenario.HasShape)
    (stateShape : state.HasShape scenario.tokenCount) (drift : RatioDrift) (seedScale : Decimal)
    (season : Nat) :
    Reports
      (fun next => next.1.HasShape scenario.tokenCount ∧
        next.2.pointsPerValue.length = scenario.tokenCount)
      (seasonStep context scenario drift seedScale season state) := by
  have drifts : Gives (SiloState.HasShape scenario.tokenCount)
      (driftRatio context drift season state) := by
    apply (Settles.any (moveRatio context state.ratio (drift state.ratio season))).bind
    intro ratio _
    exact { stateShape with }
  apply drifts.report.bind
  intro drifted driftedShape
  apply (Reports.arithmetic (scaleRatio context drifted.ratio)).bind
  intro scaledRatio _
  apply Settles.ite_bind (fun _ => mature_reports shape driftedShape)
    (fun _ => .pure driftedShape)
  intro matured maturedShape
  apply Settles.ite_bind (fun _ => rebalance_reports shape maturedShape)
    (fun _ => .pure maturedShape)
  intro balanced balancedShape
  exact (grow_hasShape balancedShape seedScale scaledRatio).report

end GaugeScenario

/-! ## Seasons of a depositor -/

namespace Depositor

variable {depositor : Depositor} {growth : SeasonGrowth} {count : Nat} {seedScale : Decimal}

theorem tokenSeeds_reports (shape : depositor.HasShape count)
    (enough : growth.pointsPerValue.length = count) :
    Reports (fun _ => True) (depositor.tokenSeeds context seedScale growth) := by
  unfold tokenSeeds
  cases followed : depositor.asset with
  | reference => trivial
  | nonGauge =>
      obtain ⟨seeds, held⟩ := Option.isSome_iff_exists.mp shape.staticSeeds
      dsimp only
      rw [held]
      exact Reports.arithmetic seeds.read
  | gauge position =>
      apply (Reports.arithmetic (context.divOrZero growth.grownStalk growth.pointTotal)).bind
      intro stalkPerPoint _
      apply (GaugeScenario.entry_reports (enough ▸ shape.asset position followed)).bind
      intro pointsPerValue _
      apply (Reports.arithmetic (context.mul stalkPerPoint pointsPerValue)).bind
      intro stalkPerValue _
      exact Reports.arithmetic (context.mul stalkPerValue seedScale)

theorem seasonStep_reports (shape : depositor.HasShape count)
    (enough : growth.pointsPerValue.length = count) (earnedBeans : Decimal) (season : Nat) :
    Reports (HasShape count)
      (depositor.seasonStep context earnedBeans seedScale season growth) := by
  apply (tokenSeeds_reports shape enough).bind
  intro tokenSeeds _
  iterate 8 refine (Reports.arithmetic _).bind fun _ _ => ?_
  exact { shape with }

end Depositor

/-! ## Whole simulations -/

namespace GaugeScenario

variable {scenario : GaugeScenario} {assets : List Asset}

theorem ofIndex_reports (count : Nat) (index : Int) :
    Reports (Asset.Within count) (Asset.ofIndex count index) := by
  unfold Asset.ofIndex
  split
  · trivial
  split
  · rintro position ⟨⟩
  split
  · rintro position ⟨⟩
  · next known other reference =>
      rintro position same
      obtain rfl := Asset.gauge.inj same
      omega

theorem depositors_haveShape (shape : scenario.HasShape)
    (within : ∀ asset ∈ assets, asset.Within scenario.tokenCount)
    (all : assets.length = scenario.assets.length) :
    ∀ depositor ∈ scenario.depositors assets, depositor.HasShape scenario.tokenCount := by
  intro depositor inside
  obtain ⟨position, isPosition, rfl⟩ := List.mem_mapIdx.mp inside
  exact ⟨within _ (List.getElem_mem isPosition), shape.staticSeeds position (by omega)⟩

/-- Depositors are followed through any number of seasons in a row. -/
theorem run_reports (shape : scenario.HasShape) (drift : RatioDrift) (seedScale : Decimal)
    (season seasons : Nat) {state : SiloState} (stateShape : state.HasShape scenario.tokenCount)
    {depositors : List Depositor}
    (shapes : ∀ depositor ∈ depositors, depositor.HasShape scenario.tokenCount) :
    Reports (fun _ => True)
      (run context scenario drift seedScale season seasons state depositors) := by
  induction seasons generalizing season state depositors with
  | zero => trivial
  | succ seasons ih =>
      apply (seasonStep_reports shape stateShape drift seedScale season).bind
      rintro ⟨next, growth⟩ ⟨nextShape, enough⟩
      have advanced : Reports
          (List.Forall₂ (fun _ depositor => Depositor.HasShape scenario.tokenCount depositor)
            depositors)
          (depositors.mapM (Depositor.seasonStep context scenario.earnedBeans seedScale season
            growth)) :=
        Settles.mapM fun depositor inside =>
          Depositor.seasonStep_reports (shapes depositor inside) enough _ season
      apply advanced.bind
      intro moved related
      exact ih (season + 1) nextShape (Filled.of_forall₂ related).each

/-- A simulation of a scenario that has the right shape never reaches beyond its lists. -/
theorem simulate_reports (shape : scenario.HasShape) (drift : RatioDrift) (seasons : Nat)
    (precision seedPrecision : Int) :
    Reports (fun _ => True) (scenario.simulate drift seasons precision seedPrecision) := by
  have resolves : Reports
      (List.Forall₂ (fun _ asset => Asset.Within scenario.tokenCount asset) scenario.assets)
      scenario.resolveAssets :=
    Settles.mapM fun index _ => ofIndex_reports scenario.tokenCount index
  apply resolves.bind
  intro assets related
  apply (YieldFailure.context_reports precision).bind
  intro context _
  apply (initial_hasShape shape).report.bind
  intro state stateShape
  apply (run_reports shape drift (.ofInt seedPrecision) 0 seasons stateShape
    (depositors_haveShape shape (Filled.of_forall₂ related).each related.length_eq.symm)).bind
  intro final _
  apply (Settles.length_mapM fun depositor _ =>
    Reports.arithmetic (depositor.assetGrowth context)).mono
  exact fun _ _ => trivial

end GaugeScenario

end DepositYield
