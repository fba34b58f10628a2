import DepositYield.Proofs.Settings.Valid
import Mathlib.Data.List.Perm.Basic

/-!
# What reading settings means

Each section is read exactly if each of its fields is, and settings are read exactly if each
section is and the gauge becomes active no earlier than the mint history starts.  Windows
are read up to their order.
-/

namespace DepositYield

namespace Checked

variable {First Second Joined : Type}

theorem both_eq_ok_iff {join : First → Second → Joined} {left : Checked First}
    {right : Checked Second} {joined : Joined} :
    both join left right = .ok joined ↔
      ∃ first second, left = .ok first ∧ right = .ok second ∧ join first second = joined := by
  cases left <;> cases right <;> simp [both]

theorem apply_eq_ok_iff {function : Checked (First → Joined)} {value : Checked First}
    {joined : Joined} :
    apply function value = .ok joined ↔
      ∃ make argument, function = .ok make ∧ value = .ok argument ∧ make argument = joined :=
  both_eq_ok_iff

theorem all_eq_ok_iff {each : List (Checked First)} {values : List First} :
    all each = .ok values ↔ List.Forall₂ (fun read value => read = .ok value) each values := by
  induction each generalizing values with
  | nil =>
      cases values <;> simp [all]
  | cons first rest ih =>
      unfold all
      rw [both_eq_ok_iff]
      cases values with
      | nil => simp
      | cons value values => simp [ih]

end Checked

namespace Settings

/-! ## Windows -/

theorem boundedInteger_any_eq_ok_iff {location : List Step} {item : Document} {whole : Int} :
    boundedInteger .any location item = .ok whole ↔ integerOf item = .ok whole := by
  unfold boundedInteger
  split
  · next kind failed => simp [failed, Checked.issue]
  · next read => simp [read, Bound.violation?]

theorem all_mapIdx_eq_ok_iff {read : Nat → Document → Checked Int} {items : List Document}
    {windows : List Int}
    (reads : ∀ position item window, read position item = .ok window ↔ integerOf item = .ok window) :
    Checked.all (items.mapIdx read) = .ok windows ↔
      List.Forall₂ (fun item window => integerOf item = .ok window) items windows := by
  rw [Checked.all_eq_ok_iff]
  induction items generalizing read windows with
  | nil => simp
  | cons item items ih =>
      rw [List.mapIdx_cons]
      cases windows with
      | nil => simp
      | cons window windows =>
          rw [List.forall₂_cons, List.forall₂_cons, reads]
          rw [ih fun position => reads (position + 1)]

/-- Windows are checked successfully exactly if in ascending order they are valid. -/
theorem checkWindows_eq_ok_iff {location : List Step} {windows sorted : List Int} :
    checkWindows location windows = .ok sorted ↔ windows.Perm sorted ∧ WindowsValid sorted := by
  have permuted := List.mergeSort_perm windows fun left right => decide (left ≤ right)
  constructor
  · intro checked
    have valid := checkWindows_reads location windows
    rw [checked] at valid
    refine ⟨?_, valid⟩
    unfold checkWindows at checked
    split at checked
    · contradiction
    split at checked
    · contradiction
    split at checked
    · contradiction
    · exact Except.ok.inj checked ▸ permuted.symm
  · rintro ⟨same, valid⟩
    have present : windows.isEmpty = false := by
      rw [List.isEmpty_eq_false_iff]
      rintro rfl
      exact valid.present same.nil_eq.symm
    have positive : windows.any (· ≤ 0) = false := by
      rw [List.any_eq_false]
      intro window inside
      have above := valid.positive window (same.mem_iff.mp inside)
      simpa using above
    have distinct : windows.eraseDups.length = windows.length := by
      rw [eraseDups_of_nodup (same.nodup_iff.mpr valid.distinct)]
    have order := (checkWindows_reads location windows)
    unfold checkWindows at order ⊢
    rw [present, positive] at order ⊢
    simp only [Bool.false_eq_true, if_false, distinct, ne_eq, not_true_eq_false] at order ⊢
    refine congrArg _ (List.Perm.eq_of_pairwise (fun _ _ _ _ => Int.le_antisymm)
      (WindowsValid.ascending order) valid.ascending (permuted.trans same))

theorem windowsOf_eq_ok_iff {location : List Step} {value : Document} {sorted : List Int} :
    windowsOf location value = .ok sorted ↔
      ∃ items windows, itemsOf? value = some items ∧
        List.Forall₂ (fun item window => integerOf item = .ok window) items windows ∧
        windows.Perm sorted ∧ WindowsValid sorted := by
  unfold windowsOf
  cases itemsOf? value with
  | none => simp [Checked.issue]
  | some items =>
      dsimp only
      rw [bind_eq_ok_iff]
      simp only [all_mapIdx_eq_ok_iff fun _ _ _ => boundedInteger_any_eq_ok_iff,
        checkWindows_eq_ok_iff]
      constructor
      · rintro ⟨windows, read, checked⟩
        exact ⟨items, windows, rfl, read, checked⟩
      · rintro ⟨_, windows, same, read, checked⟩
        cases same
        exact ⟨windows, read, checked⟩

/-! ## Sections -/

section Sections

variable {root : List (String × Document)}

theorem readRates_eq_ok_iff {rates : RateSettings} :
    readRates root = .ok rates ↔
      ∃ fields, section? root "ema" "EMASettings" = .ok fields ∧
        fieldOr fields "ema" "origin_period" RateSettings.standard.originPeriod
          (boundedInteger (.atLeast 0)) = .ok rates.originPeriod ∧
        fieldOr fields "ema" "windows" RateSettings.standard.windows windowsOf =
          .ok rates.windows := by
  unfold readRates
  simp only [bind_eq_ok_iff, Checked.both_eq_ok_iff]
  constructor
  · rintro ⟨fields, found, origin, windows, originRead, windowsRead, rfl⟩
    exact ⟨fields, found, originRead, windowsRead⟩
  · rintro ⟨fields, found, originRead, windowsRead⟩
    exact ⟨fields, found, _, _, originRead, windowsRead, rfl⟩

theorem readSimulation_eq_ok_iff {simulation : SimulationSettings} :
    readSimulation root = .ok simulation ↔
      ∃ fields, section? root "simulation" "SimulationSettings" = .ok fields ∧
        fieldOr fields "simulation" "horizon" SimulationSettings.standard.horizon
          (boundedInteger (.above 0)) = .ok simulation.horizon ∧
        fieldOr fields "simulation" "decimal_precision"
          SimulationSettings.standard.decimalPrecision (boundedInteger (.between 16 200)) =
            .ok simulation.decimalPrecision ∧
        fieldOr fields "simulation" "seed_precision" SimulationSettings.standard.seedPrecision
          (boundedInteger (.above 0)) = .ok simulation.seedPrecision := by
  unfold readSimulation
  simp only [bind_eq_ok_iff, Checked.both_eq_ok_iff, Checked.apply_eq_ok_iff]
  constructor
  · rintro ⟨fields, found, _, seeds, ⟨horizon, precision, horizonRead, precisionRead, rfl⟩,
      seedsRead, rfl⟩
    exact ⟨fields, found, horizonRead, precisionRead, seedsRead⟩
  · rintro ⟨fields, found, horizonRead, precisionRead, seedsRead⟩
    exact ⟨fields, found, _, _, ⟨_, _, horizonRead, precisionRead, rfl⟩, seedsRead, rfl⟩

/-- The drift of the section on the seed gauge. -/
def readDrift (fields : List (String × Document)) : Except Decimal.Signal (Checked Decimal) :=
  match fields.lookup "delta_r" with
  | none => .ok (.ok GaugeSettings.standard.ratioDrift)
  | some value => driftOf [.field "gauge", .field "delta_r"] value

theorem readGauge_eq_ok_iff {gauge : GaugeSettings} :
    readGauge root = .ok (.ok gauge) ↔
      ∃ fields, section? root "gauge" "GaugeSettings" = .ok fields ∧
        fieldOr fields "gauge" "activation_period" GaugeSettings.standard.activationPeriod
          (boundedInteger (.atLeast 0)) = .ok gauge.activationPeriod ∧
        fieldOr fields "gauge" "catch_up_rate" GaugeSettings.standard.catchUpRate
          (boundedInteger (.above 0)) = .ok gauge.catchUpRate ∧
        readDrift fields = .ok (.ok gauge.ratioDrift) ∧
        fieldOr fields "gauge" "ratio_precision" GaugeSettings.standard.ratioPrecision
          (boundedInteger (.above 0)) = .ok gauge.ratioPrecision ∧
        fieldOr fields "gauge" "gauge_point_function" GaugeSettings.standard.pointRule ruleOf =
          .ok gauge.pointRule := by
  have joined : ∀ fields : List (String × Document), section? root "gauge" "GaugeSettings" = .ok fields →
      readGauge root = (readDrift fields >>= fun drift =>
        .ok (Checked.both GaugeSettings.mk
            (fieldOr fields "gauge" "activation_period" GaugeSettings.standard.activationPeriod
              (boundedInteger (.atLeast 0)))
            (fieldOr fields "gauge" "catch_up_rate" GaugeSettings.standard.catchUpRate
              (boundedInteger (.above 0)))
          |>.apply drift
          |>.apply (fieldOr fields "gauge" "ratio_precision"
            GaugeSettings.standard.ratioPrecision (boundedInteger (.above 0)))
          |>.apply (fieldOr fields "gauge" "gauge_point_function"
            GaugeSettings.standard.pointRule ruleOf))) := by
    intro fields found
    unfold readGauge readDrift
    rw [found]
    dsimp only
    cases fields.lookup "delta_r" <;> rfl
  cases found : section? root "gauge" "GaugeSettings" with
  | error issues =>
      unfold readGauge
      rw [found]
      simp [Pure.pure, Except.pure]
  | ok fields =>
      rw [joined fields found]
      simp only [bind_eq_ok_iff, Except.ok.injEq, Checked.both_eq_ok_iff, Checked.apply_eq_ok_iff]
      constructor
      · rintro ⟨_, driftRead, _, rule, ⟨_, precision, ⟨_, drift, ⟨activation, catchUp,
          activationRead, catchUpRead, rfl⟩, rfl, rfl⟩, precisionRead, rfl⟩, ruleRead, rfl⟩
        exact ⟨fields, rfl, activationRead, catchUpRead, driftRead, precisionRead, ruleRead⟩
      · rintro ⟨_, rfl, activationRead, catchUpRead, driftRead, precisionRead, ruleRead⟩
        exact ⟨_, driftRead, _, _, ⟨_, _, ⟨_, _, ⟨_, _, activationRead, catchUpRead, rfl⟩, rfl,
          rfl⟩, precisionRead, rfl⟩, ruleRead, rfl⟩

theorem readFertilizer_eq_ok_iff {fertilizer : FertilizerSettings} :
    readFertilizer root = .ok fertilizer ↔
      ∃ fields, section? root "fertilizer" "FertilizerSettings" = .ok fields ∧
        fieldOr fields "fertilizer" "default_humidity" FertilizerSettings.standard.defaultHumidity
          (boundedInteger (.atLeast 0)) = .ok fertilizer.defaultHumidity ∧
        fieldOr fields "fertilizer" "humidity_precision"
          FertilizerSettings.standard.humidityPrecision (boundedInteger (.above 0)) =
            .ok fertilizer.humidityPrecision := by
  unfold readFertilizer
  simp only [bind_eq_ok_iff, Checked.both_eq_ok_iff]
  constructor
  · rintro ⟨fields, found, humidity, precision, humidityRead, precisionRead, rfl⟩
    exact ⟨fields, found, humidityRead, precisionRead⟩
  · rintro ⟨fields, found, humidityRead, precisionRead⟩
    exact ⟨fields, found, _, _, humidityRead, precisionRead, rfl⟩

theorem readReference_eq_ok_iff {reference : String} :
    readReference root = .ok reference ↔
      ∃ fields value text,
        (root.lookup "tokens").isSome ∧ section? root "tokens" "TokenSettings" = .ok fields ∧
        fields.lookup "reference" = some value ∧
        textOf [.field "tokens", .field "reference"] value = .ok text ∧
        Text.lowerCase text = reference := by
  unfold readReference
  cases root.lookup "tokens" with
  | none => simp [Checked.issue]
  | some present =>
      dsimp only
      rw [bind_eq_ok_iff]
      constructor
      · rintro ⟨fields, found, read⟩
        cases held : fields.lookup "reference" with
        | none => simp [held, Checked.issue] at read
        | some value =>
            rw [held] at read
            obtain ⟨text, textRead, lowered⟩ := bind_eq_ok_iff.mp read
            exact ⟨fields, value, text, rfl, found, held, textRead, Except.ok.inj lowered⟩
      · rintro ⟨fields, value, text, -, found, held, textRead, rfl⟩
        refine ⟨fields, found, ?_⟩
        rw [held]
        exact bind_eq_ok_iff.mpr ⟨text, textRead, rfl⟩

theorem ofFields_eq_ok_iff {settings : Settings} :
    ofFields root = .ok settings ↔
      readRates root = .ok settings.rates ∧ readSimulation root = .ok settings.simulation ∧
        readGauge root = .ok (.ok settings.gauge) ∧
        readFertilizer root = .ok settings.fertilizer ∧
        readReference root = .ok settings.reference ∧
        settings.rates.originPeriod ≤ settings.gauge.activationPeriod := by
  unfold ofFields
  simp only [bind_eq_ok_iff, mapError_eq_ok_iff, Checked.both_eq_ok_iff, Checked.apply_eq_ok_iff]
  constructor
  · rintro ⟨_, gaugeRead, _, ⟨_, reference, ⟨_, fertilizer, ⟨_, gauge, ⟨rates, simulation,
      ratesRead, simulationRead, rfl⟩, rfl, rfl⟩, fertilizerRead, rfl⟩, referenceRead, rfl⟩,
      checked⟩
    unfold checkActivation at checked
    split at checked
    · contradiction
    · next late =>
        obtain rfl := Except.ok.inj checked
        exact ⟨ratesRead, simulationRead, gaugeRead, fertilizerRead, referenceRead,
          Int.not_lt.mp late⟩
  · rintro ⟨ratesRead, simulationRead, gaugeRead, fertilizerRead, referenceRead, late⟩
    exact ⟨_, gaugeRead, settings, ⟨_, _, ⟨_, _, ⟨_, _, ⟨_, _, ratesRead, simulationRead, rfl⟩,
      rfl, rfl⟩, fertilizerRead, rfl⟩, referenceRead, rfl⟩, if_neg (Int.not_lt.mpr late)⟩

end Sections

end Settings

end DepositYield
