import DepositYield.Proofs.Settings.Normal

/-!
# Bounds of settings

The settings that are read are those that keep all bounds, but the one of the drift is
wider than one by half a unit of the twenty-eighth digit.  Drifts of no more digits than
that keep the bound itself; longer ones need not.
-/

namespace DepositYield

/-- Settings that keep all bounds, where the drift moves the ratio by at most a limit. -/
structure Settings.WithinBounds (limit : ℚ) (settings : Settings) : Prop where
  windowsPresent : settings.rates.windows ≠ []
  windowsPositive : ∀ window ∈ settings.rates.windows, 1 ≤ window
  windowsIncrease : settings.rates.windows.Pairwise (· < ·)
  originPeriod : 0 ≤ settings.rates.originPeriod
  horizon : 1 ≤ settings.simulation.horizon
  decimalPrecision : 16 ≤ settings.simulation.decimalPrecision ∧
    settings.simulation.decimalPrecision ≤ 200
  seedPrecision : 1 ≤ settings.simulation.seedPrecision
  activation : settings.rates.originPeriod ≤ settings.gauge.activationPeriod
  catchUpRate : 1 ≤ settings.gauge.catchUpRate
  driftFinite : settings.gauge.ratioDrift.isFinite
  drift : -limit ≤ settings.gauge.ratioDrift.toRat ∧ settings.gauge.ratioDrift.toRat ≤ limit
  ratioPrecision : 1 ≤ settings.gauge.ratioPrecision
  defaultHumidity : 0 ≤ settings.fertilizer.defaultHumidity
  humidityPrecision : 1 ≤ settings.fertilizer.humidityPrecision

/-- Settings whose texts are as they are written: the drift has a numeral, the point rule a
selector, and the address of the bean is in lower case. -/
structure Settings.WellSpelled (settings : Settings) : Prop where
  drift : settings.gauge.ratioDrift.InRange
  pointRule : settings.gauge.pointRule ∈ ruleSelectors
  reference : Text.lowerCase settings.reference = settings.reference

theorem WindowsValid.increase {windows : List Int} (valid : WindowsValid windows) :
    windows.Pairwise (· < ·) :=
  valid.ascending.imp₂ (fun _ _ le different => lt_of_le_of_ne le different) valid.distinct

namespace Settings

variable {settings : Settings}

/-- The settings that are read are within the bounds with the wider one for the drift. -/
theorem normal_iff_withinBounds :
    settings.Normal ↔
      settings.WithinBounds (1 + 5 * 10 ^ (-28 : ℤ)) ∧ settings.WellSpelled := by
  constructor
  · rintro ⟨⟨rates, simulation, gauge, fertilizer, activation⟩, drift, reference⟩
    exact ⟨{ windowsPresent := rates.windows.present
             windowsPositive := rates.windows.positive
             windowsIncrease := rates.windows.increase
             originPeriod := rates.originPeriod
             horizon := simulation.horizon
             decimalPrecision := simulation.decimalPrecision
             seedPrecision := simulation.seedPrecision
             activation := activation
             catchUpRate := gauge.catchUpRate
             driftFinite := gauge.ratioDriftFinite
             drift := abs_le.mp ((driftInRange_iff gauge.ratioDriftFinite).mp
               gauge.ratioDriftInRange)
             ratioPrecision := gauge.ratioPrecision
             defaultHumidity := fertilizer.defaultHumidity
             humidityPrecision := fertilizer.humidityPrecision },
      ⟨drift, gauge.pointRule, reference⟩⟩
  · rintro ⟨bounds, drift, pointRule, reference⟩
    have windows : WindowsValid settings.rates.windows :=
      { present := bounds.windowsPresent
        positive := bounds.windowsPositive
        distinct := bounds.windowsIncrease.imp ne_of_lt
        ascending := bounds.windowsIncrease.imp le_of_lt }
    exact {
      valid := {
        rates := ⟨bounds.originPeriod, windows⟩
        simulation := ⟨bounds.horizon, bounds.decimalPrecision, bounds.seedPrecision⟩
        gauge := {
          activationPeriod := bounds.originPeriod.trans bounds.activation
          catchUpRate := bounds.catchUpRate
          ratioDriftFinite := bounds.driftFinite
          ratioDriftInRange := (driftInRange_iff bounds.driftFinite).mpr (abs_le.mpr bounds.drift)
          ratioPrecision := bounds.ratioPrecision
          pointRule := pointRule }
        fertilizer := ⟨bounds.defaultHumidity, bounds.humidityPrecision⟩
        activation := bounds.activation }
      driftInRange := drift
      reference := reference }

/-- Settings are read from some document exactly if they are within the bounds, where the
drift may exceed one by half a unit of the twenty-eighth digit.  A drift of at most
twenty-eight digits keeps the bound of one. -/
theorem read_iff_within_wider_bounds (settings : Settings) :
    ((∃ document, ofDocument document = .ok settings) ↔
        settings.WithinBounds (1 + 5 * 10 ^ (-28 : ℤ)) ∧ settings.WellSpelled) ∧
      ∀ document negative coefficient exponent, ofDocument document = .ok settings →
        settings.gauge.ratioDrift = .finite negative coefficient exponent →
        coefficient < 10 ^ 28 → settings.WithinBounds 1 := by
  refine ⟨exists_ofDocument_iff.trans normal_iff_withinBounds, ?_⟩
  intro document negative coefficient exponent read isDrift few
  have normal := normal_of_ofDocument read
  have ranged := normal.valid.gauge.ratioDriftInRange
  rw [isDrift] at ranged
  have drift := abs_le.mp (abs_toRat_le_one few ranged)
  rw [← isDrift] at drift
  exact { (normal_iff_withinBounds.mp normal).1 with drift := drift }

/-- The standard settings with another drift. -/
def drifting (drift : Decimal) : Settings :=
  { standard with gauge := { GaugeSettings.standard with ratioDrift := drift } }

theorem standard_normal : standard.Normal where
  valid := standard_valid
  driftInRange := by decide +kernel
  reference := (Text.lowerCase_ascii (by decide)).trans (by decide)

theorem drifting_withinBounds {drift : Decimal} {limit : ℚ} (finite : drift.isFinite)
    (within : -limit ≤ drift.toRat ∧ drift.toRat ≤ limit) :
    (drifting drift).WithinBounds limit :=
  { (normal_iff_withinBounds.mp standard_normal).1 with driftFinite := finite, drift := within }

theorem drifting_wellSpelled {drift : Decimal} (inRange : drift.InRange) :
    (drifting drift).WellSpelled :=
  { (normal_iff_withinBounds.mp standard_normal).2 with drift := inRange }

/-- The widest drift of all lies below minus one, and its settings are read; those with the
drift one are within the bound of one. -/
theorem widest_drift_is_read :
    (∃ document, ofDocument document =
        .ok (drifting (.finite true 10000000000000000000000000005 (-28)))) ∧
      (drifting (.finite false 1 0)).WithinBounds 1 := by
  constructor
  · refine (read_iff_within_wider_bounds _).1.mpr
      ⟨drifting_withinBounds rfl ?_, drifting_wellSpelled (by decide +kernel)⟩
    norm_num [Decimal.toRat, Decimal.sign]
  · have bounds : (drifting (.finite false 1 0)).WithinBounds (1 + 5 * 10 ^ (-28 : ℤ)) :=
      drifting_withinBounds rfl (by norm_num [Decimal.toRat, Decimal.sign])
    have spelled : (drifting (.finite false 1 0)).WellSpelled :=
      drifting_wellSpelled (by decide +kernel)
    obtain ⟨document, read⟩ := (read_iff_within_wider_bounds _).1.mpr ⟨bounds, spelled⟩
    exact (read_iff_within_wider_bounds _).2 document false 1 0 read rfl (by decide)

/-- A document with a drift of thirty digits just above one. -/
def overlongDrift : Document :=
  .object [
    ("tokens", .object [("reference", .text "0xa")]),
    ("gauge", .object [("delta_r", .text "1.00000000000000000000000000001")])]

/-- The magnitude of that drift is rounded to one, so it is accepted. -/
theorem overlongDrift_is_read :
    ∃ settings : Settings, ofDocument overlongDrift = .ok settings ∧
      1 < settings.gauge.ratioDrift.toRat ∧ ¬settings.WithinBounds 1 := by
  have read : ofDocument overlongDrift =
      .ok { drifting (.finite false 100000000000000000000000000001 (-29)) with
        reference := "0xa" } := by
    refine ofFields_eq_ok_iff.mpr ⟨?_, ?_, ?_, ?_, ?_, ?_⟩ <;> decide +kernel
  have above : 1 < (Decimal.finite false 100000000000000000000000000001 (-29)).toRat := by
    norm_num [Decimal.toRat, Decimal.sign]
  exact ⟨_, read, above, fun bounds => absurd bounds.drift.2 (not_le.mpr above)⟩

end Settings

end DepositYield
