import DepositYield.Proofs.Lists
import DepositYield.Proofs.Settling
import DepositYield.Settings.Reader

/-!
# Valid settings

Settings are valid if every field keeps its declared bounds and the gauge becomes active
no earlier than the mint history starts.  The standard settings are valid, and so are
all settings that are read from a document.
-/

namespace DepositYield

/-- The selectors that a point rule of the settings may have. -/
def ruleSelectors : List String :=
  ["identity", "default"]

/-- At least one window, all of them positive, distinct and in order. -/
structure WindowsValid (windows : List Int) : Prop where
  present : windows ≠ []
  positive : ∀ window ∈ windows, 0 < window
  distinct : windows.Nodup
  ascending : windows.Pairwise (· ≤ ·)

structure RateSettings.Valid (settings : RateSettings) : Prop where
  originPeriod : 0 ≤ settings.originPeriod
  windows : WindowsValid settings.windows

structure SimulationSettings.Valid (settings : SimulationSettings) : Prop where
  horizon : 0 < settings.horizon
  decimalPrecision : 16 ≤ settings.decimalPrecision ∧ settings.decimalPrecision ≤ 200
  seedPrecision : 0 < settings.seedPrecision

/-- The drift is finite and moves the ratio by no more than its whole range. -/
structure GaugeSettings.Valid (settings : GaugeSettings) : Prop where
  activationPeriod : 0 ≤ settings.activationPeriod
  catchUpRate : 0 < settings.catchUpRate
  ratioDriftFinite : settings.ratioDrift.isFinite
  ratioDriftInRange : Settings.driftInRange settings.ratioDrift = .ok true
  ratioPrecision : 0 < settings.ratioPrecision
  pointRule : settings.pointRule ∈ ruleSelectors

structure FertilizerSettings.Valid (settings : FertilizerSettings) : Prop where
  defaultHumidity : 0 ≤ settings.defaultHumidity
  humidityPrecision : 0 < settings.humidityPrecision

/-- Every field keeps its bounds, and the gauge becomes active after the origin. -/
structure Settings.Valid (settings : Settings) : Prop where
  rates : settings.rates.Valid
  simulation : settings.simulation.Valid
  gauge : settings.gauge.Valid
  fertilizer : settings.fertilizer.Valid
  activation : settings.rates.originPeriod ≤ settings.gauge.activationPeriod

/-! ## The standard settings -/

theorem RateSettings.standard_valid : RateSettings.standard.Valid where
  originPeriod := by decide
  windows := by constructor <;> decide

theorem SimulationSettings.standard_valid : SimulationSettings.standard.Valid := by
  constructor <;> decide

theorem GaugeSettings.standard_valid : GaugeSettings.standard.Valid := by
  constructor <;> decide +kernel

theorem FertilizerSettings.standard_valid : FertilizerSettings.standard.Valid := by
  constructor <;> decide

theorem Settings.standard_valid : Settings.standard.Valid where
  rates := RateSettings.standard_valid
  simulation := SimulationSettings.standard_valid
  gauge := GaugeSettings.standard_valid
  fertilizer := FertilizerSettings.standard_valid
  activation := by decide

/-! ## Values that are read -/

/-- What is read is good. -/
abbrev Reads {Value : Type} (good : Value → Prop) (checked : Checked Value) : Prop :=
  Settles (fun _ => True) good checked

namespace Reads

variable {First Second Joined : Type} {good : First → Prop} {other : Second → Prop}
  {joined : Joined → Prop}

theorem both {join : First → Second → Joined} {left : Checked First} {right : Checked Second}
    (first : Reads good left) (second : Reads other right)
    (implies : ∀ first second, good first → other second → joined (join first second)) :
    Reads joined (Checked.both join left right) := by
  cases left with
  | ok leftValue =>
      cases right with
      | ok rightValue => exact implies leftValue rightValue first second
      | error issues => trivial
  | error issues => cases right <;> trivial

theorem apply {function : Checked (First → Joined)} {value : Checked First}
    (made : Reads (fun make => ∀ argument, good argument → joined (make argument)) function)
    (read : Reads good value) : Reads joined (Checked.apply function value) :=
  both made read fun _ argument makes isGood => makes argument isGood

end Reads

namespace Settings

theorem boundedInteger_reads (bound : Bound) (location : List Step) (value : Document) :
    Reads (fun whole => bound.violation? whole = none) (boundedInteger bound location value) := by
  unfold boundedInteger
  split
  · trivial
  split
  · trivial
  · next kept => exact kept

theorem atLeast_reads (minimum : Int) (location : List Step) (value : Document) :
    Reads (minimum ≤ ·) (boundedInteger (.atLeast minimum) location value) := by
  apply (boundedInteger_reads (.atLeast minimum) location value).mono
  intro whole kept
  simpa [Bound.violation?] using kept

theorem above_reads (limit : Int) (location : List Step) (value : Document) :
    Reads (limit < ·) (boundedInteger (.above limit) location value) := by
  apply (boundedInteger_reads (.above limit) location value).mono
  intro whole kept
  simpa [Bound.violation?] using kept

theorem between_reads (minimum maximum : Int) (location : List Step) (value : Document) :
    Reads (fun whole => minimum ≤ whole ∧ whole ≤ maximum)
      (boundedInteger (.between minimum maximum) location value) := by
  apply (boundedInteger_reads (.between minimum maximum) location value).mono
  intro whole kept
  unfold Bound.violation? at kept
  grind

section Sections

variable {Value : Type} {good : Value → Prop} {standard : Value}
  {read : List Step → Document → Checked Value}

theorem fieldOr_reads (fields : List (String × Document)) (sectionName name : String)
    (standardGood : good standard) (reads : ∀ location value, Reads good (read location value)) :
    Reads good (fieldOr fields sectionName name standard read) := by
  unfold fieldOr
  split
  · exact standardGood
  · exact reads _ _

end Sections

/-! ## Windows -/

theorem checkWindows_reads (location : List Step) (windows : List Int) :
    Reads WindowsValid (checkWindows location windows) := by
  unfold checkWindows
  split
  · trivial
  split
  · trivial
  split
  · trivial
  next present positive unique =>
  have sorted := List.mergeSort_perm windows fun left right => decide (left ≤ right)
  refine ⟨?_, ?_, ?_, ?_⟩
  · intro empty
    rw [empty] at sorted
    simp [sorted.nil_eq.symm] at present
  · intro window inside
    simp only [List.any_eq_true, decide_eq_true_eq, not_exists, not_and] at positive
    exact Int.not_le.mp (positive window (sorted.mem_iff.mp inside))
  · exact sorted.nodup_iff.mpr (nodup_of_length_eraseDups (Decidable.not_not.mp unique))
  · have ascending : (windows.mergeSort fun left right => decide (left ≤ right)).Pairwise
        fun left right => decide (left ≤ right) = true := by
      apply List.pairwise_mergeSort
      · intro first second third lower upper
        exact decide_eq_true
          (Int.le_trans (of_decide_eq_true lower) (of_decide_eq_true upper))
      · intro first second
        simpa using Int.le_total first second
    exact ascending.imp of_decide_eq_true

theorem windowsOf_reads (location : List Step) (value : Document) :
    Reads WindowsValid (windowsOf location value) := by
  unfold windowsOf
  split
  · exact (Settles.any _).bind fun windows _ => checkWindows_reads _ windows
  · trivial

/-! ## Drifts and rules -/

theorem isFinite_of_decimalOf {value : Document} {decimal : Decimal}
    (read : decimalOf value = .ok decimal) : decimal.isFinite := by
  have finite : Settles (fun _ => True) (fun decimal => decimal.isFinite = true)
      (decimalOf value) := by
    apply (Settles.any _).bind
    intro decimal _
    split
    · next isFinite => exact isFinite
    · trivial
  rwa [read] at finite

theorem driftOf_reads (location : List Step) (value : Document) :
    Settles (fun _ => True)
      (Reads fun drift => drift.isFinite = true ∧ driftInRange drift = .ok true)
      (driftOf location value) := by
  unfold driftOf
  split
  · trivial
  next drift read =>
  cases ranged : driftInRange drift with
  | error signal => trivial
  | ok inRange =>
      cases inRange with
      | false => trivial
      | true => exact ⟨isFinite_of_decimalOf read, ranged⟩

theorem ruleOf_reads (location : List Step) (value : Document) :
    Reads (· ∈ ruleSelectors) (ruleOf location value) := by
  unfold ruleOf
  split
  · exact .head _
  · exact .tail _ (.head _)
  · trivial
  · trivial

/-! ## Sections -/

section Sections

variable (root : List (String × Document))

theorem readRates_reads : Reads RateSettings.Valid (readRates root) := by
  apply (Settles.any (section? root "ema" "EMASettings")).bind
  intro fields _
  exact Reads.both
    (fieldOr_reads fields _ _ RateSettings.standard_valid.originPeriod (atLeast_reads 0))
    (fieldOr_reads fields _ _ RateSettings.standard_valid.windows windowsOf_reads)
    fun _ _ origin windows => ⟨origin, windows⟩

theorem readSimulation_reads : Reads SimulationSettings.Valid (readSimulation root) := by
  apply (Settles.any (section? root "simulation" "SimulationSettings")).bind
  intro fields _
  have standard := SimulationSettings.standard_valid
  refine Reads.apply (Reads.both
    (fieldOr_reads fields _ _ standard.horizon (above_reads 0))
    (fieldOr_reads fields _ _ standard.decimalPrecision (between_reads 16 200)) ?_)
    (fieldOr_reads fields _ _ standard.seedPrecision (above_reads 0))
  intro horizon precision horizonKept precisionKept seeds seedsKept
  exact ⟨horizonKept, precisionKept, seedsKept⟩

theorem readGauge_reads :
    Settles (fun _ => True) (Reads GaugeSettings.Valid) (readGauge root) := by
  have standard := GaugeSettings.standard_valid
  unfold readGauge
  split
  · trivial
  next fields _ =>
  have joined : ∀ drift : Checked Decimal,
      Reads (fun drift => drift.isFinite = true ∧ driftInRange drift = .ok true) drift →
        Reads GaugeSettings.Valid
          (Checked.both GaugeSettings.mk
              (fieldOr fields "gauge" "activation_period" GaugeSettings.standard.activationPeriod
                (boundedInteger (.atLeast 0)))
              (fieldOr fields "gauge" "catch_up_rate" GaugeSettings.standard.catchUpRate
                (boundedInteger (.above 0)))
            |>.apply drift
            |>.apply (fieldOr fields "gauge" "ratio_precision"
              GaugeSettings.standard.ratioPrecision (boundedInteger (.above 0)))
            |>.apply (fieldOr fields "gauge" "gauge_point_function"
              GaugeSettings.standard.pointRule ruleOf)) := by
    intro drift driftReads
    refine Reads.apply (Reads.apply (Reads.apply (Reads.both
      (fieldOr_reads fields _ _ standard.activationPeriod (atLeast_reads 0))
      (fieldOr_reads fields _ _ standard.catchUpRate (above_reads 0)) ?_)
      driftReads)
      (fieldOr_reads fields _ _ standard.ratioPrecision (above_reads 0)))
      (fieldOr_reads fields _ _ standard.pointRule ruleOf_reads)
    rintro activation catchUp activationKept catchUpKept drift ⟨finite, inRange⟩ precision
      precisionKept rule ruleKept
    exact ⟨activationKept, catchUpKept, finite, inRange, precisionKept, ruleKept⟩
  dsimp only
  split
  · exact joined _ ⟨standard.ratioDriftFinite, standard.ratioDriftInRange⟩
  · exact (driftOf_reads _ _).bind joined

theorem readFertilizer_reads : Reads FertilizerSettings.Valid (readFertilizer root) := by
  apply (Settles.any (section? root "fertilizer" "FertilizerSettings")).bind
  intro fields _
  have standard := FertilizerSettings.standard_valid
  exact Reads.both
    (fieldOr_reads fields _ _ standard.defaultHumidity (atLeast_reads 0))
    (fieldOr_reads fields _ _ standard.humidityPrecision (above_reads 0))
    fun _ _ humidity precision => ⟨humidity, precision⟩

end Sections

theorem checkActivation_reads {settings : Settings} (rates : settings.rates.Valid)
    (simulation : settings.simulation.Valid) (gauge : settings.gauge.Valid)
    (fertilizer : settings.fertilizer.Valid) : Reads Settings.Valid (checkActivation settings) := by
  unfold checkActivation
  split
  · trivial
  · next late => exact ⟨rates, simulation, gauge, fertilizer, Int.not_lt.mp late⟩

theorem ofFields_settles (root : List (String × Document)) :
    Settles (fun _ => True) Settings.Valid (ofFields root) := by
  apply ((readGauge_reads root).mapError fun _ => id).bind
  intro gauge gaugeReads
  have joined : Reads (fun settings => settings.rates.Valid ∧ settings.simulation.Valid ∧
      settings.gauge.Valid ∧ settings.fertilizer.Valid)
      (Checked.both Settings.mk (readRates root) (readSimulation root)
        |>.apply gauge |>.apply (readFertilizer root) |>.apply (readReference root)) := by
    refine Reads.apply (Reads.apply (Reads.apply (Reads.both (readRates_reads root)
      (readSimulation_reads root) ?_) gaugeReads) (readFertilizer_reads root))
      (Settles.any (readReference root))
    intro rates simulation ratesValid simulationValid gauge gaugeValid fertilizer
      fertilizerValid reference _
    exact ⟨ratesValid, simulationValid, gaugeValid, fertilizerValid⟩
  refine Settles.mapError (joined.bind ?_) fun _ => id
  rintro settings ⟨rates, simulation, gauge, fertilizer⟩
  exact checkActivation_reads rates simulation gauge fertilizer

/-- Settings that are read from a document are valid. -/
theorem valid_of_ofDocument {document : Document} {settings : Settings}
    (read : ofDocument document = .ok settings) : settings.Valid := by
  have settled : Settles (fun _ => True) Settings.Valid (ofDocument document) := by
    cases document with
    | object fields => exact ofFields_settles fields
    | _ => trivial
  rwa [read] at settled

end Settings

end DepositYield
