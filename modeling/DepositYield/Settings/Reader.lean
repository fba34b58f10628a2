import DepositYield.Settings.Basic
import DepositYield.Settings.Field
import DepositYield.Text.Case
import DepositYield.Yaml.Value

/-!
# Reading settings

Settings are read from a document with one section for each part.  Sections and
fields that are missing take their standard values, except for the bean, and
unknown ones are ignored.  All issues are collected in the order of the fields.
-/

namespace DepositYield

/-- Why settings cannot be read. -/
inductive SettingsFailure where
  /-- The text holds no document. -/
  | unreadable (fault : Yaml.Fault)
  /-- The document is no object. -/
  | notAnObject (document : Document)
  /-- The document has a name that is no text. -/
  | nameNotText
  /-- A decimal leaves the range of arithmetic. -/
  | signal (signal : Decimal.Signal)
  | invalid (issues : List Issue)

namespace Settings

/-- The fields of a section, none when the section is missing. -/
def section? (root : List (String × Document)) (name typeName : String) :
    Checked (List (String × Document)) :=
  match root.lookup name with
  | none => .ok []
  | some (.object fields) => .ok fields
  | some (.mapping entries) => .ok (Document.textFields entries)
  | some _ => .issue [.field name] (.notASection typeName)

/-- A field of a section, or its standard value when it is missing. -/
def fieldOr {α : Type} (fields : List (String × Document)) (sectionName name : String)
    (standard : α) (read : List Step → Document → Checked α) : Checked α :=
  match fields.lookup name with
  | none => .ok standard
  | some value => read [.field sectionName, .field name] value

/-- The section on mint rates. -/
def readRates (root : List (String × Document)) : Checked RateSettings := do
  let fields ← section? root "ema" "EMASettings"
  Checked.both RateSettings.mk
    (fieldOr fields "ema" "origin_period" RateSettings.standard.originPeriod
      (boundedInteger (.atLeast 0)))
    (fieldOr fields "ema" "windows" RateSettings.standard.windows windowsOf)

/-- The section on simulations. -/
def readSimulation (root : List (String × Document)) : Checked SimulationSettings := do
  let fields ← section? root "simulation" "SimulationSettings"
  let standard := SimulationSettings.standard
  let integer (name : String) (value : Int) (bound : Bound) : Checked Int :=
    fieldOr fields "simulation" name value (boundedInteger bound)
  Checked.both SimulationSettings.mk
      (integer "horizon" standard.horizon (.above 0))
      (integer "decimal_precision" standard.decimalPrecision (.between 16 200))
    |>.apply (integer "seed_precision" standard.seedPrecision (.above 0))

/-- The section on the seed gauge.  A drift outside the range of arithmetic
stops the reading at once. -/
def readGauge (root : List (String × Document)) :
    Except Decimal.Signal (Checked GaugeSettings) := do
  match section? root "gauge" "GaugeSettings" with
  | .error issues => return .error issues
  | .ok fields =>
      let standard := GaugeSettings.standard
      let drift ←
        match fields.lookup "delta_r" with
        | none => pure (.ok standard.ratioDrift)
        | some value => driftOf [.field "gauge", .field "delta_r"] value
      let integer (name : String) (value : Int) (bound : Bound) : Checked Int :=
        fieldOr fields "gauge" name value (boundedInteger bound)
      return Checked.both GaugeSettings.mk
          (integer "activation_period" standard.activationPeriod (.atLeast 0))
          (integer "catch_up_rate" standard.catchUpRate (.above 0))
        |>.apply drift
        |>.apply (integer "ratio_precision" standard.ratioPrecision (.above 0))
        |>.apply (fieldOr fields "gauge" "gauge_point_function" standard.pointRule ruleOf)

/-- The section on fertilizer. -/
def readFertilizer (root : List (String × Document)) : Checked FertilizerSettings := do
  let fields ← section? root "fertilizer" "FertilizerSettings"
  let standard := FertilizerSettings.standard
  Checked.both FertilizerSettings.mk
    (fieldOr fields "fertilizer" "default_humidity" standard.defaultHumidity
      (boundedInteger (.atLeast 0)))
    (fieldOr fields "fertilizer" "humidity_precision" standard.humidityPrecision
      (boundedInteger (.above 0)))

/-- The address of the bean, in lower case. -/
def readReference (root : List (String × Document)) : Checked String := do
  match root.lookup "tokens" with
  | none => .issue [.field "tokens"] .missing
  | some _ =>
      let fields ← section? root "tokens" "TokenSettings"
      let location := [Step.field "tokens", Step.field "reference"]
      match fields.lookup "reference" with
      | none => .issue location .missing
      | some value => return Text.lowerCase (← textOf location value)

/-- The gauge must not become active before the mint history starts. -/
def checkActivation (settings : Settings) : Checked Settings :=
  if settings.gauge.activationPeriod < settings.rates.originPeriod then
    .issue [] (.gaugeBeforeOrigin settings.gauge.activationPeriod settings.rates.originPeriod)
  else
    .ok settings

/-- The settings of the fields of a document. -/
def ofFields (root : List (String × Document)) : Except SettingsFailure Settings := do
  let gauge ← (readGauge root).mapError SettingsFailure.signal
  let settings := Checked.both Settings.mk (readRates root) (readSimulation root)
    |>.apply gauge
    |>.apply (readFertilizer root)
    |>.apply (readReference root)
  (settings >>= checkActivation).mapError SettingsFailure.invalid

/-- The settings of a document. -/
def ofDocument : Document → Except SettingsFailure Settings
  | .object fields => ofFields fields
  | .mapping _ => .error .nameNotText
  | document => .error (.notAnObject document)

/-- The settings of a file in YAML. -/
def ofYaml (text : String) : Except SettingsFailure Settings := do
  ofDocument (← (Document.ofYaml text).mapError .unreadable)

end Settings

end DepositYield
