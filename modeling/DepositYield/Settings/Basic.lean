import DepositYield.Decimal.Basic

/-!
# Settings

The settings of a workbench: how mint rates are smoothed, how yields are
simulated and which token is the bean.
-/

namespace DepositYield

/-- How mint rates are smoothed. -/
structure RateSettings where
  /-- The period after which the mint history starts. -/
  originPeriod : Int
  windows : List Int
  deriving DecidableEq, Repr

/-- How yields are simulated. -/
structure SimulationSettings where
  /-- The number of simulated seasons. -/
  horizon : Int
  /-- The significant digits of every operation. -/
  decimalPrecision : Int
  /-- Seeds per unit of stalk growth. -/
  seedPrecision : Int
  deriving DecidableEq, Repr

/-- How the seed gauge is simulated. -/
structure GaugeSettings where
  /-- The first period that is simulated under the gauge. -/
  activationPeriod : Int
  /-- Seasons in which a new deposit catches up with the average one. -/
  catchUpRate : Int
  /-- The drift of the seed ratio per season. -/
  ratioDrift : Decimal
  /-- The small units of the stored seed ratio in one whole. -/
  ratioPrecision : Int
  /-- The selector of the point rule of tokens that are left on identity. -/
  pointRule : String
  deriving DecidableEq, Repr

/-- How fertilizer yields are estimated. -/
structure FertilizerSettings where
  /-- The humidity, in small units, where none can be read. -/
  defaultHumidity : Int
  /-- The small units of humidity in one whole. -/
  humidityPrecision : Int
  deriving DecidableEq, Repr

/-- The settings of a workbench. -/
structure Settings where
  rates : RateSettings
  simulation : SimulationSettings
  gauge : GaugeSettings
  fertilizer : FertilizerSettings
  /-- The address of the bean, in lower case. -/
  reference : String
  deriving DecidableEq, Repr

namespace RateSettings

/-- The standard smoothing: windows of a day, a week and a month. -/
def standard : RateSettings where
  originPeriod := 6074
  windows := [24, 168, 720]

end RateSettings

namespace SimulationSettings

/-- The standard simulation: a year of seasons. -/
def standard : SimulationSettings where
  horizon := 8760
  decimalPrecision := 34
  seedPrecision := 10000

end SimulationSettings

namespace GaugeSettings

/-- The standard seed gauge. -/
def standard : GaugeSettings where
  activationPeriod := 19628
  catchUpRate := 4320
  ratioDrift := .finite true 1 (-2)
  ratioPrecision := 100000000000000000000
  pointRule := "identity"

end GaugeSettings

namespace FertilizerSettings

/-- The standard fertilizer. -/
def standard : FertilizerSettings where
  defaultHumidity := 500
  humidityPrecision := 1000

end FertilizerSettings

namespace Settings

/-- The settings of a workbench that is given none. -/
def standard : Settings where
  rates := .standard
  simulation := .standard
  gauge := .standard
  fertilizer := .standard
  reference := "0xbea0000029ad1c77d3d5d23ba2d8893db9d1efab"

end Settings

end DepositYield
