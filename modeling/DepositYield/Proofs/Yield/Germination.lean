import DepositYield.Yield.Gauge

/-!
# Only one bucket becomes live

Of the value that germinates in a scenario, a simulation reads only the bucket opposite to
the parity of its season.  Whatever the other bucket holds, the simulation has the same
outcome.
-/

namespace DepositYield

open Decimal

namespace GaugeScenario

/-- The same scenario with other value that germinates. -/
def germinating (scenario : GaugeScenario) (bean : List Written) (gauge : List (List Written))
    (nonGauge : List Written) : GaugeScenario :=
  { scenario with
    germinatingBean := bean
    germinatingGauge := gauge
    germinatingNonGauge := nonGauge }

/-- The scenarios are the same but for the bucket that does not become live. -/
structure SameLive (left right : GaugeScenario) : Prop where
  others : right =
    left.germinating right.germinatingBean right.germinatingGauge right.germinatingNonGauge
  bean : right.germinatingBean[left.bucket]? = left.germinatingBean[left.bucket]?
  tokens : right.germinatingTokens[left.bucket]? = left.germinatingTokens[left.bucket]?
  nonGauge : right.germinatingNonGauge[left.bucket]? = left.germinatingNonGauge[left.bucket]?

namespace SameLive

variable {left right : GaugeScenario} {context : Context} {drift : RatioDrift} {seasons : Nat}

theorem entry_eq {Value : Type} {values others : List Value} {position : Nat}
    (same : others[position]? = values[position]?) :
    entry others position = entry values position := by
  unfold entry
  rw [same]

theorem mature_eq (same : SameLive left right) (state : SiloState) :
    mature context right state = mature context left state := by
  have bean := entry_eq same.bean
  have tokens := entry_eq same.tokens
  have nonGauge := entry_eq same.nonGauge
  have bucket : right.bucket = left.bucket := by rw [same.others]; rfl
  have count : right.tokenCount = left.tokenCount := by rw [same.others]; rfl
  unfold mature decimalEntry
  rw [bucket, count, bean, tokens, nonGauge]

theorem seasonStep_eq (same : SameLive left right) (seedScale : Decimal) (season : Nat)
    (state : SiloState) :
    seasonStep context right drift seedScale season state =
      seasonStep context left drift seedScale season state := by
  unfold seasonStep
  simp only [same.mature_eq]
  rw [same.others]
  rfl

theorem run_eq (same : SameLive left right) (seedScale : Decimal) (season : Nat)
    (state : SiloState) (depositors : List Depositor) :
    run context right drift seedScale season seasons state depositors =
      run context left drift seedScale season seasons state depositors := by
  have earnedBeans : right.earnedBeans = left.earnedBeans := by rw [same.others]; rfl
  induction seasons generalizing season state depositors with
  | zero => rfl
  | succ seasons ih =>
      unfold run
      simp only [same.seasonStep_eq, earnedBeans, ih]

/-- The bucket that does not become live has no influence on a simulation. -/
theorem simulate_eq (same : SameLive left right) (precision seedPrecision : Int) :
    right.simulate drift seasons precision seedPrecision =
      left.simulate drift seasons precision seedPrecision := by
  unfold simulate simulateAssets
  simp only [same.run_eq]
  rw [same.others]
  rfl

end SameLive

end GaugeScenario

end DepositYield
