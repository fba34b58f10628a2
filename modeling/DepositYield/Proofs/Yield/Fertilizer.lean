import DepositYield.Proofs.Decimal.Amount
import DepositYield.Proofs.Yield.Finite
import DepositYield.Proofs.Yield.Separation
import DepositYield.Yield.Fertilizer

/-!
# Yields of fertilizer in rate and supply

The yield is a rounded quotient of rounded quotients.  Each of them keeps or reverses the order
of what it divides, rounding keeps it, and the yield of a rate of zero, or of one that is rounded
to zero per unit, is the least of all.  So more mints or less supply never yield less.
-/

namespace DepositYield

open Decimal Decimal.Context

theorem Decimal.isZero?_eq_true_iff {decimal : Decimal} :
    isZero? decimal = .ok true ↔ decimal.DenotesZero := by
  constructor
  · intro isZero
    cases decimal with
    | finite negative coefficient exponent =>
        exact ⟨rfl, toRat_eq_zero_iff.mpr (of_decide_eq_true (Except.ok.inj isZero))⟩
    | infinite negative => simp [isZero?] at isZero
    | nan negative signaling payload => cases signaling <;> simp [isZero?] at isZero
  · rintro ⟨finite, value⟩
    rw [isZero?_eq finite, decide_eq_true value]

/-- What is at least an amount is not negative, even if it is infinite. -/
theorem Decimal.IsAmount.le?_of_le? {left right : Decimal} (amount : left.IsAmount)
    (le : le? left right = .ok true) : le? zero right = .ok true := by
  cases right with
  | finite negative coefficient exponent =>
      rw [le?_eq amount.finite rfl] at le
      rw [le?_eq isFinite_zero rfl, toRat_zero,
        decide_eq_true (amount.nonneg.trans (of_decide_eq_true (Except.ok.inj le)))]
  | infinite negative =>
      obtain ⟨_, _, _, rfl⟩ := exists_finite_of_isFinite amount.finite
      cases negative with
      | false => rfl
      | true => cases le
  | nan negative signaling payload =>
      obtain ⟨_, _, _, rfl⟩ := exists_finite_of_isFinite amount.finite
      cases le

/-- The supply that is given, or else the one that is read. -/
def StateReader.supplyOr (reader : StateReader) : Option Int → Except YieldFailure Int
  | some amount => .ok amount
  | none => reader.supply.amountOr 0

namespace FertilizerEstimator

/-! ## Numbers -/

section Numbers

variable {context : Context} {humidity ratePerUnit greater : ℚ}

/-- The years in which a unit of fertilizer earns its price and the premium, with every operation
rounded. -/
def yearsToEarn (context : Context) (humidity ratePerUnit : ℚ) : ℚ :=
  context.rounded
    (context.rounded (context.rounded (1 + humidity) / ratePerUnit) / (yearOfSeasons : ℤ))

/-- The yearly yield, with every operation rounded; at a rate of zero it is zero. -/
def yearlyYield (context : Context) (humidity ratePerUnit : ℚ) : ℚ :=
  context.rounded (humidity / yearsToEarn context humidity ratePerUnit)

@[simp]
theorem yearsToEarn_zero (context : Context) (humidity : ℚ) :
    yearsToEarn context humidity 0 = 0 := by
  simp [yearsToEarn, rounded_zero]

@[simp]
theorem yearlyYield_zero (context : Context) (humidity : ℚ) :
    yearlyYield context humidity 0 = 0 := by
  simp [yearlyYield, rounded_zero]

variable (humid : 0 ≤ humidity) (nonneg : 0 ≤ ratePerUnit)

include humid nonneg

theorem yearsToEarn_nonneg : 0 ≤ yearsToEarn context humidity ratePerUnit :=
  rounded_nonneg (div_nonneg
    (rounded_nonneg (div_nonneg (rounded_nonneg (by linarith)) nonneg)) (by simp))

theorem yearlyYield_nonneg : 0 ≤ yearlyYield context humidity ratePerUnit :=
  rounded_nonneg (div_nonneg humid (yearsToEarn_nonneg humid nonneg))

variable (precise : 0 < context.precision) (le : ratePerUnit ≤ greater)

include precise le

omit nonneg in
/-- The premium is earned sooner at a greater rate. -/
theorem yearsToEarn_antitone (positive : 0 < ratePerUnit) :
    yearsToEarn context humidity greater ≤ yearsToEarn context humidity ratePerUnit := by
  have total : 0 ≤ context.rounded (1 + humidity) := rounded_nonneg (by linarith)
  have seasons : context.rounded (context.rounded (1 + humidity) / greater) ≤
      context.rounded (context.rounded (1 + humidity) / ratePerUnit) :=
    rounded_mono precise (div_le_div_of_nonneg_left total positive le)
  exact rounded_mono precise (div_le_div_of_nonneg_right seasons (by simp))

/-- A greater rate does not yield less, if the years at that rate are not rounded to none. -/
theorem yearlyYield_mono (takesTime : greater ≠ 0 → yearsToEarn context humidity greater ≠ 0) :
    yearlyYield context humidity ratePerUnit ≤ yearlyYield context humidity greater := by
  rcases nonneg.eq_or_lt with rfl | positive
  · rw [yearlyYield_zero]
    exact yearlyYield_nonneg humid le
  · have greaterPositive : 0 < greater := positive.trans_le le
    have years : 0 < yearsToEarn context humidity greater :=
      (yearsToEarn_nonneg humid greaterPositive.le).lt_of_ne'
        (takesTime greaterPositive.ne')
    exact rounded_mono precise
      (div_le_div_of_nonneg_left humid years (yearsToEarn_antitone humid precise le positive))

end Numbers

/-! ## Yields -/

section Yields

variable {context : Context} {humidity ratePerUnit : Decimal}

theorem simpleYield_of_zero (isZero : isZero? ratePerUnit = .ok true) :
    simpleYield context humidity ratePerUnit = .ok zero := by
  rw [simpleYield, isZero]
  rfl

variable (precise : 0 < context.precision) (humidityFinite : humidity.isFinite)

include precise humidityFinite

/-- The yield at a finite rate is the rounded one, and there is none if the years are rounded to
zero. -/
theorem simpleYield_gives (finite : ratePerUnit.isFinite) :
    Gives
      (fun yearly => yearly.isFinite = true ∧
        yearly.toRat = yearlyYield context humidity.toRat ratePerUnit.toRat ∧
        (ratePerUnit.toRat ≠ 0 → yearsToEarn context humidity.toRat ratePerUnit.toRat ≠ 0))
      (simpleYield context humidity ratePerUnit) := by
  by_cases isZero : ratePerUnit.toRat = 0
  · rw [simpleYield_of_zero (isZero?_eq_true_iff.mpr ⟨finite, isZero⟩), isZero,
      yearlyYield_zero]
    exact ⟨isFinite_zero, toRat_zero, fun nonzero => absurd rfl nonzero⟩
  · rw [simpleYield, isZero?_eq finite, decide_eq_false isZero]
    apply (add_calculates precise isFinite_one humidityFinite).gives.bind
    rintro total ⟨totalFinite, isTotal⟩
    apply (div_calculates precise totalFinite finite isZero).gives.bind
    rintro seasons ⟨seasonsFinite, isSeasons⟩
    have yearNonzero : (ofInt yearOfSeasons).toRat ≠ 0 := by
      rw [toRat_ofInt]
      decide
    apply (div_calculates precise seasonsFinite (isFinite_ofInt _) yearNonzero).gives.bind
    rintro years ⟨yearsFinite, isYears⟩
    have same : years.toRat = yearsToEarn context humidity.toRat ratePerUnit.toRat := by
      rw [isYears, isSeasons, isTotal, toRat_one, toRat_ofInt, yearsToEarn]
    by_cases none : years.toRat = 0
    · exact (div_by_zero humidityFinite yearsFinite none).mono fun _ => False.elim
    · apply (div_calculates precise humidityFinite yearsFinite none).gives.mono
      rintro yearly ⟨yearlyFinite, isYearly⟩
      exact ⟨yearlyFinite, by rw [isYearly, same, yearlyYield], fun _ => same ▸ none⟩

/-- There is no yield at an infinite rate: it would take no time. -/
theorem simpleYield_infinite (negative : Bool) :
    Gives (fun _ => False) (simpleYield context humidity (.infinite negative)) := by
  apply (add_calculates precise isFinite_one humidityFinite).gives.bind
  rintro total ⟨totalFinite, -⟩
  have instant : Gives DenotesZero (context.div total (.infinite negative)) := by
    obtain ⟨_, _, _, rfl⟩ := exists_finite_of_isFinite totalFinite
    exact ⟨rfl, toRat_eq_zero_iff.mpr rfl⟩
  apply instant.bind
  intro seasons noSeasons
  have years := div_calculates precise noSeasons.finite (isFinite_ofInt yearOfSeasons)
    (by rw [toRat_ofInt]; decide)
  apply (years.gives_zero (by rw [noSeasons.value, zero_div])).bind
  intro years noYears
  exact div_by_zero humidityFinite noYears.finite noYears.value

end Yields

/-! ## Estimates -/

/-- What the record of an estimate is made of, in the context of the estimator. -/
structure Estimated (estimator : FertilizerEstimator) (context : Context) (given : Written)
    (supply : Option Int) (record : FertilizerRecord) : Prop where
  isContext : YieldFailure.context estimator.precision = .ok context
  humidity : estimator.humidityFraction = .ok record.humidity
  supply : estimator.reader.supplyOr supply = .ok record.outstandingSupply
  rate : given.read = .ok record.rate
  ratePerUnit :
    context.divOrZero record.rate (.ofInt record.outstandingSupply) = .ok record.ratePerUnit
  simpleYield :
    FertilizerEstimator.simpleYield context record.humidity record.ratePerUnit =
      .ok record.simpleYield

variable {estimator : FertilizerEstimator} {period window createdAt : Int} {given : Written}
  {supply : Option Int} {record : FertilizerRecord}

theorem exists_estimated
    (estimated : estimator.estimate period window given supply createdAt = .ok record) :
    ∃ context, Estimated estimator context given supply record := by
  have steps : (do
      let humidity ← estimator.humidityFraction
      let outstandingSupply ← estimator.reader.supplyOr supply
      let context ← YieldFailure.context estimator.precision
      let rate ← given.read
      let ratePerUnit ← context.divOrZero rate (.ofInt outstandingSupply)
      let simpleYield ← FertilizerEstimator.simpleYield context humidity ratePerUnit
      return {
        period, window, humidity, outstandingSupply, rate, ratePerUnit, simpleYield, createdAt }) =
      (.ok record : Except YieldFailure FertilizerRecord) := by
    rw [← estimated]
    cases supply <;> rfl
  simp only [bind_eq_ok_iff, liftM_eq_ok_iff] at steps
  obtain ⟨humidity, isHumidity, outstandingSupply, isSupply, context, isContext, rate, isRate,
    ratePerUnit, isRatePerUnit, simpleYield, isYield, made⟩ := steps
  obtain rfl := Except.ok.inj made
  exact ⟨context, isContext, isHumidity, isSupply, isRate, isRatePerUnit, isYield⟩

namespace Estimated

variable {context : Context} (steps : Estimated estimator context given supply record)

include steps

theorem precise : 0 < context.precision :=
  gives_iff.mp (YieldFailure.context_gives _) context steps.isContext

theorem humidity_isFinite : record.humidity.isFinite := by
  obtain ⟨raw, -, divided⟩ := bind_eq_ok_iff.mp steps.humidity
  obtain ⟨_, isContext, divided⟩ := bind_eq_ok_iff.mp divided
  obtain rfl := Except.ok.inj (steps.isContext.symm.trans isContext)
  exact gives_iff.mp (div_gives steps.precise (isFinite_ofInt _) (isFinite_ofInt _)) _
    (liftM_eq_ok_iff.mp divided)

/-- Without supply there is no rate per unit. -/
theorem ratePerUnit_of_no_supply (none : record.outstandingSupply = 0) :
    record.ratePerUnit = zero := by
  have guarded : context.divOrZero record.rate (.ofInt record.outstandingSupply) = .ok zero :=
    divOr_by_zero record.rate zero (isFinite_ofInt _) (by rw [none, toRat_ofInt, Int.cast_zero])
  exact Except.ok.inj (steps.ratePerUnit.symm.trans guarded)

theorem ratePerUnit_value (finite : record.rate.isFinite) :
    record.ratePerUnit.isFinite ∧
      record.ratePerUnit.toRat =
        context.rounded (record.rate.toRat / record.outstandingSupply) := by
  have value := gives_iff.mp (divOrZero_calculates steps.precise finite
    (isFinite_ofInt record.outstandingSupply)) _ steps.ratePerUnit
  rwa [toRat_ofInt] at value

/-- A rate from zero on is finite if it is divided among any units: an infinite one takes no
time to earn the premium. -/
theorem rate_isFinite (nonneg : le? zero record.rate = .ok true)
    (supplied : record.outstandingSupply ≠ 0) : record.rate.isFinite := by
  cases isRate : record.rate with
  | finite negative coefficient exponent => rfl
  | nan negative signaling payload =>
      rw [isRate] at nonneg
      contradiction
  | infinite negative =>
      have nonzero : (ofInt record.outstandingSupply).toRat ≠ 0 := by
        rw [toRat_ofInt]
        exact_mod_cast supplied
      have divided := steps.ratePerUnit
      rw [divOrZero, divOr_by_nonzero _ _ (isFinite_ofInt _) nonzero, isRate] at divided
      obtain ⟨sign, isInfinite⟩ : ∃ sign, record.ratePerUnit = .infinite sign :=
        ⟨_, (Except.ok.inj divided).symm⟩
      have yields := steps.simpleYield
      rw [isInfinite] at yields
      exact (gives_iff.mp (simpleYield_infinite steps.precise steps.humidity_isFinite sign) _
        yields).elim

/-- Where nothing is minted or nothing supplied, nothing is yielded. -/
theorem simpleYield_eq_zero
    (none : isZero? record.rate = .ok true ∨ record.outstandingSupply = 0) :
    record.simpleYield = zero := by
  have noRate : isZero? record.ratePerUnit = .ok true := by
    rcases none with noMints | noSupply
    · have isZero := isZero?_eq_true_iff.mp noMints
      obtain ⟨finite, value⟩ := steps.ratePerUnit_value isZero.finite
      exact isZero?_eq_true_iff.mpr ⟨finite, by rw [value, isZero.value, zero_div, rounded_zero]⟩
    · rw [steps.ratePerUnit_of_no_supply noSupply]
      rfl
  exact Except.ok.inj (steps.simpleYield.symm.trans (simpleYield_of_zero noRate))

theorem simpleYield_value (finite : record.ratePerUnit.isFinite) :
    record.simpleYield.isFinite = true ∧
      record.simpleYield.toRat =
        yearlyYield context record.humidity.toRat record.ratePerUnit.toRat ∧
      (record.ratePerUnit.toRat ≠ 0 →
        yearsToEarn context record.humidity.toRat record.ratePerUnit.toRat ≠ 0) :=
  gives_iff.mp (simpleYield_gives steps.precise steps.humidity_isFinite finite) _
    steps.simpleYield

/-- Where humidity, rate and supply are not negative, neither is the yield. -/
theorem simpleYield_nonneg (humid : le? zero record.humidity = .ok true)
    (nonneg : le? zero record.rate = .ok true) (supplied : 0 ≤ record.outstandingSupply) :
    le? zero record.simpleYield = .ok true := by
  rcases supplied.eq_or_lt with none | positive
  · rw [steps.simpleYield_eq_zero (.inr none.symm)]
    rfl
  · have rateFinite := steps.rate_isFinite nonneg positive.ne'
    have rate := (isAmount_iff.mpr ⟨rateFinite, nonneg⟩).nonneg
    have humidity := (isAmount_iff.mpr ⟨steps.humidity_isFinite, humid⟩).nonneg
    obtain ⟨finite, value⟩ := steps.ratePerUnit_value rateFinite
    obtain ⟨yieldFinite, yieldValue, -⟩ := steps.simpleYield_value finite
    have perUnit : 0 ≤ record.ratePerUnit.toRat :=
      value ▸ rounded_nonneg (div_nonneg rate (by exact_mod_cast positive.le))
    exact (isAmount_iff.mp ⟨yieldFinite, yieldValue ▸ yearlyYield_nonneg humidity perUnit⟩).2

/-- At no less a rate and no more supply there is no less per unit, and no less is yielded. -/
theorem le_of_rate_le {otherGiven : Written} {otherSupply : Option Int}
    {other : FertilizerRecord}
    (otherSteps : Estimated estimator context otherGiven otherSupply other)
    (humid : le? zero record.humidity = .ok true) (nonneg : le? zero record.rate = .ok true)
    (rates : le? record.rate other.rate = .ok true) (positive : 0 < other.outstandingSupply)
    (supplies : other.outstandingSupply ≤ record.outstandingSupply) :
    le? record.ratePerUnit other.ratePerUnit = .ok true ∧
      le? record.simpleYield other.simpleYield = .ok true := by
  have rateFinite := steps.rate_isFinite nonneg (positive.trans_le supplies).ne'
  have amount := isAmount_iff.mpr ⟨rateFinite, nonneg⟩
  have otherFinite := otherSteps.rate_isFinite (amount.le?_of_le? rates) positive.ne'
  obtain ⟨finite, value⟩ := steps.ratePerUnit_value rateFinite
  obtain ⟨otherUnitFinite, otherValue⟩ := otherSteps.ratePerUnit_value otherFinite
  have quotients : record.rate.toRat / record.outstandingSupply ≤
      other.rate.toRat / other.outstandingSupply := by
    rw [le?_eq rateFinite otherFinite] at rates
    exact div_le_div₀ (amount.nonneg.trans (of_decide_eq_true (Except.ok.inj rates)))
      (of_decide_eq_true (Except.ok.inj rates)) (by exact_mod_cast positive)
      (by exact_mod_cast supplies)
  have perUnit : 0 ≤ record.ratePerUnit.toRat :=
    value ▸ rounded_nonneg (div_nonneg amount.nonneg
      (by exact_mod_cast (positive.trans_le supplies).le))
  have perUnitLe : record.ratePerUnit.toRat ≤ other.ratePerUnit.toRat := by
    rw [value, otherValue]
    exact rounded_mono steps.precise quotients
  -- both estimates read the same humidity
  have sameHumidity : other.humidity = record.humidity :=
    Except.ok.inj (otherSteps.humidity.symm.trans steps.humidity)
  obtain ⟨yieldFinite, yieldValue, -⟩ := steps.simpleYield_value finite
  obtain ⟨otherYieldFinite, otherYieldValue, takesTime⟩ :=
    otherSteps.simpleYield_value otherUnitFinite
  rw [sameHumidity] at otherYieldValue takesTime
  have humidity := (isAmount_iff.mpr ⟨steps.humidity_isFinite, humid⟩).nonneg
  have yieldLe : record.simpleYield.toRat ≤ other.simpleYield.toRat := by
    rw [yieldValue, otherYieldValue]
    exact yearlyYield_mono humidity perUnit steps.precise perUnitLe takesTime
  rw [le?_eq finite otherUnitFinite, le?_eq yieldFinite otherYieldFinite,
    decide_eq_true perUnitLe, decide_eq_true yieldLe]
  exact ⟨rfl, rfl⟩

end Estimated

/-- Two estimates of one estimator, with whatever precision and reader, of which the humidity is
not negative.  If the second one is of no less a rate and of no more supply, it has no less a
rate per unit and yields no less; so the yield is monotone in the rate at a fixed supply and
antitone in the supply at a fixed rate.  A yield is never negative, and exactly zero where the
rate or the supply is zero. -/
theorem estimate_monotone {otherPeriod otherWindow otherCreatedAt : Int} {otherGiven : Written}
    {otherSupply : Option Int} {other : FertilizerRecord}
    (estimated : estimator.estimate period window given supply createdAt = .ok record)
    (otherEstimated :
      estimator.estimate otherPeriod otherWindow otherGiven otherSupply otherCreatedAt =
        .ok other) :
    (given.read = .ok record.rate ∧
      estimator.reader.supplyOr supply = .ok record.outstandingSupply) ∧
    (isZero? record.rate = .ok true ∨ record.outstandingSupply = 0 →
      record.simpleYield = zero) ∧
    (le? zero record.humidity = .ok true → le? zero record.rate = .ok true →
      (0 ≤ record.outstandingSupply → le? zero record.simpleYield = .ok true) ∧
      (le? record.rate other.rate = .ok true → 0 < other.outstandingSupply →
        other.outstandingSupply ≤ record.outstandingSupply →
          le? record.ratePerUnit other.ratePerUnit = .ok true ∧
            le? record.simpleYield other.simpleYield = .ok true)) := by
  obtain ⟨context, steps⟩ := exists_estimated estimated
  obtain ⟨otherContext, otherSteps⟩ := exists_estimated otherEstimated
  obtain rfl : context = otherContext :=
    Except.ok.inj (steps.isContext.symm.trans otherSteps.isContext)
  refine ⟨⟨steps.rate, steps.supply⟩, steps.simpleYield_eq_zero, fun humid nonneg => ⟨?_, ?_⟩⟩
  · exact steps.simpleYield_nonneg humid nonneg
  · exact steps.le_of_rate_le otherSteps humid nonneg

/-- An estimator of three digits, with a supply but no humidity to read. -/
def threeDigits : FertilizerEstimator where
  reader := .fixed none 1000
  defaultHumidity := standardHumidity
  humidityPrecision := standardPrecision
  precision := 3

/-- A rate whose fourth digit is lost, at the supply that is read, and a greater rate for fewer
units. -/
theorem threeDigits_estimate_monotone :
    ∃ record other, threeDigits.estimate 7000 24 (.text "1.005") none 0 = .ok record ∧
      threeDigits.estimate 7000 168 (.text "2") (some 999) 0 = .ok other ∧
      record.ratePerUnit = .finite false 100 (-5) ∧ other.ratePerUnit = .finite false 200 (-5) ∧
      le? zero record.simpleYield = .ok true ∧
      le? record.simpleYield other.simpleYield = .ok true := by
  have isRecord : threeDigits.estimate 7000 24 (.text "1.005") none 0 = .ok {
      period := 7000
      window := 24
      humidity := .finite false 5 (-1)
      outstandingSupply := 1000
      rate := .finite false 1005 (-3)
      ratePerUnit := .finite false 100 (-5)
      simpleYield := .finite false 292 (-2)
      createdAt := 0 } := by decide +kernel
  have isOther : threeDigits.estimate 7000 168 (.text "2") (some 999) 0 = .ok {
      period := 7000
      window := 168
      humidity := .finite false 5 (-1)
      outstandingSupply := 999
      rate := .finite false 2 0
      ratePerUnit := .finite false 200 (-5)
      simpleYield := .finite false 584 (-2)
      createdAt := 0 } := by decide +kernel
  obtain ⟨-, -, ordered⟩ := estimate_monotone isRecord isOther
  obtain ⟨nonneg, monotone⟩ := ordered (by decide +kernel) (by decide +kernel)
  exact ⟨_, _, isRecord, isOther, rfl, rfl, nonneg (by decide),
    (monotone (by decide +kernel) (by decide) (by decide)).2⟩

end FertilizerEstimator

end DepositYield
