import DepositYield.Proofs.Decimal.Monotone
import DepositYield.Proofs.Mint.Smoothing

/-!
# Smoothed rates stay within the samples

A step of the average subtracts, multiplies and adds, and each of the three rounds.  The
average nevertheless leaves neither zero nor the greatest sample.  Downwards this is the
monotony of rounding alone.  Upwards the rounded difference may exceed the exact one; but
then the exact one has all its digits, and a factor of at most seven tenths takes more
from it than rounding added.  The one factor above that belongs to a single sample, where
the difference is exact.
-/

namespace DepositYield

open Decimal

/-! ## Numbers that a context holds -/

namespace Decimal.Context

variable {context : Context} {number left right factor : ℚ}

/-- The number has no more digits than the precision, and none below the least
exponent. -/
def Representable (context : Context) (number : ℚ) : Prop :=
  ∃ digits place : ℤ, number = digits * 10 ^ place ∧ |digits| < 10 ^ context.precision ∧
    context.tiny ≤ place

theorem representable_zero : context.Representable 0 :=
  ⟨0, context.tiny, by simp, by simp, le_rfl⟩

theorem representable_rounded (precise : 0 < context.precision) (number : ℚ) :
    context.Representable (context.rounded number) :=
  exists_digits_rounded precise number

theorem Representable.rounded_eq (held : context.Representable number) :
    context.rounded number = number := by
  obtain ⟨digits, place, value, few, above⟩ := held
  exact rounded_of_digits value few above

theorem Representable.rounded_le (held : context.Representable right)
    (precise : 0 < context.precision) (le : left ≤ right) : context.rounded left ≤ right :=
  (rounded_mono precise le).trans_eq held.rounded_eq

/-- A difference without digits that could be dropped is exact. -/
theorem rounded_sub_of_lastPlace (leftHeld : context.Representable left)
    (rightHeld : context.Representable right)
    (last : context.lastPlace (left - right) = context.tiny) :
    context.rounded (left - right) = left - right := by
  obtain ⟨leftDigits, leftPlace, rfl, -, leftAbove⟩ := leftHeld
  obtain ⟨rightDigits, rightPlace, rfl, -, rightAbove⟩ := rightHeld
  have multiple : (leftDigits : ℚ) * 10 ^ leftPlace - rightDigits * 10 ^ rightPlace =
      ((leftDigits * 10 ^ (leftPlace - context.tiny).toNat -
        rightDigits * 10 ^ (rightPlace - context.tiny).toNat : ℤ) : ℚ) * 10 ^ context.tiny := by
    push_cast
    rw [sub_mul, mul_assoc, mul_assoc, pow_toNat_mul_zpow leftAbove, pow_toNat_mul_zpow rightAbove]
  exact rounded_eq_self multiple last.le

/-- Seven tenths of a rounded number are rounded to no more than the number, if it has all
its digits. -/
theorem rounded_mul_le_of_lastPlace (precise : 2 ≤ context.precision) (positive : 0 < number)
    (full : context.tiny < context.lastPlace number) (nonneg : 0 ≤ factor)
    (damped : factor ≤ 7 / 10) : context.rounded (context.rounded number * factor) ≤ number := by
  have unit : (0 : ℚ) < 10 ^ context.lastPlace number := by positivity
  have most := (abs_lt.mp (abs_div_pow_lastPlace_lt context number)).2
  have many : (10 : ℚ) ≤ number / 10 ^ context.lastPlace number := by
    have place : (1 : ℤ) + context.lastPlace number ≤ Int.log 10 number := by
      unfold lastPlace at full ⊢
      rw [abs_of_pos positive] at full ⊢
      omega
    rw [le_div_iff₀ unit]
    calc
      (10 : ℚ) * 10 ^ context.lastPlace number = 10 ^ (1 + context.lastPlace number) := by
        rw [zpow_one_add₀ (by norm_num)]
      _ ≤ 10 ^ Int.log 10 number := zpow_le_zpow_right₀ (by norm_num) place
      _ ≤ number := Int.zpow_log_le_self (b := 10) (by decide) positive
  obtain ⟨digits, isFloor⟩ : ∃ digits, digits = ⌊number / 10 ^ context.lastPlace number⌋ :=
    ⟨_, rfl⟩
  have below : (digits : ℚ) ≤ number / 10 ^ context.lastPlace number :=
    isFloor ▸ Int.floor_le _
  have ten : (10 : ℚ) ≤ digits := by
    exact_mod_cast isFloor ▸ Int.le_floor.mpr (by exact_mod_cast many)
  -- the digits of the number itself are a bound that rounding respects
  have held : context.Representable (digits * 10 ^ context.lastPlace number) := by
    refine ⟨digits, _, rfl, ?_, full.le⟩
    have cast : (digits : ℚ) < 10 ^ context.precision := below.trans_lt most
    rw [abs_of_nonneg (by exact_mod_cast (show (0 : ℚ) ≤ digits by linarith))]
    exact_mod_cast cast
  have above : context.rounded number ≤ (digits + 1 : ℚ) * 10 ^ context.lastPlace number := by
    have whole : nearestWhole (number / 10 ^ context.lastPlace number) ≤ digits + 1 := by
      apply nearestWhole_le
      rw [isFloor]
      push_cast
      exact (Int.lt_floor_add_one _).le
    have cast : (nearestWhole (number / 10 ^ context.lastPlace number) : ℚ) ≤ digits + 1 := by
      exact_mod_cast whole
    unfold rounded
    gcongr
  calc
    context.rounded (context.rounded number * factor) ≤
        digits * 10 ^ context.lastPlace number := by
      apply held.rounded_le (by omega)
      calc
        context.rounded number * factor ≤
            (digits + 1) * 10 ^ context.lastPlace number * (7 / 10) := by gcongr
        _ = (digits + 1) * (7 / 10) * 10 ^ context.lastPlace number := by ring
        _ ≤ digits * 10 ^ context.lastPlace number := by
          gcongr
          linarith
    _ ≤ number := (le_div_iff₀ unit).mp below

/-- What a factor leaves of a rounded difference is rounded to no more than the exact
difference, if the factor is at most seven tenths or nothing is subtracted. -/
theorem rounded_mul_sub_le (precise : 2 ≤ context.precision)
    (leftHeld : context.Representable left) (rightHeld : context.Representable right)
    (le : right ≤ left) (nonneg : 0 ≤ factor) (atMost : factor ≤ 1)
    (damped : factor ≤ 7 / 10 ∨ right = 0) :
    context.rounded (context.rounded (left - right) * factor) ≤ left - right := by
  have precise' : 0 < context.precision := by omega
  have ofExact : context.rounded (left - right) = left - right →
      context.rounded (context.rounded (left - right) * factor) ≤ left - right := by
    intro exact
    have held : context.Representable (left - right) :=
      exact ▸ representable_rounded precise' (left - right)
    refine held.rounded_le precise' ?_
    rw [exact]
    exact mul_le_of_le_one_right (sub_nonneg.mpr le) atMost
  rcases damped with damped | rfl
  · obtain equal | less := le.eq_or_lt
    · exact ofExact (by rw [equal, sub_self, rounded_zero])
    obtain same | full := (le_max_right _ _ :
        context.tiny ≤ context.lastPlace (left - right)).eq_or_lt
    · exact ofExact (rounded_sub_of_lastPlace leftHeld rightHeld same.symm)
    · exact rounded_mul_le_of_lastPlace precise (sub_pos.mpr less) full nonneg damped
  · exact ofExact (by rw [sub_zero, leftHeld.rounded_eq])

/-- A rounded difference of numbers within a range stays within it in magnitude. -/
theorem abs_rounded_sub_le (precise : 0 < context.precision)
    (leftHeld : context.Representable left) (rightHeld : context.Representable right)
    (leftNonneg : 0 ≤ left) (rightNonneg : 0 ≤ right) :
    |context.rounded (left - right)| ≤ max left right := by
  rw [abs_le]
  constructor
  · rw [neg_le, ← rounded_neg, neg_sub]
    exact (rightHeld.rounded_le precise (by linarith)).trans (le_max_right _ _)
  · exact (leftHeld.rounded_le precise (by linarith)).trans (le_max_left _ _)

/-- What a factor of at most one leaves of a rounded number is rounded to no more in
magnitude. -/
theorem abs_rounded_mul_le (precise : 0 < context.precision) (held : context.Representable number)
    (nonneg : 0 ≤ factor) (atMost : factor ≤ 1) :
    |context.rounded (number * factor)| ≤ |number| := by
  have within : |number * factor| ≤ |number| := by
    rw [abs_mul, abs_of_nonneg nonneg]
    exact mul_le_of_le_one_right (abs_nonneg _) atMost
  have magnitude : context.Representable |number| := by
    obtain ⟨digits, place, rfl, few, above⟩ := held
    refine ⟨|digits|, place, ?_, by rwa [abs_abs], above⟩
    rw [abs_mul, abs_of_pos (show (0 : ℚ) < 10 ^ place by positivity), Int.cast_abs]
  rw [abs_le] at within ⊢
  constructor
  · rw [neg_le, ← rounded_neg]
    exact magnitude.rounded_le precise (by linarith)
  · exact magnitude.rounded_le precise within.2

/-- A number moved towards a sample by a factor, with every operation rounded. -/
def moved (context : Context) (factor sample average : ℚ) : ℚ :=
  context.rounded (context.rounded (context.rounded (sample - average) * factor) + average)

/-- A moved number passes neither zero nor the greater of the two numbers. -/
theorem moved_within {sample average : ℚ} (precise : 2 ≤ context.precision)
    (sampleHeld : context.Representable sample) (averageHeld : context.Representable average)
    (sampleNonneg : 0 ≤ sample) (averageNonneg : 0 ≤ average) (nonneg : 0 ≤ factor)
    (atMost : factor ≤ 1) (damped : factor ≤ 7 / 10 ∨ average = 0) :
    0 ≤ context.moved factor sample average ∧
      context.moved factor sample average ≤ max sample average := by
  have precise' : 0 < context.precision := by omega
  unfold moved
  obtain upwards | downwards := le_total average sample
  · have change := rounded_mul_sub_le precise sampleHeld averageHeld upwards nonneg atMost damped
    have positive : 0 ≤ context.rounded (context.rounded (sample - average) * factor) :=
      rounded_nonneg (mul_nonneg (rounded_nonneg (sub_nonneg.mpr upwards)) nonneg)
    exact ⟨rounded_nonneg (add_nonneg positive averageNonneg),
      (sampleHeld.rounded_le precise' (by linarith)).trans (le_max_left _ _)⟩
  · have difference : context.rounded (sample - average) =
        -context.rounded (average - sample) := by rw [← rounded_neg, neg_sub]
    have atMostAverage : context.rounded (average - sample) ≤ average :=
      averageHeld.rounded_le precise' (by linarith)
    have change : context.rounded (context.rounded (average - sample) * factor) ≤ average :=
      averageHeld.rounded_le precise' ((mul_le_of_le_one_right
        (rounded_nonneg (sub_nonneg.mpr downwards)) atMost).trans atMostAverage)
    have positive : 0 ≤ context.rounded (context.rounded (average - sample) * factor) :=
      rounded_nonneg (mul_nonneg (rounded_nonneg (sub_nonneg.mpr downwards)) nonneg)
    rw [difference, neg_mul, rounded_neg]
    exact ⟨rounded_nonneg (by linarith),
      (averageHeld.rounded_le precise' (by linarith)).trans (le_max_right _ _)⟩

end Decimal.Context

/-! ## Averages within a range -/

/-- A finite decimal that a result of the context may be: it has no more digits than the
precision, and its exponents are in range. -/
structure Decimal.IsHeld (context : Context) (decimal : Decimal) : Prop where
  finite : decimal.isFinite
  representable : context.Representable decimal.toRat
  small : |decimal.toRat| < 10 ^ (maxExponent + 1)

/-- A coefficient of few digits is held with every exponent within the range. -/
theorem Decimal.isHeld_finite {context : Context} {coefficient : Nat} {exponent : Int}
    (negative : Bool) (few : coefficient < 10 ^ context.precision)
    (above : context.tiny ≤ exponent) (below : exponent + digitCount coefficient ≤ maxExponent + 1) :
    IsHeld context (.finite negative coefficient exponent) where
  finite := rfl
  representable := by
    have cast : ((coefficient : ℕ) : ℤ) < 10 ^ context.precision := by exact_mod_cast few
    refine ⟨if negative then -coefficient else coefficient, exponent, ?_, ?_, above⟩
    · cases negative <;> simp [sign]
    · split
      · rwa [abs_neg, abs_of_nonneg (Int.natCast_nonneg _)]
      · rwa [abs_of_nonneg (Int.natCast_nonneg _)]
  small := by
    have nonneg : (0 : ℚ) ≤ coefficient * 10 ^ exponent := by positivity
    rw [toRat_finite, abs_mul, abs_sign, one_mul, abs_of_nonneg nonneg]
    exact (mul_pow_lt coefficient exponent).trans_le (zpow_le_zpow_right₀ (by norm_num) below)

/-- A finite decimal that the context holds, from zero up to a number. -/
structure Decimal.HeldUpTo (context : Context) (greatest : ℚ) (decimal : Decimal) : Prop where
  finite : decimal.isFinite
  representable : context.Representable decimal.toRat
  nonneg : 0 ≤ decimal.toRat
  le : decimal.toRat ≤ greatest

section Averages

variable {context : Context} {history : MintHistory} {factor sample average : Decimal}
  {greatest : ℚ}

theorem Decimal.heldUpTo_zero (nonneg : 0 ≤ greatest) : HeldUpTo context greatest zero where
  finite := rfl
  representable := toRat_zero ▸ Context.representable_zero
  nonneg := toRat_zero.ge
  le := toRat_zero.trans_le nonneg

/-- A finite factor from zero to one. -/
structure Decimal.IsDamping (factor : Decimal) : Prop where
  finite : factor.isFinite
  nonneg : 0 ≤ factor.toRat
  le : factor.toRat ≤ 1

variable (precise : 2 ≤ context.precision) (within : greatest < 10 ^ (maxExponent + 1))
  (damping : factor.IsDamping)

include precise within damping

/-- A step of an average does not overflow and stays within the range. -/
theorem smoothingStep_within (sampleHeld : sample.HeldUpTo context greatest)
    (averageHeld : average.HeldUpTo context greatest)
    (damped : factor.toRat ≤ 7 / 10 ∨ average.toRat = 0) :
    ∃ next, smoothingStep context factor sample average = .ok next ∧
      next.HeldUpTo context greatest := by
  have precise' : 0 < context.precision := by omega
  have upper : max sample.toRat average.toRat ≤ greatest := max_le sampleHeld.le averageHeld.le
  have differenceSmall := (Context.abs_rounded_sub_le precise' sampleHeld.representable
    averageHeld.representable sampleHeld.nonneg averageHeld.nonneg).trans upper
  obtain ⟨difference, subtracted, differenceFinite, isDifference⟩ :=
    (Context.sub_calculates precise' sampleHeld.finite averageHeld.finite).exists_ok
      (differenceSmall.trans_lt within)
  have changeSmall := (Context.abs_rounded_mul_le precise'
    (Context.representable_rounded precise' (sample.toRat - average.toRat)) damping.nonneg
    damping.le).trans differenceSmall
  rw [← isDifference] at changeSmall
  obtain ⟨change, multiplied, changeFinite, isChange⟩ :=
    (Context.mul_calculates precise' differenceFinite damping.finite).exists_ok
      (changeSmall.trans_lt within)
  obtain ⟨nonneg, le⟩ := Context.moved_within precise sampleHeld.representable
    averageHeld.representable sampleHeld.nonneg averageHeld.nonneg damping.nonneg damping.le damped
  have isMoved : context.rounded (change.toRat + average.toRat) =
      context.moved factor.toRat sample.toRat average.toRat := by
    rw [isChange, isDifference]
    rfl
  obtain ⟨next, added, nextFinite, isNext⟩ :=
    (Context.add_calculates precise' changeFinite averageHeld.finite).exists_ok
      (by rw [isMoved, abs_of_nonneg nonneg]; exact (le.trans upper).trans_lt within)
  refine ⟨next, ?_, nextFinite, ?_, ?_, ?_⟩
  · unfold smoothingStep
    rw [subtracted]
    change (do context.add (← context.mul difference factor) average) = _
    rw [multiplied]
    exact added
  · rw [isNext]
    exact Context.representable_rounded precise' _
  · rw [isNext, isMoved]
    exact nonneg
  · rw [isNext, isMoved]
    exact le.trans upper

/-- An average over any number of periods stays within the range. -/
theorem smoothFrom_within (damped : factor.toRat ≤ 7 / 10) (count : Nat) (first : Int)
    (held : ∀ period, first ≤ period → period < first + count →
      (history.minted period).HeldUpTo context greatest)
    (averageHeld : average.HeldUpTo context greatest) :
    ∃ final, smoothFrom context history factor first count average = .ok final ∧
      final.HeldUpTo context greatest := by
  induction count generalizing first average with
  | zero => exact ⟨average, rfl, averageHeld⟩
  | succ count ih =>
      obtain ⟨next, stepped, nextHeld⟩ := smoothingStep_within precise within damping
        (held first le_rfl (by omega)) averageHeld (.inl damped)
      obtain ⟨final, continued, finalHeld⟩ := ih (first + 1)
        (fun period lower upper => held period (by omega) (by omega)) nextHeld
      refine ⟨final, ?_, finalHeld⟩
      rw [smoothFrom, stepped]
      exact continued

end Averages

/-! ## Smoothing factors -/

section Factors

variable {context : Context} {samples : Int} {factor : Decimal}

/-- The smoothing factor of one sample is at most one, that of several at most seven
tenths. -/
theorem smoothingFactor_damps (precise : 0 < context.precision) (some : 1 ≤ samples)
    (calculated : smoothingFactor context samples = .ok factor) :
    factor.IsDamping ∧ (factor.toRat ≤ 7 / 10 ∨ samples = 1) := by
  have gives := (smoothingFactor_calculates precise (by omega : 0 ≤ samples)).gives
  rw [calculated] at gives
  obtain ⟨finite, value⟩ := gives
  have positive : (2 : ℚ) ≤ samples + 1 := by exact_mod_cast (show (2 : ℤ) ≤ samples + 1 by omega)
  have held : ∀ digits place : ℤ, |digits| < 10 → -999998 ≤ place →
      context.Representable (digits * 10 ^ place) := by
    intro digits place few above
    exact ⟨digits, place, rfl, few.trans_le (le_self_pow₀ (by norm_num) precise.ne'),
      Context.tiny_le above⟩
  refine ⟨⟨finite, ?_, ?_⟩, ?_⟩
  · rw [value]
    exact Context.rounded_nonneg (by positivity)
  · have atMost : (2 : ℚ) / (samples + 1) ≤ (1 : ℤ) * 10 ^ (0 : ℤ) := by
      rw [div_le_iff₀ (by linarith)]
      norm_num
      linarith
    rw [value]
    simpa using (held 1 0 (by norm_num) (by norm_num)).rounded_le precise atMost
  · obtain rfl | several := some.eq_or_lt
    · exact .inr rfl
    · have three : (3 : ℚ) ≤ samples + 1 := by
        exact_mod_cast (show (3 : ℤ) ≤ samples + 1 by omega)
      have atMost : (2 : ℚ) / (samples + 1) ≤ (7 : ℤ) * 10 ^ (-1 : ℤ) := by
        rw [div_le_iff₀ (by linarith)]
        norm_num
        linarith
      have rounded := (held 7 (-1) (by norm_num) (by norm_num)).rounded_le precise
        atMost
      rw [← value] at rounded
      exact .inl (rounded.trans_eq (by norm_num))

end Factors

/-! ## Smoothed rates -/

namespace RateEstimator

/-- The values that a rate is smoothed from: those of as many periods, up to the given one,
as there are samples. -/
def sampled (estimator : RateEstimator) (period window : Int) : List Decimal :=
  let samples := sampleCount period window estimator.origin
  (List.range samples.toNat).map fun offset : Nat =>
    estimator.history.minted (period - samples + 1 + offset)

theorem mem_sampled {estimator : RateEstimator} {period window earlier : Int}
    (lower : period - sampleCount period window estimator.origin < earlier)
    (upper : earlier ≤ period) :
    estimator.history.minted earlier ∈ estimator.sampled period window := by
  refine List.mem_map.mpr
    ⟨(earlier - (period - sampleCount period window estimator.origin + 1)).toNat, ?_, ?_⟩
  · rw [List.mem_range]
    omega
  · congr 1
    omega

/-- If the samples are held, from zero up to a number, so is the smoothed rate. -/
theorem rate_within (estimator : RateEstimator) (period window : Int) {greatest : ℚ}
    (precise : 2 ≤ estimator.context.precision) (nonneg : 0 ≤ greatest)
    (within : greatest < 10 ^ (maxExponent + 1))
    (held : ∀ sample ∈ estimator.sampled period window,
      sample.HeldUpTo estimator.context greatest) :
    ∃ factor rate, estimator.factorAndRate period window = .ok (factor, rate) ∧
      rate.HeldUpTo estimator.context greatest := by
  have precise' : 0 < estimator.context.precision := by omega
  have natural := sampleCount_nonneg period window estimator.origin
  obtain ⟨factor, calculated⟩ := exists_smoothingFactor precise' natural
  have start : zero.HeldUpTo estimator.context greatest := heldUpTo_zero nonneg
  have heldAt : ∀ earlier, period - sampleCount period window estimator.origin < earlier →
      earlier ≤ period →
        (estimator.history.minted earlier).HeldUpTo estimator.context greatest :=
    fun earlier lower upper => held _ (mem_sampled lower upper)
  rw [factorAndRate_eq]
  dsimp only
  rw [calculated]
  generalize sampleCount period window estimator.origin = samples at natural calculated heldAt ⊢
  have counted : (period + 1 - (period - samples + 1)).toNat = samples.toNat := by omega
  suffices ∃ rate, smooth estimator.context estimator.history (period - samples + 1) period
      factor = .ok rate ∧ rate.HeldUpTo estimator.context greatest by
    obtain ⟨rate, smoothed, rateHeld⟩ := this
    refine ⟨factor, rate, ?_, rateHeld⟩
    change (do return (factor, ← smooth _ _ _ _ _)) = _
    rw [smoothed]
    rfl
  unfold smooth
  rw [counted]
  obtain none | some := natural.eq_or_lt
  · subst none
    exact ⟨zero, rfl, start⟩
  obtain ⟨damping, damped | single⟩ := smoothingFactor_damps precise' some calculated
  · exact smoothFrom_within precise within damping damped _ _
      (fun earlier lower upper => heldAt earlier (by omega) (by omega)) start
  · -- the factor of a single sample moves all the way, from a zero that is exact
    subst single
    obtain ⟨next, stepped, nextHeld⟩ := smoothingStep_within precise within damping
      (heldAt period (by omega) le_rfl) start (.inr toRat_zero)
    refine ⟨next, ?_, nextHeld⟩
    change smoothFrom _ _ _ (period - 1 + 1) (0 + 1) zero = _
    rw [smoothFrom, sub_add_cancel, stepped]
    rfl

/-- The smoothed rate of a period and window exists and lies between zero and the greatest of
the values that it is smoothed from, zero when there are none.  No value may be negative,
and the context must hold each of them; two digits are enough. -/
theorem rate_between_zero_and_greatest (estimator : RateEstimator) (period window : Int)
    (tokens : List String) (createdAt : Int) (precise : 2 ≤ estimator.context.precision)
    (held : ∀ sample ∈ estimator.sampled period window, sample.IsHeld estimator.context)
    (nonneg : ∀ sample ∈ estimator.sampled period window, le? zero sample = .ok true) :
    ∃ record largest, estimator.compute period window tokens createdAt = .ok record ∧
      greatest (estimator.sampled period window) = .ok largest ∧
      le? zero record.rate = .ok true ∧ le? record.rate largest = .ok true := by
  obtain ⟨largest, isGreatest, largestFinite, above, attained⟩ :=
    exists_greatest fun sample inside => (held sample inside).finite
  have nonnegative : ∀ sample ∈ estimator.sampled period window, 0 ≤ sample.toRat := by
    intro sample inside
    have compared := nonneg sample inside
    rw [le?_eq isFinite_zero (held sample inside).finite, toRat_zero] at compared
    exact of_decide_eq_true (Except.ok.inj compared)
  have bounds : 0 ≤ largest.toRat ∧ largest.toRat < 10 ^ (maxExponent + 1) := by
    rcases attained with ⟨-, rfl⟩ | inside
    · rw [toRat_zero]
      exact ⟨le_rfl, by positivity⟩
    · exact ⟨nonnegative largest inside, (abs_lt.mp (held largest inside).small).2⟩
  obtain ⟨factor, rate, rated, rateHeld⟩ := estimator.rate_within period window precise bounds.1
    bounds.2 fun sample inside =>
      ⟨(held sample inside).finite, (held sample inside).representable,
        nonnegative sample inside, above sample inside⟩
  obtain ⟨record, computed, rfl⟩ : ∃ record,
      estimator.compute period window tokens createdAt = .ok record ∧ record.rate = rate := by
    unfold compute
    rw [rated]
    exact ⟨_, rfl, rfl⟩
  refine ⟨record, largest, computed, isGreatest, ?_, ?_⟩
  · rw [le?_eq isFinite_zero rateHeld.finite, toRat_zero]
    exact congrArg _ (decide_eq_true rateHeld.nonneg)
  · rw [le?_eq rateHeld.finite largestFinite]
    exact congrArg _ (decide_eq_true rateHeld.le)

/-- An estimator of sixteen digits with a large mint right after a tiny one: their difference
has more digits than that. -/
def tinyThenLarge : RateEstimator where
  history := .ofMapping [(1, .finite false 1 (-20)), (2, .finite false 9999999999999999 0)]
  origin := 0
  windows := [2]
  context := { precision := 16 }

/-- The rounded difference of the mints is the large one itself, and still the rate stays
below it. -/
theorem tinyThenLarge_rate_between :
    ∃ record, tinyThenLarge.compute 2 2 [] 0 = .ok record ∧
      le? zero record.rate = .ok true ∧
      le? record.rate (.finite false 9999999999999999 0) = .ok true := by
  have sampled : tinyThenLarge.sampled 2 2 =
      [.finite false 1 (-20), .finite false 9999999999999999 0] := by decide
  obtain ⟨record, largest, computed, isGreatest, nonneg, le⟩ :=
    rate_between_zero_and_greatest tinyThenLarge 2 2 [] 0 (by decide)
      (by
        rw [sampled]
        simp only [List.mem_cons, List.not_mem_nil, or_false, forall_eq_or_imp, forall_eq]
        exact ⟨isHeld_finite _ (by decide) (by decide) (by decide +kernel),
          isHeld_finite _ (by decide) (by decide) (by decide +kernel)⟩)
      (by rw [sampled]; decide)
  have found : greatest (tinyThenLarge.sampled 2 2) = .ok (.finite false 9999999999999999 0) := by
    rw [sampled]
    decide +kernel
  obtain rfl := Except.ok.inj (isGreatest.symm.trans found)
  exact ⟨record, computed, nonneg, le⟩

end RateEstimator

end DepositYield
