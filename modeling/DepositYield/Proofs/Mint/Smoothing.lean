import DepositYield.Mint.Rate
import DepositYield.Proofs.Decimal.Agreement
import DepositYield.Proofs.Decimal.Finite
import DepositYield.Proofs.Decimal.Scaled

/-!
# Smoothing over a window and over the whole history

Once the window is full, the average runs over the window only.  It is the average
over the whole history if nothing was minted before the window: zeros keep an average
of zero at zero, and what follows depends on the number that the average denotes and
not on its exponent.
-/

namespace DepositYield

open Decimal

/-! ## Histories of finite values -/

namespace MintHistory

theorem minted_set (history : MintHistory) (period other : Int) (amount : Decimal) :
    (history.set period amount).minted other =
      if period = other then amount else history.minted other := by
  simp [set, minted, Std.TreeMap.getD_insert]

/-- A history of finite values gives a finite value for every period. -/
theorem isFinite_minted_ofMapping {entries : List (Int × Decimal)}
    (finite : ∀ entry ∈ entries, entry.2.isFinite) (period : Int) :
    ((ofMapping entries).minted period).isFinite := by
  have preserved : ∀ (entries : List (Int × Decimal)) (history : MintHistory),
      (∀ entry ∈ entries, entry.2.isFinite) → (history.minted period).isFinite →
        ((entries.foldl (fun history entry => history.set entry.1 entry.2) history).minted
          period).isFinite := by
    intro entries
    induction entries with
    | nil =>
        intro _ _ start
        exact start
    | cons entry rest ih =>
        intro history finite start
        refine ih _ (fun later member => finite later (.tail _ member)) ?_
        rw [minted_set]
        split
        · exact finite entry (.head _)
        · exact start
  exact preserved entries empty finite rfl

end MintHistory

/-! ## Averages -/

theorem sampleCount_nonneg (period window origin : Int) : 0 ≤ sampleCount period window origin :=
  le_max_left _ _

section Averages

variable {context : Context} {history : MintHistory} {factor average other sample : Decimal}

/-- An average over several periods is continued by one over the periods after them. -/
theorem smoothFrom_add (before count : Nat) (first : Int) (average : Decimal) :
    smoothFrom context history factor first (before + count) average =
      smoothFrom context history factor first before average >>=
        smoothFrom context history factor (first + before) count := by
  induction before generalizing first average with
  | zero =>
      rw [Nat.zero_add, Nat.cast_zero, add_zero]
      rfl
  | succ before ih =>
      rw [Nat.succ_add]
      simp only [smoothFrom, ih, bind_assoc]
      push_cast
      rw [add_assoc, add_comm 1]

variable (precise : 0 < context.precision)

include precise

/-- The smoothing factor is finite, as there is at least no sample. -/
theorem smoothingFactor_calculates {samples : Int} (natural : 0 ≤ samples) :
    context.Calculates (smoothingFactor context samples) (2 / (samples + 1)) := by
  have nonzero : (ofInt (samples + 1)).toRat ≠ 0 := by
    rw [toRat_ofInt]
    exact_mod_cast (show samples + 1 ≠ 0 by omega)
  have quotient := Context.div_calculates precise (isFinite_ofInt 2)
    (isFinite_ofInt (samples + 1)) nonzero
  rw [toRat_ofInt, toRat_ofInt] at quotient
  exact_mod_cast quotient

/-- There is a smoothing factor for any number of samples: it is at most two. -/
theorem exists_smoothingFactor {samples : Int} (natural : 0 ≤ samples) :
    ∃ factor, smoothingFactor context samples = .ok factor := by
  have settles := (smoothingFactor_calculates precise natural).settles_rounded precise
  cases calculated : smoothingFactor context samples with
  | ok factor => exact ⟨factor, rfl⟩
  | error signal =>
      have overflows := settles.stops_of_error calculated
      have positive : (1 : ℚ) ≤ samples + 1 := by exact_mod_cast Int.le_add_of_nonneg_left natural
      have atMost : |(2 : ℚ) / (samples + 1)| ≤ 2 := by
        rw [abs_of_nonneg (by positivity)]
        exact div_le_self zero_le_two positive
      have large : (10 : ℚ) ^ (1 : ℤ) ≤ 10 ^ maxExponent :=
        zpow_le_zpow_right₀ (by norm_num) (by decide)
      exact absurd (large.trans (overflows.2.trans atMost)) (by norm_num)

variable (factorFinite : factor.isFinite)

include factorFinite

/-- A step depends on the average by its value only. -/
theorem smoothingStep_agree (sampleFinite : sample.isFinite) (same : SameValue average other) :
    Agree (smoothingStep context factor sample average)
      (smoothingStep context factor sample other) := by
  unfold smoothingStep
  apply (Agree.sub precise (.refl sampleFinite) same).bind
  intro _ _ differences
  apply (Agree.mul precise differences (.refl factorFinite)).bind
  intro _ _ products
  exact Agree.add precise products same

/-- An average over any number of periods depends on what it continues by value only. -/
theorem smoothFrom_agree (finite : ∀ period, (history.minted period).isFinite) (count : Nat)
    (first : Int) (same : SameValue average other) :
    Agree (smoothFrom context history factor first count average)
      (smoothFrom context history factor first count other) := by
  induction count generalizing first average other with
  | zero => exact .values same
  | succ count ih =>
      apply (smoothingStep_agree precise factorFinite (finite first) same).bind
      intro _ _ next
      exact ih (first + 1) next

/-- A zero keeps an average of zero at zero. -/
theorem smoothingStep_zero (sampleZero : SameValue sample zero)
    (averageZero : SameValue average zero) :
    ∃ next, smoothingStep context factor sample average = .ok next ∧ SameValue next zero := by
  have difference := Context.sub_calculates precise sampleZero.leftFinite averageZero.leftFinite
  rw [sampleZero.value, averageZero.value, toRat_zero, sub_zero] at difference
  obtain ⟨difference, subtracted, differenceZero⟩ := difference.exists_zero
  have product := Context.mul_calculates precise differenceZero.leftFinite factorFinite
  rw [differenceZero.value, toRat_zero, zero_mul] at product
  obtain ⟨product, multiplied, productZero⟩ := product.exists_zero
  have sum := Context.add_calculates precise productZero.leftFinite averageZero.leftFinite
  rw [productZero.value, averageZero.value, toRat_zero, add_zero] at sum
  obtain ⟨next, added, nextZero⟩ := sum.exists_zero
  refine ⟨next, ?_, nextZero⟩
  unfold smoothingStep
  rw [subtracted]
  change (do context.add (← context.mul difference factor) average) = _
  rw [multiplied]
  exact added

/-- Zeros keep an average of zero at zero. -/
theorem smoothFrom_zero (count : Nat) (first : Int)
    (zeros : ∀ period, first ≤ period → period < first + count →
      SameValue (history.minted period) zero)
    (averageZero : SameValue average zero) :
    ∃ next, smoothFrom context history factor first count average = .ok next ∧
      SameValue next zero := by
  induction count generalizing first average with
  | zero => exact ⟨average, rfl, averageZero⟩
  | succ count ih =>
      obtain ⟨middle, stepped, middleZero⟩ := smoothingStep_zero precise factorFinite
        (zeros first le_rfl (by omega)) averageZero
      obtain ⟨next, continued, nextZero⟩ := ih (first + 1)
        (fun period lower upper => zeros period (by omega) (by omega)) middleZero
      refine ⟨next, ?_, nextZero⟩
      rw [smoothFrom, stepped]
      exact continued

end Averages

/-! ## The window and the whole history -/

namespace RateEstimator

/-- The average over a full window is the average over the whole history, if nothing
was minted before the window. -/
theorem smooth_window_agree {context : Context} {history : MintHistory} {factor : Decimal}
    {origin period window : Int} (precise : 0 < context.precision)
    (factorFinite : factor.isFinite) (finite : ∀ period, (history.minted period).isFinite)
    (zeros : ∀ earlier, origin < earlier → earlier ≤ period - window →
      SameValue (history.minted earlier) zero)
    (positive : 1 ≤ window) (full : window ≤ period - origin) :
    Agree (smooth context history (period - window + 1) period factor)
      (smooth context history (origin + 1) period factor) := by
  obtain ⟨before, beforeEq⟩ : ∃ before : ℕ, period - window = origin + before :=
    ⟨(period - window - origin).toNat, by omega⟩
  have count : (period + 1 - (origin + 1)).toNat =
      before + (period + 1 - (period - window + 1)).toNat := by omega
  have first : period - window + 1 = origin + 1 + before := by omega
  -- the whole history is the periods before the window, which end in zero, and the window
  obtain ⟨average, zeroed, averageZero⟩ := smoothFrom_zero precise factorFinite before (origin + 1)
    (fun earlier lower upper => zeros earlier (by omega) (by omega)) (.refl (rfl : zero.isFinite))
  unfold smooth
  rw [count, smoothFrom_add, zeroed, ← first]
  exact smoothFrom_agree precise factorFinite finite _ _ ⟨rfl, averageZero.leftFinite,
    averageZero.value.symm⟩

/-- A rate runs over as many periods as there are samples, whether these are all periods of
the history or those of a full window. -/
theorem factorAndRate_eq (estimator : RateEstimator) (period window : Int) :
    estimator.factorAndRate period window = do
      let samples := sampleCount period window estimator.origin
      let factor ← smoothingFactor estimator.context samples
      let rate ← smooth estimator.context estimator.history (period - samples + 1) period factor
      return (factor, rate) := by
  unfold factorAndRate
  dsimp only
  split
  · next none =>
      simp only [none, sub_zero, smooth, sub_self]
      rfl
  · next some =>
      split
      · next unfilled =>
          have all : period - sampleCount period window estimator.origin = estimator.origin := by
            unfold sampleCount at some unfilled ⊢
            omega
          rw [all]
      · next filled =>
          have full : sampleCount period window estimator.origin = window := by
            unfold sampleCount at some filled ⊢
            omega
          rw [full]

/-- The smoothed rate is the average over the whole history. -/
theorem rate_agree (estimator : RateEstimator) (period window : Int)
    (precise : 0 < estimator.context.precision) (positive : 1 ≤ window)
    (finite : ∀ period, (estimator.history.minted period).isFinite)
    (zeros : ∀ earlier, estimator.origin < earlier → earlier ≤ period - window →
      SameValue (estimator.history.minted earlier) zero) :
    Agree ((estimator.factorAndRate period window).map Prod.snd)
      (estimator.fullHistory period window) := by
  rw [factorAndRate_eq]
  unfold fullHistory
  dsimp only
  rcases (smoothingFactor_calculates precise (sampleCount_nonneg ..)).ok_or_overflow with
    ⟨factor, calculated, factorFinite, -⟩ | ⟨overflowed, -⟩
  · rw [calculated]
    have pass : ∀ calculation : Except Signal Decimal,
        (do return (factor, ← calculation) : Except Signal (Decimal × Decimal)).map Prod.snd =
          calculation := by
      rintro (_ | _) <;> rfl
    refine (pass _).symm ▸ ?_
    change Agree _ (smooth _ _ _ _ _)
    rcases le_or_gt window (period - estimator.origin) with full | unfilled
    · have samples : sampleCount period window estimator.origin = window := by
        unfold sampleCount
        omega
      rw [samples]
      exact smooth_window_agree precise factorFinite finite zeros positive full
    rcases le_or_gt 0 (period - estimator.origin) with started | before
    · have samples : period - sampleCount period window estimator.origin = estimator.origin := by
        unfold sampleCount
        omega
      rw [samples]
      exact smoothFrom_agree precise factorFinite finite _ _ (.refl (rfl : zero.isFinite))
    · have samples : sampleCount period window estimator.origin = 0 := by
        unfold sampleCount
        omega
      have none : (period + 1 - (period - 0 + 1)).toNat = 0 := by omega
      have noneOfAll : (period + 1 - (estimator.origin + 1)).toNat = 0 := by omega
      rw [samples, smooth, smooth, none, noneOfAll]
      exact .values (.refl rfl)
  · rw [overflowed]
    exact .overflow

/-- The smoothed rate of a period and window is the average over the whole history in
value, if nothing was minted before the window.  One of them overflows only if both
do. -/
theorem compute_eq_fullHistory (estimator : RateEstimator) (period window : Int)
    (tokens : List String) (createdAt : Int) (precise : 1 ≤ estimator.context.precision)
    (positive : 1 ≤ window) (finite : ∀ period, (estimator.history.minted period).isFinite)
    (zeros : ∀ earlier, estimator.origin < earlier → earlier ≤ period - window →
      isZero? (estimator.history.minted earlier) = .ok true) :
    match estimator.compute period window tokens createdAt,
      estimator.fullHistory period window with
    | .ok record, .ok average =>
        record.rate.isFinite ∧ average.isFinite ∧ compare? record.rate average = some .eq
    | .error left, .error right => left = .overflow ∧ right = .overflow
    | _, _ => False := by
  have same : ∀ earlier, estimator.origin < earlier → earlier ≤ period - window →
      SameValue (estimator.history.minted earlier) zero := by
    intro earlier lower upper
    have isZero := zeros earlier lower upper
    rw [isZero?_eq (finite earlier)] at isZero
    exact ⟨finite earlier, rfl, by simpa using isZero⟩
  have agree := rate_agree estimator period window precise positive finite same
  unfold compute
  generalize estimator.fullHistory period window = whole at agree ⊢
  generalize estimator.factorAndRate period window = rated at agree ⊢
  cases rated with
  | ok pair =>
      cases agree with
      | values equal => exact ⟨equal.leftFinite, equal.rightFinite, equal.compare?⟩
  | error signal =>
      cases agree with
      | overflow => exact ⟨rfl, rfl⟩

/-- An estimator whose feed has an explicit zero before its only mint. -/
def singleMint : RateEstimator where
  history := .ofMapping [(1, .finite false 0 (-2)), (2, .finite false 60 0)]
  origin := 0
  windows := [1]
  context := { precision := 4 }

/-- The zero before the window adds places to the average over the whole history and
leaves its value as it is. -/
theorem singleMint_rate_eq_fullHistory :
    ∃ record average, singleMint.compute 2 1 [] 0 = .ok record ∧
      singleMint.fullHistory 2 1 = .ok average ∧ record.rate = .finite false 60 0 ∧
      average = .finite false 6000 (-2) ∧ compare? record.rate average = some .eq := by
  have agree := compute_eq_fullHistory singleMint 2 1 [] 0 (by decide) (by decide)
    (fun period => MintHistory.isFinite_minted_ofMapping (by decide) period)
    (fun earlier lower upper => by
      obtain rfl : earlier = 1 := by
        change 0 < earlier at lower
        omega
      decide +kernel)
  have windowed : (singleMint.compute 2 1 [] 0).map RateRecord.rate =
      .ok (.finite false 60 0) := by decide +kernel
  have whole : singleMint.fullHistory 2 1 = .ok (.finite false 6000 (-2)) := by decide +kernel
  cases computed : singleMint.compute 2 1 [] 0 with
  | error signal =>
      rw [computed] at windowed
      contradiction
  | ok record =>
      rw [computed] at windowed
      rw [computed, whole] at agree
      exact ⟨record, _, rfl, whole, Except.ok.inj windowed, rfl, agree.2.2⟩

end RateEstimator

end DepositYield
