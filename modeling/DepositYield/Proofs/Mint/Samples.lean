import DepositYield.Proofs.Decimal.Shift
import DepositYield.Proofs.Mint.Smoothing

/-!
# What a smoothed rate depends on

A rate is smoothed over as many periods, up to the given one, as there are samples: none, all
of the history or a full window.  So it depends on the history in these periods only.  What is
minted in them counts as a number; its exponent shows in the exponent of the rate at most.
-/

namespace DepositYield

open Decimal

/-! ## Calculations on the same numbers -/

namespace Decimal

theorem SameNumber.refl (decimal : Decimal) : SameNumber decimal decimal :=
  .inr rfl

namespace SameNumber

variable {left right : Decimal}

theorem shifted (same : SameNumber left right) : Shifted 0 left right := by
  rcases same with same | rfl
  · exact .of_sameValue same
  · exact .refl _

theorem sameValue (same : SameNumber left right) (finite : left.isFinite) :
    SameValue left right :=
  same.shifted.sameValue finite

theorem isNaN_eq (same : SameNumber left right) : left.isNaN = right.isNaN := by
  rcases same with ⟨leftFinite, rightFinite, -⟩ | rfl
  · rcases exists_finite_of_isFinite leftFinite with ⟨_, _, _, rfl⟩
    rcases exists_finite_of_isFinite rightFinite with ⟨_, _, _, rfl⟩
    rfl
  · rfl

theorem negate (same : SameNumber left right) : SameNumber left.negate right.negate := by
  rcases same with ⟨leftFinite, rightFinite, value⟩ | rfl
  · rcases exists_finite_of_isFinite leftFinite with ⟨_, _, _, rfl⟩
    rcases exists_finite_of_isFinite rightFinite with ⟨_, _, _, rfl⟩
    exact .inl ⟨rfl, rfl, by rw [toRat_negate, toRat_negate, value]⟩
  · exact .refl _

end SameNumber

namespace Context

variable {context : Context} {left leftOther right rightOther : Decimal}

/-- An operation that rounds the exact result of finite operands, and takes no more than signs
and zeros of a finite operand beside a special one, depends on the numbers only. -/
theorem operation_sameNumber {operation : Decimal → Decimal → Except Signal Decimal}
    {exact : ℚ → ℚ → ℚ} (reads : Shifted.ReadsSigns operation)
    (calculates : ∀ {left right : Decimal}, left.isFinite → right.isFinite →
      context.Calculates (operation left right) (exact left.toRat right.toRat))
    (leftSame : SameNumber left leftOther) (rightSame : SameNumber right rightOther) :
    Alike SameNumber (operation left right) (operation leftOther rightOther) := by
  by_cases finite : left.isFinite = true ∧ right.isFinite = true
  · have leftValue := leftSame.sameValue finite.1
    have rightValue := rightSame.sameValue finite.2
    have calculatesLeft := calculates finite.1 finite.2
    rw [leftValue.value, rightValue.value] at calculatesLeft
    have agree := Agree.of_calculates calculatesLeft
      (calculates leftValue.rightFinite rightValue.rightFinite)
    exact agree.alike.mono fun _ _ => .inl
  · have isSpecial : left.isFinite = false ∨ right.isFinite = false := by grind
    rw [Shifted.eq_of_special reads leftSame.shifted rightSame.shifted isSpecial]
    exact (Coincide.same _).mono fun _ _ => .inr

variable (precise : 0 < context.precision) (leftSame : SameNumber left leftOther)
  (rightSame : SameNumber right rightOther)

include precise leftSame rightSame

theorem add_sameNumber :
    Alike SameNumber (context.add left right) (context.add leftOther rightOther) :=
  operation_sameNumber add_readsSigns (add_calculates precise) leftSame rightSame

theorem mul_sameNumber :
    Alike SameNumber (context.mul left right) (context.mul leftOther rightOther) :=
  operation_sameNumber mul_readsSigns (mul_calculates precise) leftSame rightSame

theorem sub_sameNumber :
    Alike SameNumber (context.sub left right) (context.sub leftOther rightOther) := by
  unfold sub
  rw [← rightSame.isNaN_eq]
  split
  · exact add_sameNumber precise leftSame rightSame
  · exact add_sameNumber precise leftSame rightSame.negate

end Context

end Decimal

/-! ## Averages of two histories -/

section Averages

variable {context : Context} {history other : MintHistory} {factor : Decimal}
  {related : Decimal → Decimal → Prop}

/-- Averages of histories that are related in their periods are related, if every step relates
what it gives. -/
theorem smoothFrom_related
    (step : ∀ {sample otherSample average otherAverage : Decimal},
      related sample otherSample → related average otherAverage →
        Alike related (smoothingStep context factor sample average)
          (smoothingStep context factor otherSample otherAverage))
    (count : Nat) (first : Int)
    (samples : ∀ period, first ≤ period → period < first + count →
      related (history.minted period) (other.minted period))
    {average otherAverage : Decimal} (averages : related average otherAverage) :
    Alike related (smoothFrom context history factor first count average)
      (smoothFrom context other factor first count otherAverage) := by
  induction count generalizing first average otherAverage with
  | zero => exact .values averages
  | succ count ih =>
      apply (step (samples first le_rfl (by omega)) averages).bind
      intro next otherNext nexts
      exact ih (first + 1) (fun period lower upper => samples period (by omega) (by omega)) nexts

/-- Averages depend on what is minted in their periods only. -/
theorem smooth_eq {first last : Int}
    (same : ∀ period, first ≤ period → period ≤ last →
      history.minted period = other.minted period) :
    smooth context history first last factor = smooth context other first last factor := by
  have alike : Alike (fun left right => left = right)
      (smooth context history first last factor) (smooth context other first last factor) := by
    apply smoothFrom_related
    · rintro _ _ _ _ rfl rfl
      exact .same _
    · intro period lower upper
      exact same period lower (by omega)
    · rfl
  rcases alike.eq_or_excused with equal | ⟨_, none, -⟩ | ⟨_, none, -⟩
  · exact equal
  · exact none.elim
  · exact none.elim

/-- A step depends on the sample and on the average as numbers. -/
theorem smoothingStep_sameNumber (precise : 0 < context.precision)
    {sample otherSample average otherAverage : Decimal} (samples : SameNumber sample otherSample)
    (averages : SameNumber average otherAverage) :
    Alike SameNumber (smoothingStep context factor sample average)
      (smoothingStep context factor otherSample otherAverage) := by
  unfold smoothingStep
  apply (Context.sub_sameNumber precise samples averages).bind
  intro _ _ differences
  apply (Context.mul_sameNumber precise differences (.refl factor)).bind
  intro _ _ products
  exact Context.add_sameNumber precise products averages

/-- Averages depend on what is minted in their periods as numbers. -/
theorem smooth_sameNumber (precise : 0 < context.precision) {first last : Int}
    (same : ∀ period, first ≤ period → period ≤ last →
      SameNumber (history.minted period) (other.minted period)) :
    Alike SameNumber (smooth context history first last factor)
      (smooth context other first last factor) := by
  apply smoothFrom_related
  · exact smoothingStep_sameNumber precise
  · intro period lower upper
    exact same period lower (by omega)
  · exact .refl zero

end Averages

/-! ## Records -/

/-- The records are the same but for the exponents of the rates. -/
structure RateRecord.SameNumbers (left right : RateRecord) : Prop where
  rate : SameNumber left.rate right.rate
  others : { left with rate := right.rate } = right

namespace RateEstimator

/-- A rate is smoothed over the periods of its samples, with their smoothing factor. -/
theorem compute_eq (estimator : RateEstimator) (period window : Int) (tokens : List String)
    (createdAt : Int) :
    estimator.compute period window tokens createdAt = do
      let samples := sampleCount period window estimator.origin
      let factor ← smoothingFactor estimator.context samples
      let rate ← smooth estimator.context estimator.history (period - samples + 1) period factor
      return {
        period
        window
        samples
        factor
        rate
        whitelistedTokens := tokens
        createdAt } := by
  unfold compute
  rw [factorAndRate_eq]
  simp only [bind_assoc, pure_bind]

/-- The periods of the samples are those after the origin that lie in the window. -/
theorem lower_of_sampled {estimator : RateEstimator} {period window earlier : Int}
    (lower : period - sampleCount period window estimator.origin + 1 ≤ earlier)
    (upper : earlier ≤ period) :
    max (estimator.origin + 1) (period - window + 1) ≤ earlier := by
  unfold sampleCount at lower
  omega

/-- The three ways to smooth a rate are one: over the samples of the period and window, up to the
period, with the smoothing factor of as many samples.  So for a window of at least one period,
histories with the same values in the periods of the window after the origin give the same
record or stop for the same signal, whatever was minted in other periods; and if the values are
the same numbers only, so are the rates. -/
theorem compute_of_samples (estimator : RateEstimator) (period window : Int)
    (tokens : List String) (createdAt : Int) :
    (estimator.compute period window tokens createdAt = do
      let samples := sampleCount period window estimator.origin
      let factor ← smoothingFactor estimator.context samples
      let rate ← smooth estimator.context estimator.history (period - samples + 1) period factor
      return {
        period
        window
        samples
        factor
        rate
        whitelistedTokens := tokens
        createdAt }) ∧
    ∀ history : MintHistory, 1 ≤ window →
      ((∀ earlier, max (estimator.origin + 1) (period - window + 1) ≤ earlier → earlier ≤ period →
          estimator.history.minted earlier = history.minted earlier) →
        estimator.compute period window tokens createdAt =
          { estimator with history }.compute period window tokens createdAt) ∧
      (1 ≤ estimator.context.precision →
        (∀ earlier, max (estimator.origin + 1) (period - window + 1) ≤ earlier →
          earlier ≤ period →
            SameNumber (estimator.history.minted earlier) (history.minted earlier)) →
        Alike RateRecord.SameNumbers (estimator.compute period window tokens createdAt)
          ({ estimator with history }.compute period window tokens createdAt)) := by
  refine ⟨estimator.compute_eq period window tokens createdAt, fun history positive => ⟨?_, ?_⟩⟩
  · intro same
    rw [compute_eq, compute_eq]
    have smoothed : ∀ factor, smooth estimator.context estimator.history
        (period - sampleCount period window estimator.origin + 1) period factor =
          smooth estimator.context history
            (period - sampleCount period window estimator.origin + 1) period factor :=
      fun factor => smooth_eq fun earlier lower upper =>
        same earlier (lower_of_sampled lower upper) upper
    simp only [smoothed]
  · intro precise same
    rw [compute_eq, compute_eq]
    apply Coincide.bind_same
    intro factor
    refine (smooth_sameNumber precise fun earlier lower upper => ?_).bind ?_
    · exact same earlier (lower_of_sampled lower upper) upper
    · intro rate otherRate rates
      exact .values ⟨rates, rfl⟩

/-- An estimator of a history with mints before and in a window of two periods; the one before
is no number. -/
def earlyMint : RateEstimator where
  history := .ofMapping [(-3, .nan false false 0), (1, .finite false 500 0),
    (3, .finite false 60 (-1))]
  origin := -4
  windows := [2]
  context := { precision := 4 }

/-- The same mints in the window, written in another way, and none before. -/
def sameMintInWindow : MintHistory :=
  .ofMapping [(2, .finite false 0 (-5)), (3, .finite false 6 0)]

/-- Only the window counts, and in it only the numbers. -/
theorem earlyMint_compute_of_window :
    ∃ record other, earlyMint.compute 3 2 [] 0 = .ok record ∧
      { earlyMint with history := sameMintInWindow }.compute 3 2 [] 0 = .ok other ∧
      record.rate = .finite false 4000 (-3) ∧ record.SameNumbers other := by
  have alike := ((compute_of_samples earlyMint 3 2 [] 0).2 sameMintInWindow (by decide)).2
    (by decide) (fun earlier lower upper => by
      obtain rfl | rfl : earlier = 2 ∨ earlier = 3 := by
        change max (-4 + 1) (3 - 2 + 1) ≤ earlier at lower
        omega
      · have left : earlyMint.history.minted 2 = zero := by decide +kernel
        have right : sameMintInWindow.minted 2 = .finite false 0 (-5) := by decide +kernel
        rw [left, right]
        exact .inl ⟨rfl, rfl, by norm_num [zero]⟩
      · have left : earlyMint.history.minted 3 = .finite false 60 (-1) := by decide +kernel
        have right : sameMintInWindow.minted 3 = .finite false 6 0 := by decide +kernel
        rw [left, right]
        exact .inl ⟨rfl, rfl, by norm_num [sign]⟩)
  have rate : (earlyMint.compute 3 2 [] 0).map RateRecord.rate =
      .ok (.finite false 4000 (-3)) := by decide +kernel
  cases computed : earlyMint.compute 3 2 [] 0 with
  | error signal =>
      rw [computed] at rate
      contradiction
  | ok record =>
      rw [computed] at rate alike
      generalize { earlyMint with history := sameMintInWindow }.compute 3 2 [] 0 = other at alike ⊢
      cases alike with
      | values same => exact ⟨_, _, rfl, rfl, Except.ok.inj rate, same⟩
      | excuseRight isExcused => exact absurd isExcused not_false

end RateEstimator

end DepositYield
