import DepositYield.Forecast.Workbench
import DepositYield.Proofs.Forecast.Selection

/-!
# What a store holds of a window

A store holds a mint rate, yields of tokens and a yield of fertilizer for a period and
window.  Keeping a forecast lays its records over those of its own period and window and
leaves all others alone.  To keep it once more changes nothing.
-/

namespace DepositYield

open Decimal

/-- What a store holds of a period and window. -/
@[ext]
structure WindowRecords where
  rate : Option RateRecord
  tokenYields : Token → Option TokenYield
  fertilizer : Option FertilizerRecord

/-- The records of a period and window. -/
def ForecastStore.recordsAt (store : ForecastStore) (key : WindowKey) : WindowRecords where
  rate := store.rates.get? key
  tokenYields := fun token => store.tokenYields.get? ⟨token, key⟩
  fertilizer := store.fertilizer.get? key

/-- The last of the yields of a token. -/
def lastYield? (yields : List TokenYield) (token : Token) : Option TokenYield :=
  yields.reverse.find? fun yield => yield.token = token

namespace WindowForecast

/-- All records of the forecast are about the period and window. -/
structure IsAbout (key : WindowKey) (forecast : WindowForecast) : Prop where
  rate : WindowKey.mk forecast.rate.period forecast.rate.window = key
  tokenYields : ∀ yield ∈ forecast.tokenYields, WindowKey.mk yield.period yield.window = key
  fertilizer : WindowKey.mk forecast.fertilizer.period forecast.fertilizer.window = key

/-- The records of a period and window with those of a forecast laid over them. -/
def laidOver (forecast : WindowForecast) (records : WindowRecords) : WindowRecords where
  rate := some forecast.rate
  tokenYields := fun token =>
    (lastYield? forecast.tokenYields token).or (records.tokenYields token)
  fertilizer := some forecast.fertilizer

/-- A forecast that is laid over itself changes nothing. -/
@[simp]
theorem laidOver_laidOver (forecast : WindowForecast) (records : WindowRecords) :
    forecast.laidOver (forecast.laidOver records) = forecast.laidOver records := by
  ext1
  · rfl
  · funext token
    change (lastYield? forecast.tokenYields token).or ((lastYield? forecast.tokenYields token).or
      (records.tokenYields token)) = _
    rw [← Option.or_assoc, Option.or_self]
    rfl
  · rfl

end WindowForecast

theorem lastYield?_cons (yield : TokenYield) (yields : List TokenYield) (token : Token) :
    lastYield? (yield :: yields) token =
      (lastYield? yields token).or (if yield.token = token then some yield else none) := by
  unfold lastYield?
  rw [List.reverse_cons, List.find?_append]
  congr 1
  by_cases same : yield.token = token <;> simp [same]

/-- Of tokens that are told apart each yield is the last one. -/
theorem lastYield?_of_nodup {yields : List TokenYield}
    (distinct : (yields.map TokenYield.token).Nodup) {yield : TokenYield} (inside : yield ∈ yields) :
    lastYield? yields yield.token = some yield := by
  induction yields with
  | nil => contradiction
  | cons first yields ih =>
      rw [List.map_cons, List.nodup_cons] at distinct
      rw [lastYield?_cons]
      rcases List.mem_cons.mp inside with rfl | later
      · have absent : lastYield? yields yield.token = none := by
          refine List.find?_eq_none.mpr fun other among same => distinct.1 ?_
          rw [← of_decide_eq_true same]
          exact List.mem_map_of_mem (List.mem_reverse.mp among)
        rw [absent, if_pos rfl]
        rfl
      · rw [ih distinct.2 later]
        rfl

namespace ForecastStore

theorem keepTokenYields_frame (store : ForecastStore) (yields : List TokenYield) :
    ∃ tokenYields, store.keepTokenYields yields = { store with tokenYields } := by
  induction yields generalizing store with
  | nil => exact ⟨store.tokenYields, rfl⟩
  | cons yield yields ih => exact ih (store.keepTokenYield yield)

/-- Yields of one period and window are kept for it, the last one of each token. -/
theorem get?_keepTokenYields {key : WindowKey} {yields : List TokenYield}
    (about : ∀ yield ∈ yields, WindowKey.mk yield.period yield.window = key)
    (store : ForecastStore) (token : Token) (other : WindowKey) :
    (store.keepTokenYields yields).tokenYields.get? ⟨token, other⟩ =
      if key = other then
        (lastYield? yields token).or (store.tokenYields.get? ⟨token, other⟩)
      else store.tokenYields.get? ⟨token, other⟩ := by
  induction yields generalizing store with
  | nil => split <;> rfl
  | cons yield yields ih =>
      have own : WindowKey.mk yield.period yield.window = key := about yield (.head _)
      have kept : (store.keepTokenYield yield).tokenYields.get? ⟨token, other⟩ =
          if yield.token = token ∧ key = other then some yield
          else store.tokenYields.get? ⟨token, other⟩ := by
        unfold keepTokenYield
        rw [own, Table.get?_set]
        simp only [TokenKey.mk.injEq]
      refine (ih (fun later inside => about later (.tail _ inside)) _).trans ?_
      rw [kept, lastYield?_cons]
      by_cases sameKey : key = other
      · by_cases sameToken : yield.token = token <;> simp [sameKey, sameToken]
      · simp [sameKey]

/-- Keeping a forecast lays it over the records of its own period and window. -/
theorem recordsAt_keepForecast {key : WindowKey} {forecast : WindowForecast}
    (about : forecast.IsAbout key) (store : ForecastStore) (other : WindowKey) :
    (store.keepForecast forecast).recordsAt other =
      if key = other then forecast.laidOver (store.recordsAt other) else store.recordsAt other := by
  obtain ⟨tokenYields, kept⟩ :=
    (store.keepRate forecast.rate).keepTokenYields_frame forecast.tokenYields
  have yields := get?_keepTokenYields about.tokenYields (store.keepRate forecast.rate)
  rw [kept] at yields
  have rate : (store.rates.set ⟨forecast.rate.period, forecast.rate.window⟩
      forecast.rate).get? other =
        if key = other then some forecast.rate else store.rates.get? other := by
    rw [about.rate, Table.get?_set]
  have fertilizer : (store.fertilizer.set
      ⟨forecast.fertilizer.period, forecast.fertilizer.window⟩ forecast.fertilizer).get? other =
        if key = other then some forecast.fertilizer else store.fertilizer.get? other := by
    rw [about.fertilizer, Table.get?_set]
  unfold keepForecast
  rw [kept]
  by_cases same : key = other
  · simp only [if_pos same] at yields rate fertilizer ⊢
    ext1
    · exact rate
    · exact funext fun token => yields token other |>.trans (if_pos same)
    · exact fertilizer
  · simp only [if_neg same] at yields rate fertilizer ⊢
    ext1
    · exact rate
    · exact funext fun token => yields token other |>.trans (if_neg same)
    · exact fertilizer

end ForecastStore

/-! ## Forecasts -/

namespace Forecast

theorem isAbout_of_tokenYields {settings : Settings} {snapshot : Snapshot} {tokens : List Token}
    {period window createdAt : Int} {rate : Decimal} {yields : List TokenYield}
    (returned : tokenYields settings snapshot period window rate tokens createdAt = .ok yields) :
    ∀ yield ∈ yields, WindowKey.mk yield.period yield.window = ⟨period, window⟩ := by
  by_cases any : tokens = []
  · subst any
    obtain rfl := Except.ok.inj returned
    simp
  obtain ⟨context, -, model, -, calculated⟩ := (tokenYields_eq_ok_iff any).mp returned
  intro yield inside
  obtain ⟨position, held⟩ := List.mem_iff_getElem?.mp inside
  obtain ⟨token, -, made⟩ := exists_getElem?_of_forall₂ (mapM_eq_ok_iff.mp calculated).flip held
  obtain ⟨growth, -, rfl⟩ := map_eq_ok_iff.mp made
  rfl

end Forecast

theorem RateEstimator.isAbout_of_compute {estimator : RateEstimator} {period window : Int}
    {whitelistedTokens : List String} {createdAt : Int} {record : RateRecord}
    (smoothed : estimator.compute period window whitelistedTokens createdAt = .ok record) :
    WindowKey.mk record.period record.window = ⟨period, window⟩ := by
  obtain ⟨factorAndRate, -, made⟩ := bind_eq_ok_iff.mp smoothed
  obtain rfl := Except.ok.inj made
  rfl

theorem FertilizerEstimator.isAbout_of_estimate {estimator : FertilizerEstimator}
    {period window : Int} {given : Written} {supply : Option Int} {createdAt : Int}
    {record : FertilizerRecord}
    (estimated : estimator.estimate period window given supply createdAt = .ok record) :
    WindowKey.mk record.period record.window = ⟨period, window⟩ := by
  have settled : Settles (fun _ => True)
      (fun record : FertilizerRecord =>
        WindowKey.mk record.period record.window = ⟨period, window⟩)
      (estimator.estimate period window given supply createdAt) := by
    refine (Settles.any _).bind fun humidity _ => ?_
    cases supply with
    | some amount =>
        iterate 5 refine (Settles.any _).bind fun _ _ => ?_
        exact rfl
    | none =>
        iterate 5 refine (Settles.any _).bind fun _ _ => ?_
        exact rfl
  rwa [estimated] at settled

/-- A forecast is about the period and window that it is asked for. -/
theorem ForecastSource.isAbout_of_forecast {source : ForecastSource} {snapshot : Snapshot}
    {period window createdAt : Int} {forecast : WindowForecast}
    (made : source.forecast snapshot period window createdAt = .ok forecast) :
    forecast.IsAbout ⟨period, window⟩ := by
  simp only [ForecastSource.forecast, bind_eq_ok_iff, liftM_eq_ok_iff] at made
  obtain ⟨context, -, rate, smoothed, yields, simulated, fertilizer, estimated, made⟩ := made
  obtain rfl := Except.ok.inj made
  exact {
    rate := RateEstimator.isAbout_of_compute smoothed
    tokenYields := Forecast.isAbout_of_tokenYields simulated
    fertilizer := FertilizerEstimator.isAbout_of_estimate estimated }

end DepositYield
