import DepositYield.Proofs.Forecast.Batch
import DepositYield.Proofs.Forecast.Germination
import DepositYield.Proofs.Mint.Smoothing

/-!
# Refreshes at a given rate

A refresh at a given rate first notes the rate, unless the store holds one of the period
and window, and then simulates yields at it.  At the smoothed rate it keeps what the
refresh of the window keeps.  When the simulation fails, the rate that was noted stays.
-/

namespace DepositYield

open Decimal

theorem RateEstimator.whitelistedTokens_of_compute {estimator : RateEstimator} {period window : Int}
    {tokens : List Token} {createdAt : Int} {record : RateRecord}
    (smoothed : estimator.compute period window tokens createdAt = .ok record) :
    record.whitelistedTokens = tokens := by
  obtain ⟨_, -, made⟩ := bind_eq_ok_iff.mp smoothed
  obtain rfl := Except.ok.inj made
  rfl

theorem ForecastStore.rates_keepTokenYields (store : ForecastStore) (yields : List TokenYield) :
    (store.keepTokenYields yields).rates = store.rates := by
  obtain ⟨tokenYields, kept⟩ := store.keepTokenYields_frame yields
  rw [kept]

namespace ForecastSource

variable {source : ForecastSource} {store : ForecastStore} {snapshot : Snapshot}
  {period window createdAt : Int} {rate : Decimal}

/-- A window that is refreshed has been forecast, and the store keeps the forecast. -/
theorem of_refreshWindow {forecast : WindowForecast}
    (refreshed : (source.refreshWindow store snapshot period window createdAt).result =
      .ok forecast) :
    source.forecast snapshot period window createdAt = .ok forecast ∧
      (source.refreshWindow store snapshot period window createdAt).store =
        store.keepForecast forecast := by
  unfold refreshWindow at refreshed ⊢
  cases made : source.forecast snapshot period window createdAt with
  | error failure =>
      rw [made] at refreshed
      contradiction
  | ok other =>
      rw [made] at refreshed
      obtain rfl := Except.ok.inj refreshed
      exact ⟨rfl, rfl⟩

/-- A given rate is refused only for settings that ask for a precision there is not. -/
theorem exists_givenRate_iff {tokens : List Token} :
    (∃ record, source.givenRate period window rate tokens createdAt = .ok record) ↔
      ∃ context, Forecast.context source.settings = .ok context := by
  simp only [givenRate, bind_eq_ok_iff, liftM_eq_ok_iff]
  constructor
  · rintro ⟨_, context, asked, -⟩
    exact ⟨context, asked⟩
  · rintro ⟨context, asked⟩
    obtain ⟨factor, calculated⟩ :=
      exists_smoothingFactor (Forecast.precise_of_context asked) (sampleCount_nonneg ..)
    exact ⟨_, context, asked, factor, calculated, rfl⟩

/-- A given rate is noted for the period and window that it is given for. -/
theorem isAbout_of_givenRate {tokens : List Token} {record : RateRecord}
    (given : source.givenRate period window rate tokens createdAt = .ok record) :
    WindowKey.mk record.period record.window = ⟨period, window⟩ := by
  simp only [givenRate, bind_eq_ok_iff] at given
  obtain ⟨context, -, factor, -, made⟩ := given
  obtain rfl := Except.ok.inj made
  rfl

/-- The store once a given rate has been noted, unless a rate was held before. -/
def noteRate (source : ForecastSource) (store : ForecastStore) (snapshot : Snapshot)
    (period window : Int) (rate : Decimal) (createdAt : Int) :
    Except YieldFailure ForecastStore :=
  match store.rate? period window with
  | some _ => .ok store
  | none =>
      (source.givenRate period window rate snapshot.whitelistedTokens createdAt).map
        store.keepRate

/-- A rate is noted by leaving the store as it is, or by keeping the given rate where
there was none. -/
theorem of_noteRate {noted : ForecastStore}
    (accepted : source.noteRate store snapshot period window rate createdAt = .ok noted) :
    (store.rate? period window).isSome ∧ noted = store ∨
      store.rate? period window = none ∧ ∃ record,
        source.givenRate period window rate snapshot.whitelistedTokens createdAt =
          .ok record ∧ noted = store.keepRate record := by
  unfold noteRate at accepted
  cases held : store.rate? period window with
  | some record =>
      rw [held] at accepted
      exact .inl ⟨rfl, (Except.ok.inj accepted).symm⟩
  | none =>
      rw [held] at accepted
      obtain ⟨record, given, kept⟩ := map_eq_ok_iff.mp accepted
      exact .inr ⟨rfl, record, given, kept.symm⟩

/-- A rate that cannot be noted is given for settings that ask for a precision there is
not. -/
theorem context_ne_of_noteRate {failure : YieldFailure}
    (refused : source.noteRate store snapshot period window rate createdAt = .error failure) :
    ∀ context, Forecast.context source.settings ≠ .ok context := by
  intro context asked
  obtain ⟨record, given⟩ := exists_givenRate_iff.mpr ⟨context, asked⟩
  unfold noteRate at refused
  rw [given] at refused
  cases held : store.rate? period window <;> rw [held] at refused <;> contradiction

/-- The yields are simulated once the rate has been noted. -/
theorem refreshTokenYields_eq (source : ForecastSource) (store : ForecastStore)
    (snapshot : Snapshot) (period window : Int) (rate : Decimal) (createdAt : Int) :
    source.refreshTokenYields store snapshot period window rate createdAt =
      match source.noteRate store snapshot period window rate createdAt with
      | .error failure => { result := .error failure, store }
      | .ok noted =>
          match Forecast.tokenYields source.settings snapshot period window rate
              (tokensFor (store.rate? period window) snapshot) createdAt with
          | .error failure => { result := .error failure, store := noted }
          | .ok yields => { result := .ok yields, store := noted.keepTokenYields yields } := by
  unfold refreshTokenYields noteRate
  cases store.rate? period window <;> rfl

/-- A noted rate leaves every rate that was held before, and everything but rates. -/
theorem noteRate_frame {noted : ForecastStore}
    (accepted : source.noteRate store snapshot period window rate createdAt = .ok noted) :
    ∃ rates, noted = { store with rates } ∧
      ∀ key record, store.rates.get? key = some record → rates.get? key = some record := by
  obtain ⟨-, rfl⟩ | ⟨absent, record, given, rfl⟩ := of_noteRate accepted
  · exact ⟨noted.rates, rfl, fun _ _ => id⟩
  · refine ⟨_, rfl, fun key held found => ?_⟩
    have own := isAbout_of_givenRate given
    rw [own, Table.get?_set]
    split
    · next same =>
        subst same
        rw [ForecastStore.rate?, found] at absent
        contradiction
    · exact found

/-- A refresh at a given rate, failed or not, leaves every rate that was held before and
all yields of fertilizer. -/
theorem refreshTokenYields_frame (source : ForecastSource) (store : ForecastStore)
    (snapshot : Snapshot) (period window : Int) (rate : Decimal) (createdAt : Int) :
    ∃ rates tokenYields,
      (source.refreshTokenYields store snapshot period window rate createdAt).store =
          { store with rates, tokenYields } ∧
        ∀ key record, store.rates.get? key = some record → rates.get? key = some record := by
  rw [refreshTokenYields_eq]
  cases accepted : source.noteRate store snapshot period window rate createdAt with
  | error failure => exact ⟨store.rates, store.tokenYields, rfl, fun _ _ => id⟩
  | ok noted =>
      obtain ⟨rates, rfl, kept⟩ := noteRate_frame accepted
      dsimp only
      split
      · exact ⟨rates, store.tokenYields, rfl, kept⟩
      · next yields _ =>
          obtain ⟨tokenYields, keptYields⟩ :=
            ForecastStore.keepTokenYields_frame { store with rates } yields
          exact ⟨rates, tokenYields, keptYields, kept⟩

/-! ## The smoothed rate given again -/

/-- The record of a smoothed rate is the record of the same rate when it is given. -/
theorem givenRate_of_compute {context : Context} {tokens : List Token} {record : RateRecord}
    (asked : Forecast.context source.settings = .ok context)
    (smoothed : (source.rateEstimator context).compute period window tokens createdAt =
      .ok record) :
    source.givenRate period window record.rate tokens createdAt = .ok record := by
  simp only [RateEstimator.compute, RateEstimator.factorAndRate_eq, bind_eq_ok_iff] at smoothed
  obtain ⟨_, ⟨factor, calculated, rate, -, paired⟩, made⟩ := smoothed
  obtain rfl := Except.ok.inj paired
  obtain rfl := Except.ok.inj made
  simp only [givenRate, bind_eq_ok_iff, liftM_eq_ok_iff]
  exact ⟨context, asked, factor, calculated, rfl⟩

/-- A forecast notes a rate that can be given, and has the yields of the whitelist at it. -/
theorem of_forecast {forecast : WindowForecast}
    (made : source.forecast snapshot period window createdAt = .ok forecast) :
    source.givenRate period window forecast.rate.rate snapshot.whitelistedTokens createdAt =
        .ok forecast.rate ∧
      Forecast.tokenYields source.settings snapshot period window forecast.rate.rate
        snapshot.whitelistedTokens createdAt = .ok forecast.tokenYields := by
  simp only [ForecastSource.forecast, bind_eq_ok_iff, liftM_eq_ok_iff] at made
  obtain ⟨context, asked, record, smoothed, yields, simulated, fertilizer, -, paired⟩ := made
  obtain rfl := Except.ok.inj paired
  rw [RateEstimator.whitelistedTokens_of_compute smoothed] at simulated
  exact ⟨givenRate_of_compute asked smoothed, simulated⟩

/-- Where a store holds no rate of a period and window, a refresh at the smoothed rate keeps
the rate and the yields of the forecast. -/
theorem refreshTokenYields_of_forecast {forecast : WindowForecast}
    (absent : store.rate? period window = none)
    (made : source.forecast snapshot period window createdAt = .ok forecast) :
    source.refreshTokenYields store snapshot period window forecast.rate.rate createdAt =
      { result := .ok forecast.tokenYields
        store := (store.keepRate forecast.rate).keepTokenYields forecast.tokenYields } := by
  obtain ⟨given, simulated⟩ := of_forecast made
  have noted : source.noteRate store snapshot period window forecast.rate.rate createdAt =
      .ok (store.keepRate forecast.rate) := by
    rw [noteRate, absent, given]
    rfl
  rw [refreshTokenYields_eq, noted, absent]
  simp only [tokensFor, simulated]

/-- Where a store holds no rate of a period and window, to refresh the window and to refresh
the yields at its smoothed rate keep the same rate, with the same samples, factor, tokens
and time, and the same yields.  The store then holds the yields that were returned under their
keys, the last one of each token, and so each of them where the whitelist names no token twice.
To refresh yields at any rate never changes a rate that the store holds, nor a yield of
fertilizer. -/
theorem refreshTokenYields_as_refreshWindow (source : ForecastSource) (ledger : Ledger)
    (store : ForecastStore) (period window createdAt : Int) :
    (∀ forecast, store.rate? period window = none →
      (source.refreshWindow store ledger.snapshot period window createdAt).result =
        .ok forecast →
      let smoothed := source.refreshWindow store ledger.snapshot period window createdAt
      let given := source.refreshTokenYields store ledger.snapshot period window
        forecast.rate.rate createdAt
      given.result = .ok forecast.tokenYields ∧
        given.store.rate? period window = some forecast.rate ∧
        given.store.rates = smoothed.store.rates ∧
        given.store.tokenYields = smoothed.store.tokenYields ∧
        (∀ token, given.store.tokenYield? token period window =
          (lastYield? forecast.tokenYields token).or (store.tokenYield? token period window)) ∧
        (ledger.whitelistedTokens.Nodup → ∀ yield ∈ forecast.tokenYields,
          given.store.tokenYield? yield.token period window = some yield)) ∧
    ∀ rate,
      let given := source.refreshTokenYields store ledger.snapshot period window rate createdAt
      given.store.fertilizer = store.fertilizer ∧
        ∀ key record, store.rates.get? key = some record →
          given.store.rates.get? key = some record := by
  constructor
  · intro forecast absent refreshed smoothed given
    obtain ⟨made, kept⟩ := of_refreshWindow refreshed
    have own := (isAbout_of_forecast made).rate
    have refreshedAtRate : given = _ := refreshTokenYields_of_forecast absent made
    have held : ∀ token, given.store.tokenYield? token period window =
        (lastYield? forecast.tokenYields token).or (store.tokenYield? token period window) := by
      intro token
      rw [refreshedAtRate]
      exact (ForecastStore.get?_keepTokenYields (isAbout_of_forecast made).tokenYields _ token
        ⟨period, window⟩).trans (if_pos rfl)
    have named := (Forecast.tokenYields_filter (fun _ => true) (fun _ _ => rfl)
      (of_forecast made).2).1
    refine ⟨by rw [refreshedAtRate], ?_, ?_, ?_, held, ?_⟩
    · rw [refreshedAtRate, ForecastStore.rate?, ForecastStore.rates_keepTokenYields,
        ForecastStore.keepRate, own, Table.get?_set, if_pos rfl]
    · rw [show smoothed.store = _ from kept, refreshedAtRate]
      rfl
    · rw [show smoothed.store = _ from kept, refreshedAtRate]
      rfl
    · intro distinct yield inside
      rw [held, lastYield?_of_nodup (named.symm ▸ distinct) inside]
      rfl
  · intro rate given
    obtain ⟨rates, tokenYields, kept, held⟩ :=
      refreshTokenYields_frame source store ledger.snapshot period window rate createdAt
    rw [show given.store = _ from kept]
    exact ⟨rfl, held⟩

/-- With two short windows and no rate held, the smoothed rate is kept with its yields when
it is given, too. -/
theorem shortWindows_at_smoothed_rate :
    let ledger := (Ledger.empty none).run Forecast.threeWhitelisted
    let smoothed := shortWindows.refreshWindow .empty ledger.snapshot 19629 3 0
    ∃ forecast, smoothed.result = .ok forecast ∧
      let given := shortWindows.refreshTokenYields .empty ledger.snapshot 19629 3
        forecast.rate.rate 0
      given.result = .ok forecast.tokenYields ∧
        given.store.rate? 19629 3 = some forecast.rate ∧
        given.store.tokenYields = smoothed.store.tokenYields := by
  intro ledger smoothed
  have settled : smoothed.result.isOk := by decide +kernel
  obtain ⟨forecast, refreshed⟩ := exists_ok_of_isOk settled
  obtain ⟨yields, rate, -, tokenYields, -⟩ :=
    (refreshTokenYields_as_refreshWindow shortWindows ledger .empty 19629 3 0).1 forecast rfl
      refreshed
  exact ⟨forecast, refreshed, yields, rate, tokenYields⟩

/-! ## Refreshes that fail -/

/-- A rate that is noted where there was none changes the store. -/
theorem keepRate_ne {record : RateRecord} {tokens : List Token}
    (absent : store.rate? period window = none)
    (given : source.givenRate period window rate tokens createdAt = .ok record) :
    store.keepRate record ≠ store := by
  intro unchanged
  have found : (store.keepRate record).rate? period window = some record := by
    rw [ForecastStore.rate?, ForecastStore.keepRate, isAbout_of_givenRate given, Table.get?_set,
      if_pos rfl]
  rw [unchanged, absent] at found
  contradiction

/-- A window that cannot be refreshed leaves the store as it was.  Yields that cannot be
refreshed at a given rate do so exactly if the store holds a rate of the period and window
or the settings ask for a precision there is not.  Otherwise the given rate stays in the
store, and nothing else is changed. -/
theorem failed_refresh_unchanged_iff (source : ForecastSource) (store : ForecastStore)
    (snapshot : Snapshot) (period window createdAt : Int) :
    (∀ failure,
      (source.refreshWindow store snapshot period window createdAt).result = .error failure →
        (source.refreshWindow store snapshot period window createdAt).store = store) ∧
    ∀ rate failure,
      let given := source.refreshTokenYields store snapshot period window rate createdAt
      given.result = .error failure →
        (given.store = store ↔ (store.rate? period window).isSome ∨
          ∀ context, Forecast.context source.settings ≠ .ok context) ∧
        (given.store = store ∨ ∃ record,
          source.givenRate period window rate snapshot.whitelistedTokens createdAt = .ok record ∧
            given.store = store.keepRate record) := by
  constructor
  · intro failure failed
    unfold refreshWindow at failed ⊢
    cases made : source.forecast snapshot period window createdAt with
    | error reason => rfl
    | ok forecast =>
        rw [made] at failed
        contradiction
  · intro rate failure given failed
    have run : given = _ := refreshTokenYields_eq source store snapshot period window rate createdAt
    cases accepted : source.noteRate store snapshot period window rate createdAt with
    | error reason =>
        rw [accepted] at run
        have unchanged : given.store = store := by rw [run]
        have unasked := context_ne_of_noteRate accepted
        exact ⟨⟨fun _ => .inr unasked, fun _ => unchanged⟩, .inl unchanged⟩
    | ok noted =>
        have left : given.store = noted := by
          rw [accepted] at run
          dsimp only at run
          split at run
          · rw [run]
          · rw [run] at failed
            contradiction
        rw [left]
        obtain ⟨held, rfl⟩ | ⟨absent, record, named, rfl⟩ := of_noteRate accepted
        · exact ⟨⟨fun _ => .inl held, fun _ => rfl⟩, .inl rfl⟩
        · refine ⟨⟨fun unchanged => absurd unchanged (keepRate_ne absent named), ?_⟩,
            .inr ⟨record, named, rfl⟩⟩
          obtain ⟨context, asked⟩ := exists_givenRate_iff.mp ⟨record, named⟩
          rintro (held | unasked)
          · rw [absent] at held
            contradiction
          · exact absurd asked (unasked context)

/-- Two short windows, with a mint in the history that no simulation can follow. -/
def hugeMint : ForecastSource :=
  { shortWindows with history := MintHistory.empty.set 19629 (.finite false 9 999999) }

/-- A huge mint fails both refreshes.  That of the window leaves an empty store, that at a
given rate does not. -/
theorem hugeMint_fails :
    let snapshot := ((Ledger.empty none).run Forecast.threeWhitelisted).snapshot
    let smoothed := hugeMint.refreshWindow .empty snapshot 19629 3 0
    let given := hugeMint.refreshTokenYields .empty snapshot 19629 3 (.finite false 9 999999) 0
    smoothed.result = .error (.signal .overflow) ∧ smoothed.store = .empty ∧
      given.result = .error (.signal .overflow) ∧ given.store ≠ .empty := by
  intro snapshot smoothed given
  have failed : smoothed.result = .error (.signal .overflow) ∧
      given.result = .error (.signal .overflow) := by decide +kernel
  obtain ⟨window, yields⟩ := failed_refresh_unchanged_iff hugeMint .empty snapshot 19629 3 0
  refine ⟨failed.1, window _ failed.1, failed.2, fun unchanged => ?_⟩
  rcases (yields _ _ failed.2).1.mp unchanged with held | unasked
  · contradiction
  · exact unasked ⟨34⟩ rfl

/-- Not every refresh that fails leaves the store as it was: a given rate that no simulation
can follow stays in an empty store. -/
theorem failed_refresh_keeps_rate :
    ¬∀ (source : ForecastSource) (store : ForecastStore) (operations : List Operation)
      (period window createdAt : Int) (rate : Decimal) (failure : YieldFailure),
      let snapshot := ((Ledger.empty none).run operations).snapshot
      let given := source.refreshTokenYields store snapshot period window rate createdAt
      given.result = .error failure → given.store = store := by
  intro unchanged
  let snapshot := ((Ledger.empty none).run Forecast.threeWhitelisted).snapshot
  let given := hugeMint.refreshTokenYields .empty snapshot 19629 3 (.finite false 9 999999) 0
  have left : given.result = .error (.signal .overflow) ∧ (given.store.rate? 19629 3).isSome := by
    decide +kernel
  have same : given.store = .empty := unchanged hugeMint .empty Forecast.threeWhitelisted 19629 3 0
    (.finite false 9 999999) (.signal .overflow) left.1
  rw [same] at left
  exact absurd left.2 (by decide)

end ForecastSource

end DepositYield
