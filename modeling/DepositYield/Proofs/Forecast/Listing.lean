import DepositYield.Proofs.Forecast.Pool

/-!
# Yields and the tokens of their rates

A workbench refreshes forecasts while its ledger goes on.  Every yield that its store holds
has a rate of the same period and window, which lists the tokens that were whitelisted when
it was kept.  The rate lists the token of the yield, with two exceptions: a rate that lists
no tokens, beside which whatever is whitelisted is simulated, and a yield that stayed behind
when its window was refreshed after the token had been dewhitelisted.
-/

namespace DepositYield

open Decimal

/-- A ledger, and the records that are kept of forecasts from it. -/
structure Workbench where
  ledger : Ledger
  store : ForecastStore

/-- A call that changes a workbench: an operation of the ledger or a refresh. -/
inductive WorkbenchCall where
  | operate (operation : Operation)
  | refresh (source : ForecastSource) (period createdAt : Int)
  | refreshWindow (source : ForecastSource) (period window createdAt : Int)
  | refreshTokenYields (source : ForecastSource) (period window : Int) (rate : Decimal)
      (createdAt : Int)

namespace Workbench

/-- The workbench after a call, which may have failed. -/
def perform (bench : Workbench) : WorkbenchCall → Workbench
  | .operate operation => { bench with ledger := (operation.perform bench.ledger).ledger }
  | .refresh source period createdAt =>
      { bench with
        store := (source.refresh bench.store bench.ledger.snapshot period createdAt).store }
  | .refreshWindow source period window createdAt =>
      { bench with
        store :=
          (source.refreshWindow bench.store bench.ledger.snapshot period window createdAt).store }
  | .refreshTokenYields source period window rate createdAt =>
      { bench with
        store := (source.refreshTokenYields bench.store bench.ledger.snapshot period window rate
          createdAt).store }

/-- The workbench after calls in a row. -/
def run (bench : Workbench) (calls : List WorkbenchCall) : Workbench :=
  calls.foldl perform bench

@[simp]
theorem run_nil (bench : Workbench) : bench.run [] = bench :=
  rfl

@[simp]
theorem run_append (bench : Workbench) (earlier later : List WorkbenchCall) :
    bench.run (earlier ++ later) = (bench.run earlier).run later :=
  List.foldl_append

@[simp]
theorem run_singleton (bench : Workbench) (call : WorkbenchCall) :
    bench.run [call] = bench.perform call :=
  rfl

end Workbench

/-! ## Forecasts that are kept -/

namespace ForecastSource

/-- The forecasts of windows in a row, up to the first that fails. -/
def forecastWindows (source : ForecastSource) (snapshot : Snapshot) (period createdAt : Int) :
    List Int → List WindowForecast
  | [] => []
  | window :: windows =>
      match source.forecast snapshot period window createdAt with
      | .error _ => []
      | .ok forecast => forecast :: source.forecastWindows snapshot period createdAt windows

theorem store_refreshWindows (source : ForecastSource) (snapshot : Snapshot)
    (period createdAt : Int) (store : ForecastStore) (windows : List Int) :
    (source.refreshWindows snapshot period createdAt store windows).store =
      (source.forecastWindows snapshot period createdAt windows).foldl
        ForecastStore.keepForecast store := by
  induction windows generalizing store with
  | nil => rfl
  | cons window windows ih =>
      unfold refreshWindows forecastWindows refreshWindow
      cases source.forecast snapshot period window createdAt with
      | error failure => rfl
      | ok forecast => exact ih _

end ForecastSource

theorem Forecast.token_mem_of_tokenYields {settings : Settings} {snapshot : Snapshot}
    {tokens : List Token} {period window createdAt : Int} {rate : Decimal}
    {yields : List TokenYield}
    (returned : tokenYields settings snapshot period window rate tokens createdAt = .ok yields) :
    ∀ yield ∈ yields, yield.token ∈ tokens := by
  intro yield inside
  have named := (tokenYields_filter (fun _ => true) (fun _ _ => rfl) returned).1
  rw [← named]
  exact List.mem_map_of_mem inside

/-- A forecast whose rate lists the whitelisted tokens, and which has yields of them only. -/
structure WindowForecast.Lists (whitelisted : List Token) (forecast : WindowForecast) : Prop where
  about : forecast.IsAbout forecast.task
  rate : forecast.rate.whitelistedTokens = whitelisted
  tokenYields : ∀ yield ∈ forecast.tokenYields, yield.token ∈ whitelisted

namespace ForecastSource

variable {source : ForecastSource} {snapshot : Snapshot} {period createdAt : Int}

theorem lists_of_forecast {window : Int} {forecast : WindowForecast}
    (made : source.forecast snapshot period window createdAt = .ok forecast) :
    forecast.Lists snapshot.whitelistedTokens := by
  have about := isAbout_of_forecast made
  simp only [ForecastSource.forecast, bind_eq_ok_iff, liftM_eq_ok_iff] at made
  obtain ⟨context, -, rate, smoothed, yields, simulated, fertilizer, -, made⟩ := made
  have whitelisted := RateEstimator.whitelistedTokens_of_compute smoothed
  rw [whitelisted] at simulated
  obtain rfl := Except.ok.inj made
  exact {
    about := by
      rw [← about.rate] at about
      exact about
    rate := whitelisted
    tokenYields := Forecast.token_mem_of_tokenYields simulated }

theorem lists_of_mem_forecastWindows {windows : List Int} :
    ∀ forecast ∈ source.forecastWindows snapshot period createdAt windows,
      forecast.Lists snapshot.whitelistedTokens := by
  induction windows with
  | nil => exact fun _ => nofun
  | cons window windows ih =>
      unfold forecastWindows
      split
      · exact fun _ => nofun
      · next forecast made =>
          exact List.forall_mem_cons.mpr ⟨lists_of_forecast made, ih⟩

theorem whitelistedTokens_of_givenRate {window : Int} {rate : Decimal} {tokens : List Token}
    {record : RateRecord}
    (given : source.givenRate period window rate tokens createdAt = .ok record) :
    record.whitelistedTokens = tokens := by
  simp only [givenRate, bind_eq_ok_iff] at given
  obtain ⟨context, -, factor, -, made⟩ := given
  obtain rfl := Except.ok.inj made
  rfl

end ForecastSource

/-- The forecasts that a call keeps.  A refresh at a given rate keeps none. -/
def WorkbenchCall.kept (ledger : Ledger) : WorkbenchCall → List WindowForecast
  | .operate _ => []
  | .refresh source period createdAt =>
      source.forecastWindows ledger.snapshot period createdAt source.settings.rates.windows
  | .refreshWindow source period window createdAt =>
      source.forecastWindows ledger.snapshot period createdAt [window]
  | .refreshTokenYields .. => []

theorem WorkbenchCall.lists_of_mem_kept {ledger : Ledger} {call : WorkbenchCall} :
    ∀ forecast ∈ call.kept ledger, forecast.Lists ledger.whitelistedTokens := by
  cases call with
  | operate operation => exact fun _ => nofun
  | refresh source period createdAt => exact ForecastSource.lists_of_mem_forecastWindows
  | refreshWindow source period window createdAt =>
      exact ForecastSource.lists_of_mem_forecastWindows
  | refreshTokenYields source period window rate createdAt => exact fun _ => nofun

/-- A call keeps forecasts in a row, or it refreshes yields at a given rate. -/
theorem Workbench.perform_cases (bench : Workbench) (call : WorkbenchCall) :
    (bench.perform call).store =
        (call.kept bench.ledger).foldl ForecastStore.keepForecast bench.store ∨
      ∃ (source : ForecastSource) (period window : Int) (rate : Decimal) (createdAt : Int),
        (bench.perform call).store =
          (source.refreshTokenYields bench.store bench.ledger.snapshot period window rate
            createdAt).store := by
  cases call with
  | operate operation => exact .inl rfl
  | refresh source period createdAt => exact .inl (source.store_refreshWindows ..)
  | refreshWindow source period window createdAt =>
      left
      unfold perform WorkbenchCall.kept ForecastSource.forecastWindows
        ForecastSource.refreshWindow
      dsimp only
      cases source.forecast bench.ledger.snapshot period window createdAt <;> rfl
  | refreshTokenYields source period window rate createdAt =>
      exact .inr ⟨source, period, window, rate, createdAt, rfl⟩

/-! ## One call -/

/-- The rate lists the token, or it lists none. -/
def RateRecord.Covers (rate : RateRecord) (token : Token) : Prop :=
  token ∈ rate.whitelistedTokens ∨ rate.whitelistedTokens = []

/-- The store holds a yield of the token and the rate of its period and window. -/
structure ForecastStore.HoldsBoth (store : ForecastStore) (key : TokenKey) (rate : RateRecord)
    (yield : TokenYield) : Prop where
  rate : store.rates.get? key.window = some rate
  tokenYield : store.tokenYields.get? key = some yield

/-- The call keeps a rate at a time when the token is not whitelisted and the store holds a
yield of it, which stays. -/
structure WorkbenchCall.LeavesBehind (bench : Workbench) (call : WorkbenchCall) (key : TokenKey)
    (rate : RateRecord) (yield : TokenYield) : Prop where
  kept : ∃ forecast ∈ call.kept bench.ledger, forecast.task = key.window ∧ forecast.rate = rate
  unlisted : key.token ∉ bench.ledger.whitelistedTokens
  held : bench.store.tokenYields.get? key = some yield

theorem lastYield?_eq_some {yields : List TokenYield} {token : Token} {yield : TokenYield}
    (last : lastYield? yields token = some yield) : yield ∈ yields ∧ yield.token = token :=
  ⟨List.mem_reverse.mp (List.mem_of_find?_eq_some last), by
    simpa using List.find?_some last⟩

/-- Of forecasts that are kept, the last one of a period and window leaves behind what it does
not list. -/
theorem ForecastStore.listed_keepAll {whitelisted : List Token} {forecasts : List WindowForecast}
    (lists : ∀ forecast ∈ forecasts, forecast.Lists whitelisted) {store : ForecastStore}
    {key : TokenKey} {yield : TokenYield}
    (held : (forecasts.foldl keepForecast store).tokenYields.get? key = some yield) :
    (forecasts.foldl keepForecast store).rates.get? key.window =
        store.rates.get? key.window ∧ store.tokenYields.get? key = some yield ∨
      ∃ forecast ∈ forecasts, forecast.task = key.window ∧
        (forecasts.foldl keepForecast store).rates.get? key.window = some forecast.rate ∧
        (key.token ∈ whitelisted ∨ store.tokenYields.get? key = some yield) := by
  obtain ⟨token, window⟩ := key
  have laid := recordsAt_keepAll (fun forecast inside => (lists forecast inside).about) store window
  have member : ∀ forecast ∈ forecasts.filter fun forecast => forecast.task = window,
      forecast ∈ forecasts ∧ forecast.task = window := by
    intro forecast inside
    obtain ⟨isForecast, isTask⟩ := List.mem_filter.mp inside
    exact ⟨isForecast, of_decide_eq_true isTask⟩
  generalize forecasts.filter (fun forecast => forecast.task = window) = own at laid member
  have rate : (forecasts.foldl keepForecast store).rates.get? window =
      (own.getLast?.map WindowForecast.rate).or (store.rates.get? window) :=
    congrArg WindowRecords.rate laid
  have tokenYield : (forecasts.foldl keepForecast store).tokenYields.get? ⟨token, window⟩ =
      (lastYield? (own.flatMap WindowForecast.tokenYields) token).or
        (store.tokenYields.get? ⟨token, window⟩) :=
    congrFun (congrArg WindowRecords.tokenYields laid) token
  cases isLast : own.getLast? with
  | none =>
      rw [isLast] at rate
      rw [List.getLast?_eq_none_iff.mp isLast] at tokenYield
      exact .inl ⟨rate, tokenYield.symm.trans held⟩
  | some last =>
      rw [isLast] at rate
      obtain ⟨inside, isTask⟩ := member last (List.mem_of_getLast? isLast)
      refine .inr ⟨last, inside, isTask, rate, ?_⟩
      cases given : lastYield? (own.flatMap WindowForecast.tokenYields) token with
      | none =>
          rw [given] at tokenYield
          exact .inr (tokenYield.symm.trans held)
      | some yield =>
          obtain ⟨among, rfl⟩ := lastYield?_eq_some given
          obtain ⟨forecast, isOwn, isYield⟩ := List.mem_flatMap.mp among
          exact .inl ((lists forecast (member forecast isOwn).1).tokenYields yield isYield)

/-- A yield that is held after yields have been kept was among them or held before. -/
theorem ForecastStore.of_get?_keepTokenYields {yields : List TokenYield} {window : WindowKey}
    (about : ∀ yield ∈ yields, WindowKey.mk yield.period yield.window = window)
    {store : ForecastStore} {key : TokenKey} {yield : TokenYield}
    (held : (store.keepTokenYields yields).tokenYields.get? key = some yield) :
    window = key.window ∧ yield ∈ yields ∧ yield.token = key.token ∨
      store.tokenYields.get? key = some yield := by
  obtain ⟨token, other⟩ := key
  rw [get?_keepTokenYields about] at held
  split at held
  · next same =>
      cases given : lastYield? yields token with
      | none =>
          rw [given] at held
          exact .inr held
      | some last =>
          rw [given] at held
          obtain rfl := Option.some.inj held
          exact .inl ⟨same, lastYield?_eq_some given⟩
  · exact .inr held

namespace ForecastSource

variable {source : ForecastSource} {store noted : ForecastStore} {snapshot : Snapshot}
  {period window createdAt : Int} {rate : Decimal}

/-- Once a rate has been noted, there is one that covers the tokens to simulate. -/
theorem covers_of_noteRate
    (accepted : source.noteRate store snapshot period window rate createdAt = .ok noted) :
    ∃ record, noted.rates.get? ⟨period, window⟩ = some record ∧
      ∀ token ∈ tokensFor (store.rate? period window) snapshot, record.Covers token := by
  obtain ⟨present, rfl⟩ | ⟨absent, record, given, rfl⟩ := of_noteRate accepted
  · obtain ⟨record, held⟩ := Option.isSome_iff_exists.mp present
    refine ⟨record, held, fun token inside => ?_⟩
    rw [held] at inside
    unfold tokensFor at inside
    dsimp only at inside
    split at inside
    · next none => exact .inr (List.isEmpty_iff.mp none)
    · exact .inl inside
  · refine ⟨record, ?_, fun token inside => ?_⟩
    · rw [ForecastStore.keepRate, isAbout_of_givenRate given, Table.get?_set, if_pos rfl]
    · rw [absent] at inside
      exact .inl (whitelistedTokens_of_givenRate given ▸ inside)

/-- A yield that a refresh at a given rate has kept is covered by the rate of its period and
window. -/
theorem covered_refreshTokenYields {key : TokenKey} {yield : TokenYield}
    (held : (source.refreshTokenYields store snapshot period window rate
      createdAt).store.tokenYields.get? key = some yield)
    (new : store.tokenYields.get? key ≠ some yield) :
    ∃ record,
      (source.refreshTokenYields store snapshot period window rate createdAt).store.rates.get?
          key.window = some record ∧ record.Covers key.token := by
  rw [refreshTokenYields_eq] at held ⊢
  cases accepted : source.noteRate store snapshot period window rate createdAt with
  | error failure =>
      rw [accepted] at held
      exact absurd held new
  | ok noted =>
      obtain ⟨rates, isNoted, -⟩ := noteRate_frame accepted
      have unkept : noted.tokenYields.get? key ≠ some yield := by
        rw [isNoted]
        exact new
      obtain ⟨record, found, covers⟩ := covers_of_noteRate accepted
      simp only [accepted] at held ⊢
      cases returned : Forecast.tokenYields source.settings snapshot period window rate
          (tokensFor (store.rate? period window) snapshot) createdAt with
      | error failure =>
          simp only [returned] at held
          exact absurd held unkept
      | ok yields =>
          simp only [returned] at held ⊢
          obtain ⟨own, inside, isToken⟩ | before :=
            ForecastStore.of_get?_keepTokenYields (Forecast.isAbout_of_tokenYields returned) held
          · rw [ForecastStore.rates_keepTokenYields, ← own, ← isToken]
            exact ⟨record, found,
              covers _ (Forecast.token_mem_of_tokenYields returned yield inside)⟩
          · exact absurd before unkept

end ForecastSource

/-- After a call every yield has a rate.  If the rate does not cover the token, the store held
both before, or the call leaves the yield behind. -/
theorem Workbench.perform_covers {bench : Workbench}
    (rated : ∀ key yield, bench.store.tokenYields.get? key = some yield →
      ∃ rate, bench.store.rates.get? key.window = some rate)
    (call : WorkbenchCall) {key : TokenKey} {yield : TokenYield}
    (held : (bench.perform call).store.tokenYields.get? key = some yield) :
    ∃ rate, (bench.perform call).store.rates.get? key.window = some rate ∧
      (rate.Covers key.token ∨ bench.store.HoldsBoth key rate yield ∨
        call.LeavesBehind bench key rate yield) := by
  obtain kept | ⟨source, period, window, given, createdAt, refreshed⟩ := bench.perform_cases call
  · rw [kept] at held ⊢
    obtain ⟨sameRate, before⟩ | ⟨forecast, inside, isTask, isRate, listed⟩ :=
      ForecastStore.listed_keepAll call.lists_of_mem_kept held
    · obtain ⟨rate, rateHeld⟩ := rated key yield before
      exact ⟨rate, sameRate.trans rateHeld, .inr (.inl ⟨rateHeld, before⟩)⟩
    · refine ⟨forecast.rate, isRate, ?_⟩
      have isListed := (call.lists_of_mem_kept forecast inside).rate
      by_cases whitelisted : key.token ∈ bench.ledger.whitelistedTokens
      · exact .inl (.inl (isListed ▸ whitelisted))
      · exact .inr (.inr ⟨⟨forecast, inside, isTask, rfl⟩, whitelisted,
          listed.resolve_left whitelisted⟩)
  · rw [refreshed] at held ⊢
    by_cases before : bench.store.tokenYields.get? key = some yield
    · obtain ⟨rate, rateHeld⟩ := rated key yield before
      obtain ⟨rates, tokenYields, frame, keeps⟩ := source.refreshTokenYields_frame bench.store
        bench.ledger.snapshot period window given createdAt
      refine ⟨rate, ?_, .inr (.inl ⟨rateHeld, before⟩)⟩
      rw [frame]
      exact keeps _ rate rateHeld
    · obtain ⟨rate, found, covers⟩ := ForecastSource.covered_refreshTokenYields held before
      exact ⟨rate, found, .inl covers⟩

/-! ## Calls in a row -/

namespace Workbench

/-- One of the calls has left the yield behind, beside the given rate. -/
def LeftBehind (bench : Workbench) (calls : List WorkbenchCall) (key : TokenKey)
    (rate : RateRecord) (yield : TokenYield) : Prop :=
  ∃ earlier call later, calls = earlier ++ call :: later ∧
    call.LeavesBehind (bench.run earlier) key rate yield

theorem LeftBehind.append {bench : Workbench} {calls : List WorkbenchCall} {key : TokenKey}
    {rate : RateRecord} {yield : TokenYield} (left : bench.LeftBehind calls key rate yield)
    (call : WorkbenchCall) : bench.LeftBehind (calls ++ [call]) key rate yield := by
  obtain ⟨earlier, leaves, later, rfl, leftBehind⟩ := left
  exact ⟨earlier, leaves, later ++ [call], by simp, leftBehind⟩

/-- From a store without yields, calls in any order lead to yields that all have a rate, which
covers the token unless one of the calls has left the yield behind. -/
theorem run_covers {bench : Workbench}
    (none : ∀ key, bench.store.tokenYields.get? key = none) (calls : List WorkbenchCall)
    {key : TokenKey} {yield : TokenYield}
    (held : (bench.run calls).store.tokenYields.get? key = some yield) :
    ∃ rate, (bench.run calls).store.rates.get? key.window = some rate ∧
      (rate.Covers key.token ∨ bench.LeftBehind calls key rate yield) := by
  induction calls using List.reverseRecOn generalizing key yield with
  | nil =>
      rw [run_nil, none] at held
      contradiction
  | append_singleton calls call ih =>
      rw [run_append, run_singleton] at held ⊢
      have rated : ∀ key yield, (bench.run calls).store.tokenYields.get? key = some yield →
          ∃ rate, (bench.run calls).store.rates.get? key.window = some rate := by
        intro key yield held
        obtain ⟨rate, rateHeld, -⟩ := ih held
        exact ⟨rate, rateHeld⟩
      obtain ⟨rate, found, covers | both | leaves⟩ := perform_covers rated call held
      · exact ⟨rate, found, .inl covers⟩
      · obtain ⟨same, rateHeld, covers | left⟩ := ih both.tokenYield
        · obtain rfl := Option.some.inj (rateHeld.symm.trans both.rate)
          exact ⟨same, found, .inl covers⟩
        · obtain rfl := Option.some.inj (rateHeld.symm.trans both.rate)
          exact ⟨same, found, .inr (left.append call)⟩
      · exact ⟨rate, found, .inr ⟨calls, call, [], rfl, leaves⟩⟩

/-- From an empty store, operations of the ledger and refreshes in any order lead to yields
that all have a rate of their period and window.  The rate lists the token, except if it lists
none or if a refresh has kept it at a time when the token was not whitelisted and the yield
was there already. -/
theorem yields_listed_unless_left_behind (ledger : Ledger) (calls : List WorkbenchCall)
    (key : TokenKey) (yield : TokenYield)
    (held : (run ⟨ledger, .empty⟩ calls).store.tokenYields.get? key = some yield) :
    ∃ rate, (run ⟨ledger, .empty⟩ calls).store.rates.get? key.window = some rate ∧
      (key.token ∉ rate.whitelistedTokens ↔
        rate.whitelistedTokens = [] ∨ LeftBehind ⟨ledger, .empty⟩ calls key rate yield) := by
  obtain ⟨rate, found, covers⟩ := run_covers (fun _ => rfl) calls held
  refine ⟨rate, found, ?_, ?_⟩
  · intro unlisted
    rcases covers with (listed | nothing) | left
    · exact absurd listed unlisted
    · exact .inl nothing
    · exact .inr left
  · rintro (nothing | ⟨earlier, call, later, -, leaves⟩)
    · rw [nothing]
      exact List.not_mem_nil
    · obtain ⟨forecast, inside, -, rfl⟩ := leaves.kept
      rw [(call.lists_of_mem_kept forecast inside).rate]
      exact leaves.unlisted

/-- Two tokens are whitelisted and forecast, and one of them is dewhitelisted before the window
is refreshed again. -/
def oneDewhitelisted : List WorkbenchCall :=
  [.operate (.whitelist "0xs" TokenSetting.unregistered 1),
    .operate (.whitelist "0xt" TokenSetting.unregistered 2),
    .refreshWindow ForecastSource.shortWindows 19628 2 3,
    .operate (.dewhitelist "0xt"),
    .refreshWindow ForecastSource.shortWindows 19628 2 4]

/-- The yield of the dewhitelisted token has been left behind. -/
theorem dewhitelisted_yield_left_behind :
    let key : TokenKey := ⟨"0xt", ⟨19628, 2⟩⟩
    let bench := run ⟨.empty none, .empty⟩ oneDewhitelisted
    ∃ yield rate, bench.store.tokenYields.get? key = some yield ∧
      bench.store.rates.get? key.window = some rate ∧ rate.whitelistedTokens = ["0xs"] ∧
      LeftBehind ⟨.empty none, .empty⟩ oneDewhitelisted key rate yield := by
  intro key bench
  have present : (bench.store.tokenYields.get? key).isSome := by decide +kernel
  have listed : (bench.store.rates.get? key.window).map RateRecord.whitelistedTokens =
      some ["0xs"] := by decide +kernel
  obtain ⟨yield, held⟩ := Option.isSome_iff_exists.mp present
  obtain ⟨rate, found, unlisted⟩ :=
    yields_listed_unless_left_behind (.empty none) oneDewhitelisted key yield held
  have isList : rate.whitelistedTokens = ["0xs"] := by
    rw [show bench.store.rates.get? key.window = some rate from found] at listed
    exact Option.some.inj listed
  rw [isList] at unlisted
  refine ⟨yield, rate, held, found, isList, ?_⟩
  exact (unlisted.mp (by decide)).resolve_left (by decide)

/-- A window is forecast while nothing is whitelisted, and then a token is whitelisted and
forecast at a given rate. -/
def whitelistedLater : List WorkbenchCall :=
  [.refreshWindow ForecastSource.shortWindows 19628 2 3,
    .operate (.whitelist "0xt" TokenSetting.unregistered 4),
    .refreshTokenYields ForecastSource.shortWindows 19628 2 .hundred 5]

theorem not_leftBehind_whitelistedLater (key : TokenKey) (rate : RateRecord)
    (yield : TokenYield) :
    ¬LeftBehind ⟨.empty none, .empty⟩ whitelistedLater key rate yield := by
  rintro ⟨earlier, call, later, parts, leaves⟩
  obtain ⟨forecast, inside, -⟩ := leaves.kept
  -- only the first call keeps forecasts, and the store is empty before it
  rcases earlier with _ | ⟨first, _ | ⟨second, _ | ⟨third, others⟩⟩⟩ <;>
    simp only [whitelistedLater, List.nil_append, List.cons_append, List.cons.injEq] at parts
  · exact absurd leaves.held nofun
  · obtain ⟨-, rfl, -⟩ := parts
    exact absurd inside List.not_mem_nil
  · obtain ⟨-, -, rfl, -⟩ := parts
    exact absurd inside List.not_mem_nil
  · simp at parts

/-- Not every yield of a store has a rate that lists its token, not even every yield that no
call has left behind. -/
theorem not_all_yields_listed :
    (¬∀ (ledger : Ledger) (calls : List WorkbenchCall) (key : TokenKey) (yield : TokenYield),
      (run ⟨ledger, .empty⟩ calls).store.tokenYields.get? key = some yield →
        ∃ rate, (run ⟨ledger, .empty⟩ calls).store.rates.get? key.window = some rate ∧
          key.token ∈ rate.whitelistedTokens) ∧
    ¬∀ (ledger : Ledger) (calls : List WorkbenchCall) (key : TokenKey) (yield : TokenYield),
      (run ⟨ledger, .empty⟩ calls).store.tokenYields.get? key = some yield →
        ∃ rate, (run ⟨ledger, .empty⟩ calls).store.rates.get? key.window = some rate ∧
          (key.token ∈ rate.whitelistedTokens ∨
            LeftBehind ⟨ledger, .empty⟩ calls key rate yield) := by
  constructor
  · intro listed
    let bench := run ⟨.empty none, .empty⟩ oneDewhitelisted
    have present : (bench.store.tokenYields.get? ⟨"0xt", ⟨19628, 2⟩⟩).isSome := by decide +kernel
    have unlisted : ∀ rate ∈ bench.store.rates.get? ⟨19628, 2⟩,
        "0xt" ∉ rate.whitelistedTokens := by decide +kernel
    obtain ⟨yield, held⟩ := Option.isSome_iff_exists.mp present
    obtain ⟨rate, found, isListed⟩ := listed (.empty none) oneDewhitelisted _ yield held
    exact unlisted rate found isListed
  · intro excused
    let bench := run ⟨.empty none, .empty⟩ whitelistedLater
    have present : (bench.store.tokenYields.get? ⟨"0xt", ⟨19628, 2⟩⟩).isSome := by decide +kernel
    have unlisted : ∀ rate ∈ bench.store.rates.get? ⟨19628, 2⟩,
        "0xt" ∉ rate.whitelistedTokens := by decide +kernel
    obtain ⟨yield, held⟩ := Option.isSome_iff_exists.mp present
    obtain ⟨rate, found, isListed | left⟩ :=
      excused (.empty none) whitelistedLater _ yield held
    · exact unlisted rate found isListed
    · exact not_leftBehind_whitelistedLater _ rate yield left

end Workbench

end DepositYield
