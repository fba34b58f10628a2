import DepositYield.Proofs.Forecast.Safety
import DepositYield.Proofs.Ledger.Whitelist
import DepositYield.Proofs.Yield.Separation

/-!
# Yields of some of the tokens

The silo that tokens are simulated in depends on the gauge tokens among them only: what is
neither bean nor gauge token counts whether it is simulated or not.  In that silo, or
before the seed gauge, each token is followed on its own.  So tokens can be left out of a
simulation, as long as none of them is a gauge token, and the others keep their yields.
-/

namespace DepositYield

open Decimal

/-! ## Assets that are followed -/

theorem Asset.ofIndex_index {count : Nat} {asset : Asset} (within : asset.Within count) :
    Asset.ofIndex count asset.index = .ok asset := by
  cases asset with
  | reference => simp [ofIndex, index]; omega
  | nonGauge => simp [ofIndex, index]; omega
  | gauge position =>
      have below := within position rfl
      change ofIndex count (position : Int) = .ok (.gauge position)
      unfold ofIndex
      rw [if_neg (by omega), if_neg (by omega), if_neg (by omega)]
      rfl

namespace GaugeScenario

variable {scenario : GaugeScenario} {assets : List Asset} {staticSeeds : List (Option Written)}
  {context : Context} {drift : RatioDrift} {seasons : Nat} {precision seedPrecision : Int}

/-- Assets that are given by their numbers are found again. -/
theorem resolveAssets_following (within : ∀ asset ∈ assets, asset.Within scenario.tokenCount) :
    (scenario.following (assets.map Asset.index) staticSeeds).resolveAssets = .ok assets := by
  refine mapM_eq_ok_iff.mpr (List.forall₂_map_left_iff.mpr (List.forall₂_same.mpr ?_))
  exact fun asset inside => Asset.ofIndex_index (within asset inside)

theorem depositors_following (numbers : List Int) (seeded : staticSeeds.length = assets.length) :
    (scenario.following numbers staticSeeds).depositors assets =
      List.zipWith
        (fun asset seeds => Depositor.opening asset (some (seeds.getD (.value zero))))
        assets staticSeeds := by
  refine List.ext_getElem? fun position => ?_
  rw [getElem?_depositors, List.getElem?_zipWith]
  cases isAsset : assets[position]? with
  | none => rfl
  | some asset =>
      have inside : position < staticSeeds.length :=
        seeded ▸ (List.getElem?_eq_some_iff.mp isAsset).1
      have present : staticSeeds ≠ [] := List.ne_nil_of_length_pos (by omega)
      have held : (scenario.following numbers staticSeeds).seedsAt position =
          some (staticSeeds[position].getD (.value zero)) := by
        unfold seedsAt following
        simp [present, List.getElem?_eq_getElem inside]
      rw [held, List.getElem?_eq_getElem inside]
      rfl

/-- Assets are simulated in a silo if it gets through its seasons and each of them can be
measured by their growths. -/
theorem simulate_following_eq_ok_iff (within : ∀ asset ∈ assets, asset.Within scenario.tokenCount)
    (seeded : staticSeeds.length = assets.length)
    (asked : YieldFailure.context precision = .ok context) {yields : List AssetGrowth} :
    (scenario.following (assets.map Asset.index) staticSeeds).simulate drift seasons precision
        seedPrecision = .ok yields ↔
      ∃ growths, scenario.growths context drift seasons seedPrecision = .ok growths ∧
        List.Forall₂
          (fun depositor yield =>
            Depositor.measure context scenario.earnedBeans (.ofInt seedPrecision) growths
              depositor = .ok yield)
          (List.zipWith
            (fun asset seeds => Depositor.opening asset (some (seeds.getD (.value zero))))
            assets staticSeeds)
          yields := by
  unfold simulate
  rw [resolveAssets_following within, asked]
  refine simulateAssets_eq_ok_iff.trans ?_
  rw [growths_following, depositors_following _ seeded]
  rfl

end GaugeScenario

namespace Forecast

variable {context : Context} {settings : Settings} {snapshot : Snapshot}

/-! ## Scenarios of some tokens -/

@[simp]
theorem gaugeTokens_gaugeTokens (tokens : List Token) :
    gaugeTokens settings snapshot (gaugeTokens settings snapshot tokens) =
      gaugeTokens settings snapshot tokens :=
  List.filter_eq_self.mpr fun _ inside => (List.mem_filter.mp inside).2

theorem mapM_fixedSeeds_zip (asset : Token → Asset) (tokens : List Token) :
    (((tokens.map asset).zip tokens).mapM fun (asset, token) =>
        fixedSeeds context snapshot asset token) =
      tokens.mapM fun token => fixedSeeds context snapshot (asset token) token := by
  rw [← List.map_prod_right_eq_zip, List.mapM_map]
  rfl

/-- Gauge tokens have no fixed seeds. -/
theorem mapM_fixedSeeds_gaugeTokens (tokens : List Token) :
    let gauges := gaugeTokens settings snapshot tokens
    (gauges.mapM fun token => fixedSeeds context snapshot (assetOf settings gauges token) token) =
      .ok (gauges.map fun _ => none) := by
  refine mapM_eq_ok_iff.mpr (List.forall₂_map_right_iff.mpr (List.forall₂_same.mpr ?_))
  intro token inside
  unfold assetOf gaugePosition?
  rw [if_neg (mem_gaugeTokens.mp inside).2.1, if_pos inside]
  rfl

/-- The scenario of tokens is that of the gauge tokens among them, in which all of the
tokens are followed. -/
theorem gaugeScenario_eq (context : Context) (settings : Settings) (snapshot : Snapshot)
    (tokens : List Token) (earnedBeans : Decimal) :
    let gauges := gaugeTokens settings snapshot tokens
    gaugeScenario context settings snapshot tokens earnedBeans = do
      let staticSeeds ← tokens.mapM fun token =>
        fixedSeeds context snapshot (assetOf settings gauges token) token
      let silo ← gaugeScenario context settings snapshot gauges earnedBeans
      return silo.following ((tokens.map (assetOf settings gauges)).map Asset.index)
        (staticSeeds.map fun seeds => seeds.map .value) := by
  unfold gaugeScenario
  simp only [gaugeTokens_gaugeTokens, mapM_fixedSeeds_zip, mapM_fixedSeeds_gaugeTokens, bind_assoc,
    pure_bind]
  rfl

theorem start_of_gaugeScenario {tokens : List Token} {earnedBeans : Decimal}
    {scenario : GaugeScenario}
    (made : gaugeScenario context settings snapshot tokens earnedBeans = .ok scenario) :
    scenario.earnedBeans = earnedBeans ∧
      scenario.tokenCount = (gaugeTokens settings snapshot tokens).length := by
  have settled : Settles (fun _ => True)
      (fun scenario => scenario.earnedBeans = earnedBeans ∧
        scenario.tokenCount = (gaugeTokens settings snapshot tokens).length)
      (gaugeScenario context settings snapshot tokens earnedBeans) := by
    refine (Settles.any _).bind fun _ _ => ?_
    refine (Settles.mapM fun _ _ => Settles.any _).bind fun gaugePoints pointed => ?_
    iterate 10 refine (Settles.any _).bind fun _ _ => ?_
    exact ⟨rfl, pointed.length_eq.symm⟩
  rwa [made] at settled

/-! ## Tokens that are followed -/

/-- The depositor of a token. -/
def tokenDepositor (context : Context) (settings : Settings) (snapshot : Snapshot)
    (gauges : List Token) (token : Token) : Except Signal Depositor :=
  let asset := assetOf settings gauges token
  (fun seeds => .opening asset (some ((seeds.map Written.value).getD (.value zero)))) <$>
    fixedSeeds context snapshot asset token

/-- The yield of a token over seasons of the given growths of the silo, in percent. -/
def gaugeGrowth (context : Context) (settings : Settings) (snapshot : Snapshot)
    (gauges : List Token) (rate : Decimal) (growths : List SeasonGrowth) (token : Token) :
    Except YieldFailure Growth := do
  let depositor ← tokenDepositor context settings snapshot gauges token
  let yield ← depositor.measure context rate (.ofInt settings.simulation.seedPrecision) growths
  return yield.growth

/-- How the yield of a token is calculated, once everything has been that the tokens
share. -/
def growthModel (context : Context) (settings : Settings) (snapshot : Snapshot) (period : Int)
    (rate : Decimal) (gauges : List Token) :
    Except YieldFailure (Token → Except YieldFailure Growth) := do
  if period < settings.gauge.activationPeriod then
    let seedsPerBean ← seedsPerValue context snapshot settings.reference
    return fun token => preGaugeGrowth context settings snapshot rate seedsPerBean token
  else
    let silo ← gaugeScenario context settings snapshot gauges rate
    let growths ← silo.growths context (.constant settings.gauge.ratioDrift)
      settings.simulation.horizon.toNat settings.simulation.seedPrecision
    return gaugeGrowth context settings snapshot gauges rate growths

theorem mapM_tokenDepositor (gauges tokens : List Token) :
    tokens.mapM (tokenDepositor context settings snapshot gauges) =
      (fun staticSeeds =>
          (List.zipWith
            (fun asset seeds => Depositor.opening asset (some (seeds.getD (.value zero))))
            (tokens.map (assetOf settings gauges))
            (staticSeeds.map fun seeds => seeds.map .value))) <$>
        tokens.mapM fun token =>
          fixedSeeds context snapshot (assetOf settings gauges token) token := by
  unfold tokenDepositor
  rw [mapM_map_eq]
  congr 1
  funext staticSeeds
  rw [List.zipWith_map]

theorem mapM_gaugeGrowth_eq_ok_iff {gauges tokens : List Token} {rate : Decimal}
    {seasons : List SeasonGrowth} {growths : List Growth} :
    tokens.mapM (gaugeGrowth context settings snapshot gauges rate seasons) = .ok growths ↔
      ∃ depositors, tokens.mapM (tokenDepositor context settings snapshot gauges) =
          .ok depositors ∧
        ∃ yields,
          List.Forall₂
            (fun depositor yield =>
              Depositor.measure context rate (.ofInt settings.simulation.seedPrecision) seasons
                depositor = .ok yield)
            depositors yields ∧
          yields.map AssetGrowth.growth = growths := by
  simp only [mapM_eq_ok_iff, ← List.forall₂_eq_eq_eq, List.forall₂_map_left_iff,
    ← forall₂_comp_iff]
  refine Iff.of_eq (congrFun₂ (congrArg List.Forall₂ ?_) tokens growths)
  funext token growth
  simp only [gaugeGrowth, bind_eq_ok_iff, liftM_eq_ok_iff, Relation.Comp, pure, Except.pure,
    Except.ok.injEq]

/-- Tokens are simulated in their silo if it gets through its seasons and the depositor of
each of them can be measured by their growths. -/
theorem simulate_tokens_eq_ok_iff {tokens : List Token} {rate : Decimal} {silo : GaugeScenario}
    {staticSeeds : List (Option Decimal)} {yields : List AssetGrowth}
    (asked : Forecast.context settings = .ok context)
    (made : gaugeScenario context settings snapshot (gaugeTokens settings snapshot tokens) rate =
      .ok silo)
    (seeded : (tokens.mapM fun token => fixedSeeds context snapshot
      (assetOf settings (gaugeTokens settings snapshot tokens) token) token) = .ok staticSeeds) :
    let assets := tokens.map (assetOf settings (gaugeTokens settings snapshot tokens))
    (silo.following (assets.map Asset.index)
        (staticSeeds.map fun seeds => seeds.map .value)).simulate
        (.constant settings.gauge.ratioDrift) settings.simulation.horizon.toNat
        settings.simulation.decimalPrecision settings.simulation.seedPrecision = .ok yields ↔
      ∃ seasons, silo.growths context (.constant settings.gauge.ratioDrift)
          settings.simulation.horizon.toNat settings.simulation.seedPrecision = .ok seasons ∧
        ∃ depositors, tokens.mapM (tokenDepositor context settings snapshot
            (gaugeTokens settings snapshot tokens)) = .ok depositors ∧
          List.Forall₂
            (fun depositor yield =>
              Depositor.measure context rate (.ofInt settings.simulation.seedPrecision) seasons
                depositor = .ok yield)
            depositors yields := by
  intro assets
  obtain ⟨earned, count⟩ := start_of_gaugeScenario made
  rw [gaugeTokens_gaugeTokens] at count
  have within : ∀ asset ∈ assets, asset.Within silo.tokenCount := by
    intro asset inside
    obtain ⟨token, -, rfl⟩ := List.mem_map.mp inside
    exact count ▸ assetOf_within settings _ token
  have matched : (staticSeeds.map fun seeds => seeds.map Written.value).length = assets.length := by
    rw [List.length_map, List.length_map, (mapM_eq_ok_iff.mp seeded).length_eq]
  rw [GaugeScenario.simulate_following_eq_ok_iff within matched asked, mapM_tokenDepositor, seeded,
    earned]
  simp only [Except.map_ok, Except.ok.injEq, exists_eq_left', assets]

/-- Under the seed gauge tokens have growths if their silo gets through its seasons and
each of them can be followed. -/
theorem gaugeGrowths_eq_ok_iff {tokens : List Token} {rate : Decimal} {growths : List Growth}
    (asked : Forecast.context settings = .ok context) :
    gaugeGrowths context settings snapshot rate tokens = .ok growths ↔
      ∃ silo, gaugeScenario context settings snapshot (gaugeTokens settings snapshot tokens)
          rate = .ok silo ∧
        ∃ seasons, silo.growths context (.constant settings.gauge.ratioDrift)
            settings.simulation.horizon.toNat settings.simulation.seedPrecision = .ok seasons ∧
          tokens.mapM (gaugeGrowth context settings snapshot
            (gaugeTokens settings snapshot tokens) rate seasons) = .ok growths := by
  simp only [gaugeGrowths, gaugeScenario_eq context settings snapshot tokens, bind_eq_ok_iff,
    liftM_eq_ok_iff, mapM_gaugeGrowth_eq_ok_iff]
  constructor
  · rintro ⟨_, ⟨staticSeeds, seeded, silo, made, followed⟩, yields, simulated, named⟩
    obtain rfl := Except.ok.inj followed
    obtain ⟨seasons, passed, depositors, opened, measured⟩ :=
      (simulate_tokens_eq_ok_iff asked made seeded).mp simulated
    exact ⟨silo, made, seasons, passed, depositors, opened, yields, measured,
      Except.ok.inj named⟩
  · rintro ⟨silo, made, seasons, passed, depositors, opened, yields, measured, rfl⟩
    have converted := opened
    rw [mapM_tokenDepositor, map_eq_ok_iff] at converted
    obtain ⟨staticSeeds, seeded, -⟩ := converted
    exact ⟨_, ⟨staticSeeds, seeded, silo, made, rfl⟩, yields,
      (simulate_tokens_eq_ok_iff asked made seeded).mpr
        ⟨seasons, passed, depositors, opened, measured⟩, rfl⟩

theorem mapM_liftM_eq_ok_iff {tokens : List Token} {growth : Token → Except Signal Growth}
    {growths : List Growth} :
    (tokens.mapM fun token => (liftM (growth token) : Except YieldFailure Growth)) =
        .ok growths ↔
      tokens.mapM growth = .ok growths := by
  simp only [mapM_eq_ok_iff, liftM_eq_ok_iff]

/-- Before the seed gauge and under it, tokens have growths if everything that they share
can be calculated and so can the growth of each of them. -/
theorem growths_eq_ok_iff {tokens : List Token} {period : Int} {rate : Decimal}
    {growths : List Growth} (asked : Forecast.context settings = .ok context) :
    (if period < settings.gauge.activationPeriod then
        liftM (preGaugeGrowths context settings snapshot rate tokens)
      else gaugeGrowths context settings snapshot rate tokens) = .ok growths ↔
      ∃ model, growthModel context settings snapshot period rate
          (gaugeTokens settings snapshot tokens) = .ok model ∧
        tokens.mapM model = .ok growths := by
  unfold growthModel
  split
  · simp only [preGaugeGrowths, bind_eq_ok_iff, liftM_eq_ok_iff]
    constructor
    · rintro ⟨seedsPerBean, converted, grown⟩
      exact ⟨_, ⟨seedsPerBean, converted, rfl⟩, mapM_liftM_eq_ok_iff.mpr grown⟩
    · rintro ⟨_, ⟨seedsPerBean, converted, made⟩, grown⟩
      obtain rfl := Except.ok.inj made
      exact ⟨seedsPerBean, converted, mapM_liftM_eq_ok_iff.mp grown⟩
  · simp only [gaugeGrowths_eq_ok_iff asked, bind_eq_ok_iff, liftM_eq_ok_iff]
    constructor
    · rintro ⟨silo, made, seasons, passed, grown⟩
      exact ⟨_, ⟨silo, made, seasons, passed, rfl⟩, grown⟩
    · rintro ⟨_, ⟨silo, made, seasons, passed, shared⟩, grown⟩
      obtain rfl := Except.ok.inj shared
      exact ⟨silo, made, seasons, passed, grown⟩

/-! ## Tokens that are left out -/

/-- The yield of a token for one period and window, tagged with all of them. -/
def tagged (period window createdAt : Int) (token : Token) (growth : Growth) : TokenYield where
  token
  period
  window
  growth
  createdAt

/-- Tokens have yields if everything that they share can be calculated and so can the
growth of each of them. -/
theorem tokenYields_eq_ok_iff {tokens : List Token} (any : tokens ≠ []) {rate : Decimal}
    {period window createdAt : Int} {yields : List TokenYield} :
    tokenYields settings snapshot period window rate tokens createdAt = .ok yields ↔
      ∃ context, Forecast.context settings = .ok context ∧
        ∃ model, growthModel context settings snapshot period rate
            (gaugeTokens settings snapshot tokens) = .ok model ∧
          (tokens.mapM fun token => tagged period window createdAt token <$> model token) =
            .ok yields := by
  unfold tokenYields
  rw [if_neg (by simpa using any), bind_eq_ok_iff]
  refine exists_congr fun context => and_congr_right fun asked => ?_
  calc
    _ ↔ ∃ growths,
        (if period < settings.gauge.activationPeriod then
            liftM (preGaugeGrowths context settings snapshot rate tokens)
          else gaugeGrowths context settings snapshot rate tokens) = .ok growths ∧
          List.zipWith (tagged period window createdAt) tokens growths = yields := by
      split <;> simp only [bind_eq_ok_iff, pure, Except.pure, Except.ok.injEq] <;> rfl
    _ ↔ _ := by
      simp only [growths_eq_ok_iff asked, mapM_map_eq, map_eq_ok_iff]
      constructor
      · rintro ⟨growths, ⟨model, shared, grown⟩, rfl⟩
        exact ⟨model, shared, growths, grown, rfl⟩
      · rintro ⟨model, shared, growths, grown, rfl⟩
        exact ⟨growths, ⟨model, shared, grown⟩, rfl⟩

/-- Tokens that are no gauge tokens can be left out of a simulation, and the others keep
their yields. -/
theorem tokenYields_filter {tokens : List Token} (keep : Token → Bool)
    (kept : ∀ token ∈ gaugeTokens settings snapshot tokens, keep token) {rate : Decimal}
    {period window createdAt : Int} {yields : List TokenYield}
    (returned : tokenYields settings snapshot period window rate tokens createdAt = .ok yields) :
    yields.map TokenYield.token = tokens ∧
      tokenYields settings snapshot period window rate (tokens.filter keep) createdAt =
        .ok (yields.filter fun yield => keep yield.token) := by
  by_cases any : tokens = []
  · subst any
    obtain rfl := Except.ok.inj returned
    exact ⟨rfl, rfl⟩
  obtain ⟨context, asked, model, shared, calculated⟩ := (tokenYields_eq_ok_iff any).mp returned
  have each := mapM_eq_ok_iff.mp calculated
  have named : ∀ token yield,
      tagged period window createdAt token <$> model token = .ok yield → yield.token = token := by
    intro token yield calculated
    obtain ⟨growth, -, rfl⟩ := map_eq_ok_iff.mp calculated
    rfl
  have sameGauges : gaugeTokens settings snapshot (tokens.filter keep) =
      gaugeTokens settings snapshot tokens := by
    unfold gaugeTokens at kept ⊢
    rw [List.filter_comm, List.filter_eq_self.mpr kept]
  have eachKept : List.Forall₂
      (fun token yield => tagged period window createdAt token <$> model token = .ok yield)
      (tokens.filter keep) (yields.filter fun yield => keep yield.token) := by
    refine List.rel_filter ?_ each
    intro token yield calculated
    change keep token = true ↔ keep yield.token = true
    rw [named token yield calculated]
  refine ⟨?_, ?_⟩
  · rw [← List.forall₂_eq_eq_eq, List.forall₂_map_left_iff]
    exact (each.imp named).flip
  by_cases anyKept : tokens.filter keep = []
  · rw [anyKept] at eachKept ⊢
    rw [List.forall₂_nil_left_iff.mp eachKept]
    rfl
  · rw [tokenYields_eq_ok_iff anyKept, sameGauges]
    exact ⟨context, asked, model, shared, mapM_eq_ok_iff.mpr eachKept⟩

/-! ## Dewhitelisted tokens -/

/-- Yields are calculated without regard to the whitelist of a snapshot. -/
theorem tokenYields_dewhitelist (ledger : Ledger) (token : Token) :
    tokenYields settings (ledger.dewhitelist token).snapshot =
      tokenYields settings ledger.snapshot := by
  unfold Ledger.dewhitelist
  split <;> rfl

/-- When a token is dewhitelisted that is no gauge token, all others keep their yields,
before the seed gauge and under it. -/
theorem yields_dewhitelist (v31Period : Option Int) (operations : List Operation)
    (settings : Settings) (token : Token)
    (noGauge : token = settings.reference ∨
      (((Ledger.empty v31Period).run operations).setting token).isGauge = false)
    (period window : Int) (rate : Decimal) (createdAt : Int) (yields : List TokenYield)
    (returned :
      let before := ((Ledger.empty v31Period).run operations).snapshot
      tokenYields settings before period window rate before.whitelistedTokens createdAt =
        .ok yields) :
    let before := ((Ledger.empty v31Period).run operations).snapshot
    let after := (((Ledger.empty v31Period).run operations).dewhitelist token).snapshot
    after.whitelistedTokens = before.whitelistedTokens.filter (· ≠ token) ∧
      yields.map TokenYield.token = before.whitelistedTokens ∧
      tokenYields settings after period window rate after.whitelistedTokens createdAt =
        .ok (yields.filter fun yield => yield.token ≠ token) := by
  intro before after
  have once := (Ledger.listsOnce_empty v31Period).run operations
  have listed : after.whitelistedTokens = before.whitelistedTokens.filter (· ≠ token) :=
    once.whitelistedTokens_dewhitelist token
  have kept : ∀ gauge ∈ gaugeTokens settings before before.whitelistedTokens, gauge ≠ token := by
    rintro gauge inside rfl
    obtain ⟨-, other, isGauge⟩ := mem_gaugeTokens.mp inside
    rcases noGauge with isBean | plain
    · exact other isBean
    · exact absurd (isGauge.symm.trans plain) (by decide)
  obtain ⟨named, filtered⟩ := tokenYields_filter (fun other => other ≠ token)
    (fun gauge inside => decide_eq_true (kept gauge inside)) returned
  refine ⟨listed, named, ?_⟩
  rw [listed, tokenYields_dewhitelist]
  exact filtered

/-- The bean, a gauge token and another token are whitelisted and deposited, and the last
of them germinates, too. -/
def threeWhitelisted : List Operation :=
  [.whitelist Settings.standard.reference TokenSetting.unregistered 1,
    .whitelist "0xlp" { TokenSetting.unregistered with gaugePoints := some 100 } 1,
    .whitelist "0xt" { TokenSetting.unregistered with stalkEarnedPerSeason := 2000000 } 1,
    .putDeposit ⟨"0xa", Settings.standard.reference, .season 1⟩ 100 100 1,
    .putDeposit ⟨"0xa", "0xlp", .season 1⟩ 50 50 1,
    .putDeposit ⟨"0xb", "0xt", .season 1⟩ 30 30 1,
    .germinate "0xt" 1 7]

/-- The bean and the gauge token keep their yields without the third token. -/
theorem threeWhitelisted_yields_dewhitelist :
    let ledger := (Ledger.empty none).run threeWhitelisted
    let after := (ledger.dewhitelist "0xt").snapshot
    ∃ yields, tokenYields threeSeasons ledger.snapshot 19628 24 .hundred
        ledger.snapshot.whitelistedTokens 0 = .ok yields ∧
      yields.map TokenYield.token = [Settings.standard.reference, "0xlp", "0xt"] ∧
      tokenYields threeSeasons after 19628 24 .hundred after.whitelistedTokens 0 =
        .ok (yields.filter fun yield => yield.token ≠ "0xt") := by
  intro ledger after
  have settled : (tokenYields threeSeasons ledger.snapshot 19628 24 .hundred
      ledger.snapshot.whitelistedTokens 0).isOk := by decide +kernel
  have whitelisted : ledger.snapshot.whitelistedTokens =
      [Settings.standard.reference, "0xlp", "0xt"] := by decide +kernel
  obtain ⟨yields, result⟩ := exists_ok_of_isOk settled
  obtain ⟨-, named, kept⟩ := yields_dewhitelist none threeWhitelisted threeSeasons "0xt"
    (.inr (by decide +kernel)) 19628 24 .hundred 0 yields result
  exact ⟨yields, result, named.trans whitelisted, kept⟩

end Forecast

end DepositYield
