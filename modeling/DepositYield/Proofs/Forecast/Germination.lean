import DepositYield.Proofs.Coincidence
import DepositYield.Proofs.Forecast.Safety
import DepositYield.Proofs.Yield.Germination

/-!
# Only the opposite parity germinates

Of each token a forecast reads the germinating value of the parity opposite to that of the
ledger.  The bucket of the ledger's own parity is idle: it is converted, too, but no yield
depends on it.  Only a conversion that overflows can show, and only that of an amount of a
million digits does.
-/

namespace DepositYield

open Decimal Decimal.Context

/-! ## Buckets -/

/-- One of the parts of a germinating value is the bucket of a period, the other one that of
the next period. -/
theorem Germination.bucket_cases (period : Int) :
    (period % 2 = 0 ∧ ∀ germination : Germination,
        germination.bucket period = germination.even ∧
          germination.bucket (period + 1) = germination.odd) ∨
      (period % 2 ≠ 0 ∧ ∀ germination : Germination,
        germination.bucket period = germination.odd ∧
          germination.bucket (period + 1) = germination.even) := by
  by_cases isEven : period % 2 = 0
  · have next : (period + 1) % 2 ≠ 0 := by omega
    exact .inl ⟨isEven, fun _ => ⟨if_pos isEven, if_neg next⟩⟩
  · have next : (period + 1) % 2 = 0 := by omega
    exact .inr ⟨isEven, fun _ => ⟨if_neg isEven, if_pos next⟩⟩

/-- Writing the bucket of one parity leaves the other one. -/
theorem Germination.bucket_setBucket_of_parity {period other : Int} (apart : period % 2 ≠ other % 2)
    (germination : Germination) (value : Int) :
    (germination.setBucket period value).bucket other = germination.bucket other := by
  unfold setBucket bucket
  split <;> split <;> first | rfl | omega

namespace Forecast

variable {context : Context} {settings : Settings} {snapshot : Snapshot} {tokens : List Token}
  {germinating : Table Token Germination}

theorem bucket_otherGermination (gauges : List Token) (period : Int) :
    (otherGermination settings snapshot gauges).bucket period =
      snapshot.germinating.sumOver fun token germination =>
        if token ∈ settings.reference :: gauges then 0 else germination.bucket period := by
  rw [otherGermination_eq]
  unfold Germination.bucket
  split <;> rfl

/-- Each token has the same value in the bucket that becomes live. -/
def SameLiveBuckets (snapshot : Snapshot) (germinating : Table Token Germination) : Prop :=
  ∀ token, (germinating.getD token .none).bucket (snapshot.period + 1) =
    (snapshot.germination token).bucket (snapshot.period + 1)

/-- The snapshot with other germinating value. -/
def germinatingAs (snapshot : Snapshot) (germinating : Table Token Germination) : Snapshot :=
  { snapshot with germinating }

theorem SameLiveBuckets.otherGermination (same : SameLiveBuckets snapshot germinating)
    (gauges : List Token) :
    (otherGermination settings (germinatingAs snapshot germinating) gauges).bucket
        (snapshot.period + 1) =
      (otherGermination settings snapshot gauges).bucket (snapshot.period + 1) := by
  rw [bucket_otherGermination, bucket_otherGermination]
  refine Table.sumOver_eq_of_getD_eq _ .none ?_ ?_
  · intro token
    simp [Germination.bucket, Germination.none]
  · intro token
    split
    · rfl
    · exact same token

/-! ## Conversions -/

/-- The germinating value of the bean, of all tokens that are neither bean nor gauge token,
and of each gauge token. -/
def germinations (settings : Settings) (snapshot : Snapshot) (tokens : List Token) :
    List Germination :=
  let gauges := gaugeTokens settings snapshot tokens
  snapshot.germination settings.reference :: otherGermination settings snapshot gauges ::
    gauges.map snapshot.germination

/-- The conversion of one of the amounts in the idle buckets overflows. -/
def OversizedIdle (settings : Settings) (snapshot : Snapshot) (tokens : List Token) : Prop :=
  ∃ context, Forecast.context settings = .ok context ∧
    ∃ germination ∈ germinations settings snapshot tokens,
      context.ofScaled (germination.bucket snapshot.period) valuePlaces = .error .overflow

/-- The amount is one of those in the idle buckets. -/
def IsIdle (settings : Settings) (snapshot : Snapshot) (tokens : List Token) (amount : Int) :
    Prop :=
  ∃ germination ∈ germinations settings snapshot tokens, germination.bucket snapshot.period = amount

/-- The failure is that of an idle amount whose conversion overflows. -/
def IdleOverflow (settings : Settings) (snapshot : Snapshot) (tokens : List Token)
    (signal : Signal) : Prop :=
  signal = .overflow ∧ OversizedIdle settings snapshot tokens

/-- The amounts of two snapshots are the same, or they are both idle. -/
def SameOrIdle (settings : Settings) (snapshot : Snapshot) (germinating : Table Token Germination)
    (tokens : List Token) (amount other : Int) : Prop :=
  other = amount ∨ (IsIdle settings snapshot tokens amount ∧
    IsIdle settings (germinatingAs snapshot germinating) tokens other)

theorem precise_of_context (asked : Forecast.context settings = .ok context) :
    0 < context.precision := by
  unfold Forecast.context YieldFailure.context Context.ofPrecision? at asked
  by_cases inRange : 1 ≤ settings.simulation.decimalPrecision ∧
      settings.simulation.decimalPrecision ≤ maxPrecision
  · rw [if_pos inRange] at asked
    obtain rfl := Except.ok.inj asked
    change 0 < settings.simulation.decimalPrecision.toNat
    omega
  · rw [if_neg inRange] at asked
    contradiction

/-- An amount whose conversion overflows has a million digits. -/
theorem OversizedIdle.exists_digits (oversized : OversizedIdle settings snapshot tokens) :
    ∃ germination ∈ germinations settings snapshot tokens,
      (10 : ℚ) ^ maxExponent ≤ |(germination.bucket snapshot.period : ℚ)| := by
  obtain ⟨context, asked, germination, inside, overflows⟩ := oversized
  have converts := ofScaled_converts (precise_of_context asked) (germination.bucket snapshot.period)
    (show 0 ≤ valuePlaces by decide) (by decide)
  exact ⟨germination, inside, (converts.stops_of_error overflows).2⟩

/-- The conversion of an amount overflows if the number has too many digits. -/
theorem ofScaled_overflows (precise : 0 < context.precision) {amount : Int}
    (large : 10 ^ (maxExponent + 1) ≤ (amount : ℚ) / 10 ^ valuePlaces) :
    context.ofScaled amount valuePlaces = .error .overflow := by
  have single : |(1 : ℤ)| < 10 ^ context.precision := one_lt_pow₀ (by norm_num) precise.ne'
  have least : (1 : ℤ) * (10 : ℚ) ^ (maxExponent + 1) ≤ amount / 10 ^ valuePlaces := by
    rwa [Int.cast_one, one_mul]
  have rounds := le_rounded_of_digits precise single (tiny_le (by decide)) least
  rw [Int.cast_one, one_mul] at rounds
  have calculates := ofScaled_calculates precise amount (show 0 ≤ valuePlaces by decide) (by decide)
  rcases calculates.ok_or_overflow with ⟨decimal, converted, -⟩ | ⟨overflows, -⟩
  · exact absurd (calculates.within converted) (not_lt.mpr (rounds.trans (le_abs_self _)))
  · exact overflows

theorem ofScaled_settles_idle (asked : Forecast.context settings = .ok context) {amount : Int}
    (idle : IsIdle settings snapshot tokens amount) :
    Settles (IdleOverflow settings snapshot tokens) (fun _ => True)
      (context.ofScaled amount valuePlaces) := by
  obtain ⟨germination, inside, rfl⟩ := idle
  have converts := ofScaled_converts (precise_of_context asked) (germination.bucket snapshot.period)
    (show 0 ≤ valuePlaces by decide) (by decide)
  cases converted : context.ofScaled (germination.bucket snapshot.period) valuePlaces with
  | ok decimal => trivial
  | error signal =>
      obtain ⟨rfl, -⟩ := converts.stops_of_error converted
      exact ⟨rfl, context, asked, germination, inside, converted⟩

theorem ofScaled_coincide (asked : Forecast.context settings = .ok context) {amount other : Int}
    (paired : SameOrIdle settings snapshot germinating tokens amount other) :
    Coincide (IdleOverflow settings snapshot tokens)
      (IdleOverflow settings (germinatingAs snapshot germinating) tokens)
      (fun left right => other = amount → right = left)
      (context.ofScaled amount valuePlaces) (context.ofScaled other valuePlaces) := by
  by_cases same : other = amount
  · subst same
    exact (Coincide.same _).mono fun _ _ equal _ => equal.symm
  · obtain ⟨leftIdle, rightIdle⟩ := paired.resolve_left same
    exact (Coincide.of_settles (ofScaled_settles_idle asked leftIdle)
      (ofScaled_settles_idle asked rightIdle)).mono fun _ _ _ equal => absurd equal same

/-- Amounts that are the same are converted alike. -/
theorem valuesOf_coincide (asked : Forecast.context settings = .ok context) {amounts others : List Int}
    (paired : List.Forall₂ (SameOrIdle settings snapshot germinating tokens) amounts others) :
    Coincide (IdleOverflow settings snapshot tokens)
      (IdleOverflow settings (germinatingAs snapshot germinating) tokens)
      (fun left right => ∀ position : Nat, others[position]? = amounts[position]? →
        (given right)[position]? = (given left)[position]?)
      (valuesOf context amounts) (valuesOf context others) := by
  induction paired with
  | nil => exact .values fun _ _ => rfl
  | cons first _ ih =>
      unfold valuesOf at ih ⊢
      rw [List.mapM_cons, List.mapM_cons]
      apply (ofScaled_coincide asked first).bind
      intro left right equal
      apply ih.bind
      intro leftRest rightRest equalRest
      refine .values fun position same => ?_
      cases position with
      | zero =>
          exact congrArg (fun value => some (Written.value value)) (equal (Option.some.inj same))
      | succ position => exact equalRest position same

/-- Of values that are live alike, the parts that are not the same are idle. -/
theorem sameOrIdle_parts (settings : Settings) (tokens : List Token)
    {germination other : Germination}
    (inside : germination ∈ germinations settings snapshot tokens)
    (otherInside : other ∈ germinations settings (germinatingAs snapshot germinating) tokens)
    (same : other.bucket (snapshot.period + 1) = germination.bucket (snapshot.period + 1)) :
    SameOrIdle settings snapshot germinating tokens germination.even other.even ∧
      SameOrIdle settings snapshot germinating tokens germination.odd other.odd := by
  have idle : IsIdle settings snapshot tokens (germination.bucket snapshot.period) :=
    ⟨germination, inside, rfl⟩
  have otherIdle : IsIdle settings (germinatingAs snapshot germinating) tokens
      (other.bucket snapshot.period) := ⟨other, otherInside, rfl⟩
  rcases Germination.bucket_cases snapshot.period with ⟨-, parts⟩ | ⟨-, parts⟩
  · rw [(parts germination).1] at idle
    rw [(parts other).1] at otherIdle
    rw [(parts germination).2, (parts other).2] at same
    exact ⟨.inr ⟨idle, otherIdle⟩, .inl same⟩
  · rw [(parts germination).1] at idle
    rw [(parts other).1] at otherIdle
    rw [(parts germination).2, (parts other).2] at same
    exact ⟨.inl same, .inr ⟨idle, otherIdle⟩⟩

/-- The position of the bucket that becomes live holds the live part. -/
theorem live_part {germination other : Germination} (scenario : GaugeScenario)
    (same : other.bucket (scenario.season + 1) = germination.bucket (scenario.season + 1)) :
    [other.even, other.odd][scenario.bucket]? =
      [germination.even, germination.odd][scenario.bucket]? := by
  unfold GaugeScenario.bucket
  rcases Germination.bucket_cases scenario.season with ⟨isEven, parts⟩ | ⟨isOdd, parts⟩
  · rw [(parts germination).2, (parts other).2] at same
    rw [if_pos isEven, same]
    rfl
  · rw [(parts germination).2, (parts other).2] at same
    rw [if_neg isOdd, same]
    rfl

theorem mem_germinations_of_gauge (snapshot : Snapshot) {token : Token}
    (inside : token ∈ gaugeTokens settings snapshot tokens) :
    snapshot.germination token ∈ germinations settings snapshot tokens :=
  .tail _ (.tail _ (List.mem_map_of_mem inside))

/-- The parts of one bucket of the gauge tokens are the same or idle, too. -/
theorem sameOrIdle_gauges {part : Germination → Int}
    (parts : ∀ token ∈ gaugeTokens settings snapshot tokens,
      SameOrIdle settings snapshot germinating tokens (part (snapshot.germination token))
        (part ((germinatingAs snapshot germinating).germination token))) :
    List.Forall₂ (SameOrIdle settings snapshot germinating tokens)
      (((gaugeTokens settings snapshot tokens).map snapshot.germination).map part)
      (((gaugeTokens settings snapshot tokens).map
        (germinatingAs snapshot germinating).germination).map part) := by
  rw [List.map_map, List.map_map, List.forall₂_map_left_iff, List.forall₂_map_right_iff,
    List.forall₂_same]
  exact parts

/-- The gauge tokens have the same parts in the bucket that becomes live. -/
theorem map_live_part (same : SameLiveBuckets snapshot germinating) {part : Germination → Int}
    (live : ∀ germination : Germination,
      germination.bucket (snapshot.period + 1) = part germination)
    (gauges : List Token) :
    (gauges.map (germinatingAs snapshot germinating).germination).map part =
      (gauges.map snapshot.germination).map part := by
  rw [List.map_map, List.map_map]
  refine List.map_congr_left fun token _ => ?_
  have equal := same token
  rw [live, live] at equal
  exact equal

/-- Scenarios of snapshots that are live alike differ in the idle bucket only, or the
conversion of an idle amount overflows. -/
theorem gaugeScenario_coincide (asked : Forecast.context settings = .ok context)
    (same : SameLiveBuckets snapshot germinating) (earnedBeans : Decimal) :
    Coincide (IdleOverflow settings snapshot tokens)
      (IdleOverflow settings (germinatingAs snapshot germinating) tokens) GaugeScenario.SameLive
      (gaugeScenario context settings snapshot tokens earnedBeans)
      (gaugeScenario context settings (germinatingAs snapshot germinating) tokens earnedBeans) := by
  have bean := sameOrIdle_parts settings tokens (.head _) (.head _) (same settings.reference)
  have other := sameOrIdle_parts settings tokens (.tail _ (.head _)) (.tail _ (.head _))
    (same.otherGermination (gaugeTokens settings snapshot tokens))
  have gauge := fun token (inside : token ∈ gaugeTokens settings snapshot tokens) =>
    sameOrIdle_parts settings tokens (mem_germinations_of_gauge snapshot inside)
      (mem_germinations_of_gauge (germinatingAs snapshot germinating) inside) (same token)
  unfold gaugeScenario
  -- everything but the germinating value is converted alike
  iterate 8 refine Coincide.bind_same _ fun _ => ?_
  apply (valuesOf_coincide asked (.cons bean.1 (.cons bean.2 .nil))).bind
  intro leftBean rightBean beanEqual
  apply (valuesOf_coincide asked
    (sameOrIdle_gauges fun token inside => (gauge token inside).1)).bind
  intro leftEven rightEven evenEqual
  apply (valuesOf_coincide asked
    (sameOrIdle_gauges fun token inside => (gauge token inside).2)).bind
  intro leftOdd rightOdd oddEqual
  apply (valuesOf_coincide asked (.cons other.1 (.cons other.2 .nil))).bind
  intro leftOther rightOther otherEqual
  refine .values {
    others := rfl
    bean := beanEqual _ (live_part _ (same settings.reference))
    tokens := ?_
    nonGauge := otherEqual _ (live_part _ (same.otherGermination _)) }
  change [given rightEven, given rightOdd][if snapshot.period % 2 = 0 then 1 else 0]? =
    [given leftEven, given leftOdd][if snapshot.period % 2 = 0 then 1 else 0]?
  rcases Germination.bucket_cases snapshot.period with ⟨isEven, parts⟩ | ⟨isOdd, parts⟩
  · have equal : given rightOdd = given leftOdd := List.ext_getElem? fun position =>
      oddEqual position (congrArg (·[position]?) (map_live_part same (fun _ => (parts _).2) _))
    rw [if_pos isEven]
    exact congrArg some equal
  · have equal : given rightEven = given leftEven := List.ext_getElem? fun position =>
      evenEqual position (congrArg (·[position]?) (map_live_part same (fun _ => (parts _).2) _))
    rw [if_neg isOdd]
    exact congrArg some equal

/-- A scenario is made of a snapshot only if both parts of all germinating value are converted. -/
theorem converts_of_gaugeScenario {earnedBeans : Decimal} {scenario : GaugeScenario}
    (made : gaugeScenario context settings snapshot tokens earnedBeans = .ok scenario)
    {germination : Germination} (inside : germination ∈ germinations settings snapshot tokens) :
    (context.ofScaled germination.even valuePlaces).isOk ∧
      (context.ofScaled germination.odd valuePlaces).isOk := by
  have each : ∀ {amounts : List Int} {values : List Decimal},
      valuesOf context amounts = .ok values → ∀ amount ∈ amounts,
        (context.ofScaled amount valuePlaces).isOk := by
    intro amounts values converted amount among
    obtain ⟨decimal, -, isDecimal⟩ := exists_mem_of_forall₂ (mapM_eq_ok_iff.mp converted) among
    rw [isDecimal]
    rfl
  simp only [gaugeScenario, bind_eq_ok_iff] at made
  obtain ⟨_, -, _, -, _, -, _, -, _, -, _, -, _, -, _, -, _, bean, _, even, _, odd, _, other, -⟩ :=
    made
  rcases List.mem_cons.mp inside with rfl | inside
  · exact ⟨each bean _ (.head _), each bean _ (.tail _ (.head _))⟩
  · rcases List.mem_cons.mp inside with rfl | inside
    · exact ⟨each other _ (.head _), each other _ (.tail _ (.head _))⟩
    · exact ⟨each even _ (List.mem_map_of_mem inside), each odd _ (List.mem_map_of_mem inside)⟩

/-! ## Yields -/

/-- The model fails as an idle amount whose conversion overflows does. -/
def FailsOversized (settings : Settings) (snapshot : Snapshot) (tokens : List Token)
    (failure : YieldFailure) : Prop :=
  failure = .signal .overflow ∧ OversizedIdle settings snapshot tokens

/-- Yields of snapshots that are live alike are the same, or the conversion of an idle amount
overflows. -/
theorem tokenYields_coincide (same : SameLiveBuckets snapshot germinating) (period window : Int)
    (rate : Decimal) (createdAt : Int) :
    Coincide (FailsOversized settings snapshot tokens)
      (FailsOversized settings (germinatingAs snapshot germinating) tokens)
      (fun left right => left = right)
      (tokenYields settings snapshot period window rate tokens createdAt)
      (tokenYields settings (germinatingAs snapshot germinating) period window rate tokens
        createdAt) := by
  unfold tokenYields
  split
  · exact .same _
  cases asked : Forecast.context settings with
  | error failure => exact .failures failure
  | ok context =>
      change Coincide _ _ _ (ite _ _ _) (ite _ _ _)
      split
      · exact .same _
      · apply Coincide.bind
        · apply ((gaugeScenario_coincide asked same rate).mapError _ _).bind
          · intro left right live
            rw [live.simulate_eq]
            exact .same _
          · rintro _ ⟨rfl, oversized⟩
            exact ⟨rfl, oversized⟩
          · rintro _ ⟨rfl, oversized⟩
            exact ⟨rfl, oversized⟩
        · rintro growths _ rfl
          exact .same _

/-- The outcomes of the forecasts of two snapshots, failures included, are the same, or one of
them overflows with the conversion of an amount in an idle bucket of its snapshot. -/
def SameYields (settings : Settings) (before after : Snapshot) (period window : Int)
    (rate : Decimal) (tokens : List Token) (createdAt : Int) : Prop :=
  let yieldsBefore := tokenYields settings before period window rate tokens createdAt
  let yieldsAfter := tokenYields settings after period window rate tokens createdAt
  yieldsBefore = yieldsAfter ∨
    (yieldsBefore = .error (.signal .overflow) ∧ OversizedIdle settings before tokens) ∨
      (yieldsAfter = .error (.signal .overflow) ∧ OversizedIdle settings after tokens)

theorem SameLiveBuckets.sameYields (same : SameLiveBuckets snapshot germinating)
    (period window : Int) (rate : Decimal) (createdAt : Int) :
    SameYields settings snapshot (germinatingAs snapshot germinating) period window rate tokens
      createdAt := by
  rcases (tokenYields_coincide same period window rate createdAt).eq_or_excused with
    equal | ⟨_, ⟨rfl, oversized⟩, failed⟩ | ⟨_, ⟨rfl, oversized⟩, failed⟩
  · exact .inl equal
  · exact .inr (.inl ⟨failed, oversized⟩)
  · exact .inr (.inr ⟨failed, oversized⟩)

/-- Two forecasts that give yields give the same ones. -/
theorem SameYields.eq_of_ok {before after : Snapshot} {period window : Int} {rate : Decimal}
    {createdAt : Int}
    (same : SameYields settings before after period window rate tokens createdAt)
    {yields others : List TokenYield}
    (given : tokenYields settings before period window rate tokens createdAt = .ok yields)
    (alsoGiven : tokenYields settings after period window rate tokens createdAt = .ok others) :
    yields = others := by
  unfold SameYields at same
  rw [given, alsoGiven] at same
  rcases same with equal | ⟨failed, -⟩ | ⟨failed, -⟩
  · exact Except.ok.inj equal
  · contradiction
  · contradiction

/-- Where an idle amount overflows, no forecast under the seed gauge gives yields. -/
theorem OversizedIdle.no_yields (oversized : OversizedIdle settings snapshot tokens)
    (present : tokens ≠ []) {period : Int} (active : settings.gauge.activationPeriod ≤ period)
    (window : Int) (rate : Decimal) (createdAt : Int) (yields : List TokenYield) :
    tokenYields settings snapshot period window rate tokens createdAt ≠ .ok yields := by
  intro given
  obtain ⟨context, asked, germination, inside, overflows⟩ := oversized
  simp only [tokenYields, List.isEmpty_iff, present, not_lt.mpr active, if_false, bind_eq_ok_iff,
    gaugeGrowths] at given
  obtain ⟨_, again, _, ⟨scenario, made, -⟩, -⟩ := given
  obtain rfl := Except.ok.inj (asked.symm.trans again)
  have converts := converts_of_gaugeScenario (mapError_eq_ok_iff.mp made) inside
  have idle : (context.ofScaled (germination.bucket snapshot.period) valuePlaces).isOk := by
    unfold Germination.bucket
    split
    · exact converts.1
    · exact converts.2
  rw [overflows] at idle
  contradiction

/-! ## Ledgers -/

/-- A write to the bucket of the ledger's own parity is idle. -/
theorem sameLiveBuckets_set (ledger : Ledger) (token : Token) {own : Int}
    (sameParity : own % 2 = ledger.period % 2) (value : Int) :
    SameLiveBuckets ledger.snapshot
      (ledger.germinating.set token ((ledger.germination token).setBucket own value)) := by
  intro other
  change Germination.bucket _ (ledger.period + 1) =
    (ledger.germinating.getD other .none).bucket (ledger.period + 1)
  rw [Table.getD_set]
  split
  · next isToken =>
      subst isToken
      exact Germination.bucket_setBucket_of_parity (by omega) _ _
  · rfl

/-- What germinates in the ledger's own parity is added to the idle bucket. -/
theorem bucket_germinate (ledger : Ledger) (token : Token) {own : Int}
    (sameParity : own % 2 = ledger.period % 2) (value : Int) :
    ((ledger.germinate token own value).snapshot.germination token).bucket ledger.period =
      (ledger.germination token).bucket own + value := by
  change Germination.bucket ((ledger.germinating.set token ((ledger.germination token).setBucket own
    ((ledger.germination token).bucket own + value))).getD token .none) ledger.period = _
  rw [Table.getD_set, if_pos rfl]
  unfold Germination.setBucket Germination.bucket
  rw [← sameParity]
  split <;> rfl

/-- Only the bucket opposite to the parity of the ledger has an influence on yields: they are
the same for all germinating value that agrees there.  So value of the ledger's own parity can
begin and finish to germinate, of any token, and no yield changes.  Only where the conversion of
an amount in an idle bucket overflows does the forecast fail instead, and such an amount has a
million digits. -/
theorem yields_of_live_buckets (ledger : Ledger) (settings : Settings) (token : Token)
    (own value : Int) (sameParity : own % 2 = ledger.period % 2) (tokens : List Token)
    (period window : Int) (rate : Decimal) (createdAt : Int) :
    (∀ germinating : Table Token Germination, SameLiveBuckets ledger.snapshot germinating →
        SameYields settings ledger.snapshot { ledger with germinating }.snapshot period window rate
          tokens createdAt) ∧
      SameYields settings ledger.snapshot (ledger.germinate token own value).snapshot period window
        rate tokens createdAt ∧
      SameYields settings ledger.snapshot (ledger.finishGermination token own).2.snapshot period
        window rate tokens createdAt ∧
      ∀ snapshot, OversizedIdle settings snapshot tokens →
        ∃ germination ∈ germinations settings snapshot tokens,
          (10 : ℚ) ^ maxExponent ≤ |(germination.bucket snapshot.period : ℚ)| :=
  ⟨fun _ same => same.sameYields period window rate createdAt,
    (sameLiveBuckets_set ledger token sameParity _).sameYields period window rate createdAt,
    (sameLiveBuckets_set ledger token sameParity 0).sameYields period window rate createdAt,
    fun _ oversized => oversized.exists_digits⟩

/-- In an even period, value of a gauge token and of another token germinates. -/
def evenPeriod : List Operation :=
  [.whitelist "0xlp" { TokenSetting.unregistered with gaugePoints := some 100 } 1,
    .putDeposit ⟨"0xa", Settings.standard.reference, .season 1⟩ 100 100 1,
    .putDeposit ⟨"0xa", "0xlp", .season 1⟩ 50 50 1,
    .advanceTo 4,
    .germinate "0xlp" 3 7,
    .germinate "0xt" 2 5]

/-- The first germinating value of a token is idle if it is that of an even period. -/
theorem evenPeriod_yields :
    let ledger := (Ledger.empty none).run evenPeriod
    let tokens := [Settings.standard.reference, "0xlp"]
    ∃ yields, tokenYields threeSeasons ledger.snapshot 19628 24 .hundred tokens 0 = .ok yields ∧
      tokenYields threeSeasons (ledger.germinate "0xnew" 2 50).snapshot 19628 24 .hundred tokens 0 =
        .ok yields := by
  intro ledger tokens
  have settled : (tokenYields threeSeasons ledger.snapshot 19628 24 .hundred tokens 0).isOk := by
    decide +kernel
  have settledAfter : (tokenYields threeSeasons (ledger.germinate "0xnew" 2 50).snapshot 19628 24
      .hundred tokens 0).isOk := by decide +kernel
  obtain ⟨yields, before⟩ := exists_ok_of_isOk settled
  obtain ⟨others, after⟩ := exists_ok_of_isOk settledAfter
  obtain ⟨-, same, -⟩ := yields_of_live_buckets ledger threeSeasons "0xnew" 2 50 (by decide +kernel)
    tokens 19628 24 .hundred 0
  exact ⟨yields, before, after.trans (congrArg Except.ok (same.eq_of_ok before after).symm)⟩

/-- A number with more than a million digits begins to germinate in the idle bucket of the bean.
Its conversion overflows, and the forecast that gave yields before fails. -/
theorem hugeIdle_stops_forecast :
    let ledger := (Ledger.empty none).run evenPeriod
    let tokens := [Settings.standard.reference, "0xlp"]
    let after := ledger.germinate Settings.standard.reference 2 (10 ^ 1000010)
    threeSeasons.Valid ∧ 2 % 2 = ledger.period % 2 ∧
      (tokenYields threeSeasons ledger.snapshot 19628 24 .hundred tokens 0).isOk ∧
      tokenYields threeSeasons after.snapshot 19628 24 .hundred tokens 0 =
        .error (.signal .overflow) := by
  intro ledger tokens after
  have settled : (tokenYields threeSeasons ledger.snapshot 19628 24 .hundred tokens 0).isOk := by
    decide +kernel
  have parity : 2 % 2 = ledger.period % 2 := by decide +kernel
  refine ⟨threeSeasons_valid, parity, settled, ?_⟩
  have oversized : OversizedIdle threeSeasons after.snapshot tokens := by
    refine ⟨{ precision := 34 }, rfl, _, .head _, ?_⟩
    have empty : (ledger.germination Settings.standard.reference).bucket 2 = 0 := by decide +kernel
    have idle := bucket_germinate ledger Settings.standard.reference parity (10 ^ 1000010)
    rw [empty, zero_add] at idle
    refine (congrArg (Context.ofScaled _ · valuePlaces) idle).trans
      (ofScaled_overflows (by decide) ?_)
    rw [Int.cast_pow, Int.cast_ofNat, le_div_iff₀ (by positivity),
      ← zpow_add₀ (by norm_num), ← zpow_natCast]
    exact zpow_le_zpow_right₀ (by norm_num) (by decide)
  obtain ⟨yields, before⟩ := exists_ok_of_isOk settled
  rcases (sameLiveBuckets_set ledger Settings.standard.reference parity _).sameYields 19628 24
    .hundred 0 with same | ⟨failed, -⟩ | ⟨failed, -⟩
  · exact absurd (same.symm.trans before) (oversized.no_yields (by decide) (by decide) _ _ _ _)
  · rw [before] at failed
    contradiction
  · exact failed

end Forecast

end DepositYield
