import DepositYield.Export.Records
import DepositYield.Proofs.Document.Json
import DepositYield.Proofs.Text.Case

/-!
# What exports consist of

The numerals, digests and names of an export consist of ASCII.  So all texts of an export
have a property that texts of ASCII have if the tokens and the texts of the settings have it,
and its whole numbers are those of the records and of the settings.
-/

namespace DepositYield

open Json

/-! ## Texts and whole numbers that are given -/

/-- The tokens of a mint rate. -/
def RateRecord.texts (record : RateRecord) : List String :=
  record.whitelistedTokens

def RateRecord.wholes (record : RateRecord) : List Int :=
  [record.period, record.window, record.samples, record.createdAt]

/-- The token of a yield. -/
def TokenYield.texts (record : TokenYield) : List String :=
  [record.token]

def TokenYield.wholes (record : TokenYield) : List Int :=
  [record.period, record.window, record.createdAt]

def FertilizerRecord.wholes (record : FertilizerRecord) : List Int :=
  [record.period, record.window, record.outstandingSupply, record.createdAt]

/-- The texts in settings that may be any. -/
def Settings.texts (settings : Settings) : List String :=
  [settings.gauge.pointRule, settings.reference]

def Settings.wholes (settings : Settings) : List Int :=
  settings.rates.originPeriod :: settings.rates.windows ++
    [settings.simulation.horizon, settings.simulation.decimalPrecision,
      settings.simulation.seedPrecision, settings.gauge.activationPeriod,
      settings.gauge.catchUpRate, settings.gauge.ratioPrecision,
      settings.fertilizer.defaultHumidity, settings.fertilizer.humidityPrecision]

/-! ## Content -/

variable {isText : String → Prop} {isWhole : Int → Prop}

section Content

variable (ascii : ∀ {text : String}, Text.IsAscii text → isText text)

include ascii in
theorem consists_object {fields : List (String × Document)} (names : List String)
    (spelled : fields.map Prod.fst = names) (distinct : names.Nodup)
    (asciiNames : ∀ name ∈ names, Text.IsAscii name)
    (each : ∀ field ∈ fields, Consists isText isWhole field.2) :
    Consists isText isWhole (.object fields) := by
  subst spelled
  exact .object distinct
    (fun field inside => ascii (asciiNames _ (List.mem_map_of_mem inside))) each

theorem consists_list {Item : Type} {write : Item → Document} {items : List Item}
    (each : ∀ item ∈ items, Consists isText isWhole (write item)) :
    Consists isText isWhole (.list (items.map write)) :=
  .list (List.forall_mem_map.mpr each)

include ascii in
theorem consists_numeral (decimal : Decimal) : Consists isText isWhole (.text decimal.toText) :=
  .text (ascii fun character inside => (Decimal.isPlain_of_mem_toText decimal character inside).1)

include ascii

theorem RateRecord.consists {record : RateRecord} (texts : ∀ text ∈ record.texts, isText text)
    (wholes : ∀ value ∈ record.wholes, isWhole value) :
    Consists isText isWhole record.toDocument := by
  simp only [RateRecord.wholes, List.forall_mem_cons] at wholes
  obtain ⟨period, window, samples, createdAt, -⟩ := wholes
  refine consists_object ascii
    ["period", "window", "u", "beta", "smoothed_rate", "whitelisted_tokens", "created_at"] rfl
    (by decide) (by decide) ?_
  simp only [List.forall_mem_cons]
  exact ⟨.int period, .int window, .int samples, consists_numeral ascii _,
    consists_numeral ascii _, consists_list fun token inside => .text (texts token inside),
    .int createdAt, List.forall_mem_nil _⟩

theorem TokenYield.consists {record : TokenYield} (texts : ∀ text ∈ record.texts, isText text)
    (wholes : ∀ value ∈ record.wholes, isWhole value) :
    Consists isText isWhole record.toDocument := by
  simp only [TokenYield.wholes, List.forall_mem_cons] at wholes
  obtain ⟨period, window, createdAt, -⟩ := wholes
  refine consists_object ascii
    ["token", "period", "window", "bean_apy", "stalk_apy", "created_at"] rfl
    (by decide) (by decide) ?_
  simp only [List.forall_mem_cons]
  exact ⟨.text (texts record.token (.head _)), .int period, .int window,
    consists_numeral ascii _, consists_numeral ascii _, .int createdAt, List.forall_mem_nil _⟩

theorem FertilizerRecord.consists {record : FertilizerRecord}
    (wholes : ∀ value ∈ record.wholes, isWhole value) :
    Consists isText isWhole record.toDocument := by
  simp only [FertilizerRecord.wholes, List.forall_mem_cons] at wholes
  obtain ⟨period, window, outstandingSupply, createdAt, -⟩ := wholes
  refine consists_object ascii
    ["period", "window", "humidity", "outstanding_supply", "rate_ema", "delta_rate_per_unit",
      "simple_apy", "created_at"] rfl (by decide) (by decide) ?_
  simp only [List.forall_mem_cons]
  exact ⟨.int period, .int window, consists_numeral ascii _, .int outstandingSupply,
    consists_numeral ascii _, consists_numeral ascii _, consists_numeral ascii _,
    .int createdAt, List.forall_mem_nil _⟩

/-- A digest consists of hexadecimal digits. -/
theorem Settings.consists_digest (settings : Settings) :
    Consists isText isWhole (.text settings.digest) := by
  refine .text (ascii fun character inside => ?_)
  unfold digest Text.Sha256.hexDigest at inside
  rw [String.toList_ofList, String.toList_join] at inside
  obtain ⟨word, ofWord, within⟩ := List.mem_flatMap.mp (List.mem_of_mem_take inside)
  obtain ⟨value, -, rfl⟩ := List.mem_map.mp ofWord
  unfold Text.Sha256.wordText at within
  rw [String.toList_ofList] at within
  exact ascii_of_mem_padded 8 value.toNat character within

theorem Settings.consists {settings : Settings} (texts : ∀ text ∈ settings.texts, isText text)
    (wholes : ∀ value ∈ settings.wholes, isWhole value) :
    Consists isText isWhole settings.toDocument := by
  simp only [Settings.texts, List.forall_mem_cons] at texts
  simp only [Settings.wholes, List.forall_mem_cons, List.cons_append, List.forall_mem_append]
    at wholes
  obtain ⟨pointRule, reference, -⟩ := texts
  obtain ⟨originPeriod, windows, horizon, decimalPrecision, seedPrecision, activationPeriod,
    catchUpRate, ratioPrecision, defaultHumidity, humidityPrecision, -⟩ := wholes
  refine consists_object ascii ["ema", "simulation", "gauge", "fertilizer", "tokens"] rfl
    (by decide) (by decide) ?_
  simp only [List.forall_mem_cons]
  refine ⟨?rates, ?simulation, ?gauge, ?fertilizer, ?tokens, List.forall_mem_nil _⟩
  case rates =>
    refine consists_object ascii ["origin_period", "windows"] rfl (by decide) (by decide) ?_
    simp only [List.forall_mem_cons]
    exact ⟨.int originPeriod, consists_list fun window inside => .int (windows window inside),
      List.forall_mem_nil _⟩
  case simulation =>
    refine consists_object ascii ["horizon", "decimal_precision", "seed_precision"] rfl
      (by decide) (by decide) ?_
    simp only [List.forall_mem_cons]
    exact ⟨.int horizon, .int decimalPrecision, .int seedPrecision, List.forall_mem_nil _⟩
  case gauge =>
    refine consists_object ascii ["activation_period", "catch_up_rate", "delta_r",
      "ratio_precision", "gauge_point_function"] rfl (by decide) (by decide) ?_
    simp only [List.forall_mem_cons]
    exact ⟨.int activationPeriod, .int catchUpRate, consists_numeral ascii _, .int ratioPrecision,
      .text pointRule, List.forall_mem_nil _⟩
  case fertilizer =>
    refine consists_object ascii ["default_humidity", "humidity_precision"] rfl
      (by decide) (by decide) ?_
    simp only [List.forall_mem_cons]
    exact ⟨.int defaultHumidity, .int humidityPrecision, List.forall_mem_nil _⟩
  case tokens =>
    refine consists_object ascii ["reference"] rfl (by decide) (by decide) ?_
    exact List.forall_mem_singleton.mpr (.text reference)

/-- An export consists of what its records and settings consist of. -/
theorem Export.consists_document {store : ForecastStore} {settings : Option Settings}
    (yields : ∀ record ∈ store.sortedTokenYields, Consists isText isWhole record.toDocument)
    (rates : ∀ record ∈ store.sortedRates, Consists isText isWhole record.toDocument)
    (fertilizer : ∀ record ∈ store.sortedFertilizer, Consists isText isWhole record.toDocument)
    (given : ∀ given ∈ settings, Consists isText isWhole given.toDocument) :
    Consists isText isWhole (document store settings) := by
  cases settings with
  | none =>
      refine consists_object ascii ["token_yields", "ema", "fertilizer"] rfl
        (by decide) (by decide) ?_
      simp only [List.forall_mem_cons]
      exact ⟨consists_list yields, consists_list rates, consists_list fertilizer,
        List.forall_mem_nil _⟩
  | some settings =>
      refine consists_object ascii
        ["token_yields", "ema", "fertilizer", "config", "config_hash"] rfl
        (by decide) (by decide) ?_
      simp only [List.cons_append, List.nil_append, List.forall_mem_cons]
      exact ⟨consists_list yields, consists_list rates, consists_list fertilizer,
        given settings rfl, settings.consists_digest ascii, List.forall_mem_nil _⟩

end Content

end DepositYield
