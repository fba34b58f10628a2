import DepositYield.Proofs.Export.Listing
import DepositYield.Proofs.Export.Content
import DepositYield.Proofs.Forecast.Store

/-!
# Stores rebuilt from exports

A store is what was saved in it.  Its export lists every record of each family once, in the
order of the keys, and the export can be read: saving the records that are read gives a store
with the same records again.  This goes for the text of the export, too, unless a token has
halves of surrogate pairs that are joined when they are read.
-/

namespace DepositYield

/-! ## Stores of saved records -/

/-- A record that is saved. -/
inductive Save where
  | rate (record : RateRecord)
  | tokenYield (record : TokenYield)
  | fertilizer (record : FertilizerRecord)

namespace Save

def rate? : Save → Option RateRecord
  | .rate record => some record
  | _ => none

def tokenYield? : Save → Option TokenYield
  | .tokenYield record => some record
  | _ => none

def fertilizer? : Save → Option FertilizerRecord
  | .fertilizer record => some record
  | _ => none

/-- The decimals of a record by the names of their fields. -/
def decimals : Save → List (String × Decimal)
  | .rate record => record.decimals
  | .tokenYield record => record.decimals
  | .fertilizer record => record.decimals

/-- All decimals of the record have numerals.  Decimals beyond their range are never read. -/
def HasNumerals (save : Save) : Prop :=
  ∀ field ∈ save.decimals, field.2.InRange

instance : DecidablePred HasNumerals :=
  fun save => inferInstanceAs (Decidable (∀ field ∈ save.decimals, field.2.InRange))

/-- The texts of a record. -/
def texts : Save → List String
  | .rate record => record.texts
  | .tokenYield record => record.texts
  | .fertilizer _ => []

/-- The whole numbers of a record. -/
def wholes : Save → List Int
  | .rate record => record.wholes
  | .tokenYield record => record.wholes
  | .fertilizer record => record.wholes

end Save

/-- The records of a forecast, in the order in which they are kept. -/
def WindowForecast.saves (forecast : WindowForecast) : List Save :=
  .rate forecast.rate :: forecast.tokenYields.map .tokenYield ++ [.fertilizer forecast.fertilizer]

namespace ForecastStore

/-- Save a record. -/
def keep (store : ForecastStore) : Save → ForecastStore
  | .rate record => store.keepRate record
  | .tokenYield record => store.keepTokenYield record
  | .fertilizer record => store.keepFertilizer record

/-- The store of saved records. -/
def ofSaves (saves : List Save) : ForecastStore :=
  saves.foldl keep empty

theorem keepForecast_eq_foldl (store : ForecastStore) (forecast : WindowForecast) :
    store.keepForecast forecast = forecast.saves.foldl keep store := by
  unfold WindowForecast.saves
  rw [List.cons_append, List.foldl_cons, List.foldl_append, List.foldl_map]
  rfl

/-- Every family is kept for itself. -/
theorem foldl_keep (store : ForecastStore) (saves : List Save) :
    saves.foldl keep store =
      { rates := RateRecord.family.putAll store.rates (saves.filterMap Save.rate?)
        tokenYields := TokenYield.family.putAll store.tokenYields (saves.filterMap Save.tokenYield?)
        fertilizer :=
          FertilizerRecord.family.putAll store.fertilizer (saves.filterMap Save.fertilizer?) } := by
  induction saves generalizing store with
  | nil => rfl
  | cons save saves ih =>
      rw [List.foldl_cons, ih]
      cases save <;> rfl

end ForecastStore

/-! ## Reading exports -/

namespace ForecastStore

/-- The store in which the records of each family were saved, family by family. -/
def ofRecords (yields : List TokenYield) (rates : List RateRecord)
    (fertilizer : List FertilizerRecord) : ForecastStore :=
  ofSaves (yields.map .tokenYield ++ rates.map .rate ++ fertilizer.map .fertilizer)

theorem ofRecords_eq (yields : List TokenYield) (rates : List RateRecord)
    (fertilizer : List FertilizerRecord) :
    ofRecords yields rates fertilizer =
      { rates := RateRecord.family.putAll ∅ rates
        tokenYields := TokenYield.family.putAll ∅ yields
        fertilizer := FertilizerRecord.family.putAll ∅ fertilizer } := by
  unfold ofRecords ofSaves
  rw [foldl_keep]
  simp [Function.comp_def, Save.rate?, Save.tokenYield?, Save.fertilizer?, empty]

end ForecastStore

namespace Export

/-- The store of all records that a document lists. -/
def rebuild? (document : Document) : Option ForecastStore := do
  let yields ← TokenYield.family.records? document
  let rates ← RateRecord.family.records? document
  let fertilizer ← FertilizerRecord.family.records? document
  return .ofRecords yields rates fertilizer

/-- A document lists what a store holds, family by family. -/
structure Lists (store : ForecastStore) (document : Document) (yields : List TokenYield)
    (rates : List RateRecord) (fertilizer : List FertilizerRecord) : Prop where
  yields : TokenYield.family.Listing store.tokenYields document yields
  rates : RateRecord.family.Listing store.rates document rates
  fertilizer : FertilizerRecord.family.Listing store.fertilizer document fertilizer

theorem Lists.rebuild? {store : ForecastStore} {document : Document}
    {yields : List TokenYield} {rates : List RateRecord} {fertilizer : List FertilizerRecord}
    (lists : Lists store document yields rates fertilizer) :
    rebuild? document = some (.ofRecords yields rates fertilizer) := by
  unfold Export.rebuild?
  rw [lists.yields.records?_eq, lists.rates.records?_eq, lists.fertilizer.records?_eq]
  rfl

theorem Lists.recordsAt_ofRecords {store : ForecastStore} {document : Document}
    {yields : List TokenYield} {rates : List RateRecord} {fertilizer : List FertilizerRecord}
    (lists : Lists store document yields rates fertilizer) (key : WindowKey) :
    (ForecastStore.ofRecords yields rates fertilizer).recordsAt key = store.recordsAt key := by
  rw [ForecastStore.ofRecords_eq]
  ext1
  · exact lists.rates.get?_putAll _ key
  · funext token
    exact lists.yields.get?_putAll _ ⟨token, key⟩
  · exact lists.fertilizer.get?_putAll _ key

end Export

/-! ## Exports of saved records -/

section Saved

variable {Key Rank Record : Type} [DecidableEq Key] [LinearOrder Rank]
  (family : RecordFamily Key Rank Record) (select : Save → Option Record) {saves : List Save}

/-- A record that is listed was saved. -/
theorem exists_save_of_mem_sortedRecords {record : Record}
    (inside : record ∈ ForecastStore.sortedRecords family.le
      (family.putAll ∅ (saves.filterMap select))) :
    ∃ save ∈ saves, select save = some record := by
  obtain ⟨⟨key, record⟩, listed, rfl⟩ := List.mem_map.mp inside
  have held := Table.get?_eq_some_iff.mpr ((family.sortedEntries_perm _).mem_iff.mp listed)
  exact List.mem_filterMap.mp (family.mem_of_get?_putAll held).1

theorem listing_of_saves
    (decimals : ∀ save record, select save = some record →
      save.decimals = family.decimals record)
    (numerals : ∀ save ∈ saves, save.HasNumerals) {document : Document}
    (rows : document.field? family.name = some (.list
      ((ForecastStore.sortedRecords family.le
        (family.putAll ∅ (saves.filterMap select))).map family.write))) :
    family.Listing (family.putAll ∅ (saves.filterMap select)) document
      (ForecastStore.sortedRecords family.le (family.putAll ∅ (saves.filterMap select))) := by
  refine family.listing_sortedRecords (family.keeps_putAll fun record inside => ?_) rows
  obtain ⟨save, saved, selected⟩ := List.mem_filterMap.mp inside
  unfold RecordFamily.HasNumerals
  rw [← decimals save record selected]
  exact numerals save saved

end Saved

namespace Export

/-- The export of a store of saved records lists what the store holds. -/
theorem lists_document {saves : List Save} (numerals : ∀ save ∈ saves, save.HasNumerals)
    (settings : Option Settings) :
    Lists (.ofSaves saves) (document (.ofSaves saves) settings)
      (ForecastStore.ofSaves saves).sortedTokenYields (ForecastStore.ofSaves saves).sortedRates
      (ForecastStore.ofSaves saves).sortedFertilizer := by
  unfold ForecastStore.ofSaves
  rw [ForecastStore.foldl_keep]
  refine ⟨?yields, ?rates, ?fertilizer⟩
  case yields =>
    refine listing_of_saves TokenYield.family Save.tokenYield? ?_ numerals
      (by cases settings <;> rfl)
    rintro (_ | _ | _) record ⟨⟩
    rfl
  case rates =>
    refine listing_of_saves RateRecord.family Save.rate? ?_ numerals (by cases settings <;> rfl)
    rintro (_ | _ | _) record ⟨⟩
    rfl
  case fertilizer =>
    refine listing_of_saves FertilizerRecord.family Save.fertilizer? ?_ numerals
      (by cases settings <;> rfl)
    rintro (_ | _ | _) record ⟨⟩
    rfl

/-- An export consists of the texts and whole numbers that were given. -/
theorem consists_ofSaves {isText : String → Prop} {isWhole : Int → Prop}
    (ascii : ∀ {text : String}, Text.IsAscii text → isText text) {saves : List Save}
    {settings : Option Settings}
    (texts : ∀ save ∈ saves, ∀ text ∈ save.texts, isText text)
    (wholes : ∀ save ∈ saves, ∀ value ∈ save.wholes, isWhole value)
    (givenTexts : ∀ given ∈ settings, ∀ text ∈ given.texts, isText text)
    (givenWholes : ∀ given ∈ settings, ∀ value ∈ given.wholes, isWhole value) :
    Json.Consists isText isWhole (document (.ofSaves saves) settings) := by
  unfold ForecastStore.ofSaves
  rw [ForecastStore.foldl_keep]
  refine consists_document ascii ?yields ?rates ?fertilizer fun settings isGiven =>
    Settings.consists ascii (givenTexts settings isGiven) (givenWholes settings isGiven)
  case yields =>
    intro record inside
    obtain ⟨save, saved, selected⟩ :=
      exists_save_of_mem_sortedRecords TokenYield.family Save.tokenYield? inside
    have ownTexts := texts save saved
    have ownWholes := wholes save saved
    cases save <;> cases selected
    exact TokenYield.consists ascii ownTexts ownWholes
  case rates =>
    intro record inside
    obtain ⟨save, saved, selected⟩ :=
      exists_save_of_mem_sortedRecords RateRecord.family Save.rate? inside
    have ownTexts := texts save saved
    have ownWholes := wholes save saved
    cases save <;> cases selected
    exact RateRecord.consists ascii ownTexts ownWholes
  case fertilizer =>
    intro record inside
    obtain ⟨save, saved, selected⟩ :=
      exists_save_of_mem_sortedRecords FertilizerRecord.family Save.fertilizer? inside
    have ownWholes := wholes save saved
    cases save <;> cases selected
    exact FertilizerRecord.consists ascii ownWholes

/-- The export of a store lists every saved record that the store still holds, in the order of
the keys and with every digit, and the store can be rebuilt from it.  It can be written unless
a whole number has too many digits.  The text that is written denotes the export, unless a text
in it has halves of surrogate pairs that are joined when they are read. -/
theorem store_rebuilt_from_export {saves : List Save}
    (numerals : ∀ save ∈ saves, save.HasNumerals) (settings : Option Settings) :
    let store := ForecastStore.ofSaves saves
    Lists store (document store settings) store.sortedTokenYields store.sortedRates
        store.sortedFertilizer ∧
      (∃ rebuilt, rebuild? (document store settings) = some rebuilt ∧
        ∀ key, rebuilt.recordsAt key = store.recordsAt key) ∧
      ((∀ save ∈ saves, ∀ value ∈ save.wholes, Text.isWritable value = true) →
        (∀ given ∈ settings, ∀ value ∈ given.wholes, Text.isWritable value = true) →
        (document store settings).isWritable = true) ∧
      ((∀ save ∈ saves, ∀ text ∈ save.texts, Json.IsReadable text) →
        (∀ given ∈ settings, ∀ text ∈ given.texts, Json.IsReadable text) →
        Json.read? (json store settings) = some (document store settings)) := by
  intro store
  have lists := lists_document numerals settings
  refine ⟨lists, ⟨_, lists.rebuild?, lists.recordsAt_ofRecords⟩, ?writable, ?readable⟩
  case writable =>
    intro wholes givenWholes
    have anyText : ∀ {text : String}, Text.IsAscii text → True := fun _ => trivial
    exact Json.isWritable_of_consists
      (consists_ofSaves anyText (fun _ _ _ _ => trivial) wholes (fun _ _ _ _ => trivial) givenWholes)
  case readable =>
    intro texts givenTexts
    have anyWhole : ∀ _ : Int, True := fun _ => trivial
    exact Json.read?_render
      (consists_ofSaves Text.Surrogate.keepsPairs_codes_of_ascii texts
        (fun _ _ value _ => anyWhole value) givenTexts fun _ _ value _ => anyWhole value)
      Json.separates_indented

/-- Records with all kinds of decimals; the second rate takes the place of the first one. -/
def mixedSaves : List Save :=
  [.tokenYield ⟨"é😀", 20000, 168, ⟨.nan true false 12, .finite true 0 2⟩, 1⟩,
    .tokenYield ⟨"b", 20000, 24, ⟨.finite false 1500 (-3), .infinite true⟩, 2⟩,
    .rate ⟨20000, 24, 24, .finite false 8 (-2), .finite false 1 30, ["b", "é😀"], 3⟩,
    .rate ⟨20000, 24, 24, .finite false 80 (-3), .finite true 12 (-40), ["b"], 4⟩,
    .fertilizer
      ⟨20000, 24, .nan false true 7, 10, .finite false 0 (-9), .infinite false, .zero, 5⟩]

theorem mixedSaves_rebuilt :
    (∀ save ∈ mixedSaves, save.HasNumerals) ∧
      (∃ rebuilt, rebuild? (document (.ofSaves mixedSaves) (some .standard)) = some rebuilt ∧
        ∀ key, rebuilt.recordsAt key = (ForecastStore.ofSaves mixedSaves).recordsAt key) ∧
      Json.read? (json (.ofSaves mixedSaves) (some .standard)) =
        some (document (.ofSaves mixedSaves) (some .standard)) := by
  have numerals : ∀ save ∈ mixedSaves, save.HasNumerals := by decide +kernel
  have texts : ∀ save ∈ mixedSaves, ∀ text ∈ save.texts, Json.IsReadable text := by decide
  have givenTexts : ∀ given ∈ some Settings.standard, ∀ text ∈ given.texts,
      Json.IsReadable text := by
    decide
  obtain ⟨-, rebuilt, -, readable⟩ := store_rebuilt_from_export numerals (some .standard)
  exact ⟨numerals, rebuilt, readable texts givenTexts⟩

end Export

end DepositYield
