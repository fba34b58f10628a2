import DepositYield.Export.Records
import DepositYield.Proofs.Decimal.Numeral
import DepositYield.Proofs.Lists
import DepositYield.Proofs.Table
import DepositYield.Proofs.Text.Surrogate
import Mathlib.Algebra.Order.Group.Int
import Mathlib.Data.Prod.Lex

/-!
# Families of records

The records of a store form three families.  A family has keys, by which its records are kept
and put in order, and rows, as which they are written.  A row is read back as its record if
the decimals of the record have numerals.
-/

namespace DepositYield

/-! ## The order of keys -/

namespace WindowKey

/-- The place of a key in the order: by period, then by window. -/
def rank (key : WindowKey) : Int ×ₗ Int :=
  toLex (key.period, key.window)

theorem rank_injective : Function.Injective rank := by
  rintro ⟨period, window⟩ ⟨otherPeriod, otherWindow⟩ same
  simpa [rank] using same

theorem le_iff_rank {left right : WindowKey} : left.le right = true ↔ left.rank ≤ right.rank := by
  unfold le rank
  rw [Prod.Lex.toLex_le_toLex]
  by_cases same : left.period = right.period <;> simp [same]

end WindowKey

namespace TokenKey

open Text.Surrogate

/-- The place of a key in the order: by the code points of the token, then by period and
window. -/
def rank (key : TokenKey) : List Nat ×ₗ (Int ×ₗ Int) :=
  toLex (codes key.token, key.window.rank)

theorem rank_injective : Function.Injective rank := by
  rintro ⟨token, window⟩ ⟨otherToken, otherWindow⟩ same
  have parts : codes token = codes otherToken ∧ window.rank = otherWindow.rank := by
    simpa [rank] using same
  exact congrArg₂ TokenKey.mk (codes_injective parts.1) (WindowKey.rank_injective parts.2)

theorem le_iff_rank {left right : TokenKey} : left.le right = true ↔ left.rank ≤ right.rank := by
  unfold le rank
  rw [Prod.Lex.toLex_le_toLex]
  by_cases same : left.token = right.token
  · simp [same, WindowKey.le_iff_rank]
  · simp [same, codes_injective.ne same]

end TokenKey

/-! ## Reading rows -/

namespace Document

/-- The whole number of a value, if it is one. -/
def int? : Document → Option Int
  | .int value => some value
  | _ => none

/-- The items of a value, if it is a list. -/
def items? : Document → Option (List Document)
  | .list items => some items
  | _ => none

/-- The decimal that a text denotes. -/
def decimal? (document : Document) : Option Decimal := do
  (Decimal.ofText (← document.text?)).toOption

/-- The texts of a list. -/
def texts? (document : Document) : Option (List String) := do
  (← document.items?).mapM text?

/-- What is read from the value of a field. -/
def read? {Value : Type} (document : Document) (name : String)
    (reader : Document → Option Value) : Option Value :=
  (document.field? name).bind reader

theorem read?_of_field? {Value : Type} {document value : Document} {name : String}
    {reader : Document → Option Value} (held : document.field? name = some value) :
    document.read? name reader = reader value := by
  unfold read?
  rw [held, Option.bind_some]

theorem decimal?_toText {decimal : Decimal} (inRange : decimal.InRange) :
    decimal? (.text decimal.toText) = some decimal := by
  change (Decimal.ofText decimal.toText).toOption = some decimal
  rw [Decimal.ofText_toText inRange]
  rfl

/-- A field that holds the numeral of a decimal is read as the decimal. -/
theorem read?_numeral (document : Document) (name : String) {decimal : Decimal}
    (held : document.field? name = some (.text decimal.toText)) (inRange : decimal.InRange) :
    document.read? name decimal? = some decimal :=
  (read?_of_field? held).trans (decimal?_toText inRange)

theorem texts?_list (texts : List String) : texts? (.list (texts.map .text)) = some texts :=
  mapM_map_eq_some fun _ _ => rfl

end Document

/-- How the records of a family are kept, put in order, written and read. -/
structure RecordFamily (Key Rank Record : Type) [LinearOrder Rank] where
  /-- The field under which an export lists the records. -/
  name : String
  key : Record → Key
  le : Key → Key → Bool
  rank : Key → Rank
  rank_injective : Function.Injective rank
  le_iff_rank : ∀ {left right : Key}, le left right = true ↔ rank left ≤ rank right
  write : Record → Document
  read? : Document → Option Record
  /-- The decimals of a record by the names of their fields. -/
  decimals : Record → List (String × Decimal)
  /-- Decimals are written as their numerals. -/
  field?_write : ∀ record, ∀ field ∈ decimals record,
    (write record).field? field.1 = some (.text field.2.toText)
  read?_write : ∀ record, (∀ field ∈ decimals record, field.2.InRange) →
    read? (write record) = some record

namespace RateRecord

open Document

def key (record : RateRecord) : WindowKey :=
  ⟨record.period, record.window⟩

def decimals (record : RateRecord) : List (String × Decimal) :=
  [("beta", record.factor), ("smoothed_rate", record.rate)]

/-- The smoothed mint rate of a row. -/
def ofDocument? (row : Document) : Option RateRecord := do
  return {
    period := ← row.read? "period" int?
    window := ← row.read? "window" int?
    samples := ← row.read? "u" int?
    factor := ← row.read? "beta" decimal?
    rate := ← row.read? "smoothed_rate" decimal?
    whitelistedTokens := ← row.read? "whitelisted_tokens" texts?
    createdAt := ← row.read? "created_at" int? }

theorem ofDocument?_toDocument (record : RateRecord)
    (numerals : ∀ field ∈ record.decimals, field.2.InRange) :
    ofDocument? record.toDocument = some record := by
  simp only [decimals, List.forall_mem_cons] at numerals
  obtain ⟨factor, rate, -⟩ := numerals
  have tokens : record.toDocument.read? "whitelisted_tokens" texts? =
      some record.whitelistedTokens :=
    (read?_of_field? rfl).trans (texts?_list _)
  unfold ofDocument?
  rw [read?_numeral record.toDocument "beta" rfl factor,
    read?_numeral record.toDocument "smoothed_rate" rfl rate, tokens]
  rfl

/-- The family of smoothed mint rates. -/
def family : RecordFamily WindowKey (Int ×ₗ Int) RateRecord where
  name := "ema"
  key := key
  le := WindowKey.le
  rank := WindowKey.rank
  rank_injective := WindowKey.rank_injective
  le_iff_rank := WindowKey.le_iff_rank
  write := toDocument
  read? := ofDocument?
  decimals := decimals
  field?_write := fun _ => List.forall_mem_cons.mpr ⟨rfl, List.forall_mem_singleton.mpr rfl⟩
  read?_write := ofDocument?_toDocument

end RateRecord

namespace TokenYield

open Document

def key (record : TokenYield) : TokenKey :=
  ⟨record.token, ⟨record.period, record.window⟩⟩

def decimals (record : TokenYield) : List (String × Decimal) :=
  [("bean_apy", record.growth.bean), ("stalk_apy", record.growth.stalk)]

/-- The yield of a token of a row. -/
def ofDocument? (row : Document) : Option TokenYield := do
  return {
    token := ← row.read? "token" text?
    period := ← row.read? "period" int?
    window := ← row.read? "window" int?
    growth := {
      bean := ← row.read? "bean_apy" decimal?
      stalk := ← row.read? "stalk_apy" decimal? }
    createdAt := ← row.read? "created_at" int? }

theorem ofDocument?_toDocument (record : TokenYield)
    (numerals : ∀ field ∈ record.decimals, field.2.InRange) :
    ofDocument? record.toDocument = some record := by
  simp only [decimals, List.forall_mem_cons] at numerals
  obtain ⟨bean, stalk, -⟩ := numerals
  unfold ofDocument?
  rw [read?_numeral record.toDocument "bean_apy" rfl bean,
    read?_numeral record.toDocument "stalk_apy" rfl stalk]
  rfl

/-- The family of yields of tokens. -/
def family : RecordFamily TokenKey (List Nat ×ₗ (Int ×ₗ Int)) TokenYield where
  name := "token_yields"
  key := key
  le := TokenKey.le
  rank := TokenKey.rank
  rank_injective := TokenKey.rank_injective
  le_iff_rank := TokenKey.le_iff_rank
  write := toDocument
  read? := ofDocument?
  decimals := decimals
  field?_write := fun _ => List.forall_mem_cons.mpr ⟨rfl, List.forall_mem_singleton.mpr rfl⟩
  read?_write := ofDocument?_toDocument

end TokenYield

namespace FertilizerRecord

open Document

def key (record : FertilizerRecord) : WindowKey :=
  ⟨record.period, record.window⟩

def decimals (record : FertilizerRecord) : List (String × Decimal) :=
  [("humidity", record.humidity), ("rate_ema", record.rate),
    ("delta_rate_per_unit", record.ratePerUnit), ("simple_apy", record.simpleYield)]

/-- The yield of fertilizer of a row. -/
def ofDocument? (row : Document) : Option FertilizerRecord := do
  return {
    period := ← row.read? "period" int?
    window := ← row.read? "window" int?
    humidity := ← row.read? "humidity" decimal?
    outstandingSupply := ← row.read? "outstanding_supply" int?
    rate := ← row.read? "rate_ema" decimal?
    ratePerUnit := ← row.read? "delta_rate_per_unit" decimal?
    simpleYield := ← row.read? "simple_apy" decimal?
    createdAt := ← row.read? "created_at" int? }

theorem ofDocument?_toDocument (record : FertilizerRecord)
    (numerals : ∀ field ∈ record.decimals, field.2.InRange) :
    ofDocument? record.toDocument = some record := by
  simp only [decimals, List.forall_mem_cons] at numerals
  obtain ⟨humidity, rate, ratePerUnit, simpleYield, -⟩ := numerals
  unfold ofDocument?
  rw [read?_numeral record.toDocument "humidity" rfl humidity,
    read?_numeral record.toDocument "rate_ema" rfl rate,
    read?_numeral record.toDocument "delta_rate_per_unit" rfl ratePerUnit,
    read?_numeral record.toDocument "simple_apy" rfl simpleYield]
  rfl

/-- The family of yields of fertilizer. -/
def family : RecordFamily WindowKey (Int ×ₗ Int) FertilizerRecord where
  name := "fertilizer"
  key := key
  le := WindowKey.le
  rank := WindowKey.rank
  rank_injective := WindowKey.rank_injective
  le_iff_rank := WindowKey.le_iff_rank
  write := toDocument
  read? := ofDocument?
  decimals := decimals
  field?_write := fun _ => by
    simp only [decimals, List.forall_mem_cons]
    exact ⟨rfl, rfl, rfl, rfl, List.forall_mem_nil _⟩
  read?_write := ofDocument?_toDocument

end FertilizerRecord

end DepositYield
