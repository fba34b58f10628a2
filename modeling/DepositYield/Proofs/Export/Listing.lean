import DepositYield.Proofs.Export.Family

/-!
# Tables as lists of rows

A table that keeps the records of a family under their keys is listed row by row, in the
order of the keys.  The rows hold every record once, and nothing else.  If its records are
put into a table again, it answers as the first one does.
-/

namespace DepositYield.RecordFamily

variable {Key Rank Record : Type} [DecidableEq Key] [LinearOrder Rank]

/-! ## Keeping records -/

/-- Keep a record under its key. -/
def put (family : RecordFamily Key Rank Record) (table : Table Key Record) (record : Record) :
    Table Key Record :=
  table.set (family.key record) record

/-- Keep records, one after the other. -/
def putAll (family : RecordFamily Key Rank Record) (table : Table Key Record)
    (records : List Record) : Table Key Record :=
  records.foldl family.put table

/-- All decimals of a record have numerals: their exponents are in the range of decimals. -/
def HasNumerals (family : RecordFamily Key Rank Record) (record : Record) : Prop :=
  ∀ field ∈ family.decimals record, field.2.InRange

/-- Every record stands under its own key, and its decimals have numerals. -/
def Keeps (family : RecordFamily Key Rank Record) (table : Table Key Record) : Prop :=
  ∀ key record, table.get? key = some record → family.key record = key ∧ family.HasNumerals record

variable (family : RecordFamily Key Rank Record) {table : Table Key Record}

/-- Of the records of a key, the last one is kept. -/
theorem get?_putAll (table : Table Key Record) (records : List Record) (key : Key) :
    (family.putAll table records).get? key =
      (records.reverse.find? fun record => family.key record = key).or (table.get? key) := by
  induction records generalizing table with
  | nil => rfl
  | cons record rest ih =>
      refine (ih (family.put table record)).trans ?_
      rw [List.reverse_cons, List.find?_append, Option.or_assoc]
      congr 1
      unfold put
      rw [Table.get?_set]
      by_cases own : family.key record = key <;> simp [own]

theorem mem_of_get?_putAll {records : List Record} {key : Key} {record : Record}
    (held : (family.putAll ∅ records).get? key = some record) :
    record ∈ records ∧ family.key record = key := by
  rw [get?_putAll, Table.get?_emptyCollection, Option.or_none] at held
  have own := List.find?_some held
  exact ⟨List.mem_reverse.mp (List.mem_of_find?_eq_some held), of_decide_eq_true own⟩

theorem keeps_putAll {records : List Record}
    (numerals : ∀ record ∈ records, family.HasNumerals record) :
    family.Keeps (family.putAll ∅ records) := by
  intro key record held
  obtain ⟨inside, own⟩ := family.mem_of_get?_putAll held
  exact ⟨own, numerals record inside⟩

/-- Of records with different keys, every one is kept. -/
theorem get?_putAll_iff {records : List Record} (distinct : (records.map family.key).Nodup)
    (key : Key) (record : Record) :
    (family.putAll ∅ records).get? key = some record ↔
      record ∈ records ∧ family.key record = key := by
  refine ⟨family.mem_of_get?_putAll, fun ⟨inside, own⟩ => ?_⟩
  cases held : (family.putAll ∅ records).get? key with
  | none =>
      exfalso
      rw [get?_putAll, Table.get?_emptyCollection, Option.or_none, List.find?_eq_none] at held
      exact held record (List.mem_reverse.mpr inside) (decide_eq_true own)
  | some other =>
      obtain ⟨otherInside, otherOwn⟩ := family.mem_of_get?_putAll held
      exact congrArg some
        (List.inj_on_of_nodup_map distinct otherInside inside (otherOwn.trans own.symm))

/-! ## Listing records -/

/-- A list holds the records of a table in the order of their keys, and a document holds their
rows. -/
structure Listing (table : Table Key Record) (document : Document) (records : List Record) :
    Prop where
  rows : document.field? family.name = some (.list (records.map family.write))
  /-- There is one row for each record. -/
  length_eq : records.length = table.size
  mem_iff : ∀ key record,
    table.get? key = some record ↔ record ∈ records ∧ family.key record = key
  /-- The keys ascend strictly. -/
  ascending : records.Pairwise fun earlier later =>
    family.rank (family.key earlier) < family.rank (family.key later)
  /-- The numerals in a row are read as the decimals of the record. -/
  decimals : ∀ record ∈ records, ∀ field ∈ family.decimals record,
    (family.write record).read? field.1 Document.decimal? = some field.2
  /-- A row is read as the record. -/
  records_read : ∀ record ∈ records, family.read? (family.write record) = some record

/-- The entries of a table in the order of their keys. -/
def sortedEntries (table : Table Key Record) : List (Key × Record) :=
  table.entries.mergeSort fun left right => family.le left.1 right.1

omit [DecidableEq Key] in
theorem sortedEntries_perm (table : Table Key Record) :
    (family.sortedEntries table).Perm table.entries :=
  List.mergeSort_perm _ _

omit [DecidableEq Key] in
theorem sortedEntries_ascending (table : Table Key Record) :
    (family.sortedEntries table).Pairwise fun earlier later =>
      family.rank earlier.1 < family.rank later.1 := by
  have sorted : (family.sortedEntries table).Pairwise fun earlier later =>
      family.le earlier.1 later.1 = true := by
    apply List.pairwise_mergeSort
    · intro first second third lower upper
      rw [family.le_iff_rank] at lower upper ⊢
      exact lower.trans upper
    · intro left right
      rw [Bool.or_eq_true, family.le_iff_rank, family.le_iff_rank]
      exact le_total _ _
  have distinct : (family.sortedEntries table).Pairwise fun earlier later =>
      earlier.1 ≠ later.1 :=
    List.pairwise_map.mp
      (((family.sortedEntries_perm table).map Prod.fst).nodup_iff.mpr table.distinct)
  exact (sorted.and distinct).imp fun both =>
    lt_of_le_of_ne (family.le_iff_rank.mp both.1) (family.rank_injective.ne both.2)

theorem listing_sortedRecords (keeps : family.Keeps table) {document : Document}
    (rows : document.field? family.name =
      some (.list ((ForecastStore.sortedRecords family.le table).map family.write))) :
    family.Listing table document (ForecastStore.sortedRecords family.le table) := by
  have listed : ForecastStore.sortedRecords family.le table =
      (family.sortedEntries table).map Prod.snd := rfl
  -- The entries are sorted by their keys; the records have these keys because of `keeps`.
  have kept : ∀ entry ∈ family.sortedEntries table,
      family.key entry.2 = entry.1 ∧ family.HasNumerals entry.2 := by
    intro entry inside
    have present := (family.sortedEntries_perm table).mem_iff.mp inside
    exact keeps entry.1 entry.2 (Table.get?_eq_some_iff.mpr present)
  have numerals : ∀ record ∈ ForecastStore.sortedRecords family.le table,
      family.HasNumerals record := by
    rw [listed]
    exact List.forall_mem_map.mpr fun entry inside => (kept entry inside).2
  refine
    { rows
      length_eq := ?length
      mem_iff := ?membership
      ascending := ?ascending
      decimals := fun record inside field held =>
        Document.read?_numeral _ _ (family.field?_write record field held)
          (numerals record inside field held)
      records_read := fun record inside => family.read?_write record (numerals record inside) }
  case length =>
    rw [listed, List.length_map]
    exact (family.sortedEntries_perm table).length_eq
  case membership =>
    intro key record
    rw [Table.get?_eq_some_iff, ← (family.sortedEntries_perm table).mem_iff, listed]
    constructor
    · intro inside
      exact ⟨List.mem_map_of_mem inside, (kept _ inside).1⟩
    · rintro ⟨inside, own⟩
      obtain ⟨entry, present, rfl⟩ := List.mem_map.mp inside
      rw [← own, (kept entry present).1]
      exact present
  case ascending =>
    rw [listed, List.pairwise_map]
    refine (family.sortedEntries_ascending table).imp_of_mem fun earlier later before => ?_
    rw [(kept _ earlier).1, (kept _ later).1]
    exact before

/-! ## Reading lists -/

/-- The records of the rows that a document holds. -/
def records? (document : Document) : Option (List Record) :=
  document.read? family.name fun rows => rows.items?.bind (List.mapM family.read?)

theorem Listing.records?_eq {document : Document} {records : List Record}
    (listing : family.Listing table document records) :
    family.records? document = some records :=
  (Document.read?_of_field? listing.rows).trans (mapM_map_eq_some listing.records_read)

/-- Records that are listed make up the same table again. -/
theorem Listing.get?_putAll {document : Document} {records : List Record}
    (listing : family.Listing table document records) (key : Key) :
    (family.putAll ∅ records).get? key = table.get? key := by
  have distinct : (records.map family.key).Nodup :=
    List.pairwise_map.mpr (listing.ascending.imp fun before same => before.ne (congrArg family.rank same))
  refine Option.ext fun record => ?_
  exact (family.get?_putAll_iff distinct key record).trans (listing.mem_iff key record).symm

end DepositYield.RecordFamily
