/-!
# Tables

A table maps keys to values and remembers the order in which keys were first
written.  Writing a key that is present replaces its value in place.  No key
occurs twice; that is part of the type.
-/

namespace DepositYield

variable {Key Value : Type}

/-- Values by key, in the order of the first writes. -/
structure Table (Key Value : Type) where
  entries : List (Key × Value)
  distinct : (entries.map Prod.fst).Nodup

namespace Table

/-- The table without entries. -/
def empty : Table Key Value where
  entries := []
  distinct := List.nodup_nil

instance : EmptyCollection (Table Key Value) where
  emptyCollection := empty

instance : Inhabited (Table Key Value) where
  default := empty

/-- The keys, in the order of the first writes. -/
def keys (table : Table Key Value) : List Key :=
  table.entries.map Prod.fst

/-- The values, in the order of the first writes. -/
def values (table : Table Key Value) : List Value :=
  table.entries.map Prod.snd

/-- The number of keys. -/
def size (table : Table Key Value) : Nat :=
  table.entries.length

variable [DecidableEq Key]

/-- Write a key in a list of entries. -/
def putEntry (key : Key) (value : Value) : List (Key × Value) → List (Key × Value)
  | [] => [(key, value)]
  | (other, old) :: rest =>
      if other = key then (key, value) :: rest else (other, old) :: putEntry key value rest

/-- The value of a key in a list of entries. -/
def findValue? (key : Key) : List (Key × Value) → Option Value
  | [] => none
  | (other, value) :: rest => if other = key then some value else findValue? key rest

/-- Writing changes no other key and adds the key at the end if it is new. -/
theorem map_fst_putEntry (key : Key) (value : Value) (entries : List (Key × Value)) :
    (putEntry key value entries).map Prod.fst =
      if key ∈ entries.map Prod.fst then entries.map Prod.fst
      else entries.map Prod.fst ++ [key] := by
  induction entries with
  | nil => simp [putEntry]
  | cons entry rest ih =>
      obtain ⟨other, old⟩ := entry
      by_cases same : other = key
      · subst same
        simp [putEntry]
      · have different : key ≠ other := fun equal => same equal.symm
        simp only [putEntry, if_neg same, List.map_cons, List.mem_cons, different, false_or, ih]
        split <;> simp

theorem nodup_putEntry (key : Key) (value : Value) {entries : List (Key × Value)}
    (distinct : (entries.map Prod.fst).Nodup) :
    ((putEntry key value entries).map Prod.fst).Nodup := by
  rw [map_fst_putEntry]
  split
  · exact distinct
  · next absent =>
      rw [List.nodup_append]
      refine ⟨distinct, by simp, ?_⟩
      intro first inside second single equal
      rw [List.mem_singleton] at single
      subst single
      subst equal
      exact absent inside

/-- Write a key. -/
def set (table : Table Key Value) (key : Key) (value : Value) : Table Key Value where
  entries := putEntry key value table.entries
  distinct := nodup_putEntry key value table.distinct

/-- The value of a key. -/
def get? (table : Table Key Value) (key : Key) : Option Value :=
  findValue? key table.entries

/-- The value of a key, or a default when it was never written. -/
def getD (table : Table Key Value) (key : Key) (default : Value) : Value :=
  (table.get? key).getD default

/-- The table of a list of entries; of several entries of one key the last one
counts. -/
def ofList (entries : List (Key × Value)) : Table Key Value :=
  entries.foldl (fun table entry => table.set entry.1 entry.2) empty

theorem findValue?_putEntry (key other : Key) (value : Value) (entries : List (Key × Value)) :
    findValue? other (putEntry key value entries) =
      if key = other then some value else findValue? other entries := by
  induction entries with
  | nil => simp [putEntry, findValue?]
  | cons entry rest ih =>
      obtain ⟨first, old⟩ := entry
      by_cases same : first = key
      · subst same
        by_cases found : first = other <;> simp [putEntry, findValue?, found]
      · by_cases found : first = other
        · subst found
          have different : ¬ key = first := fun equal => same equal.symm
          simp [putEntry, findValue?, same, different]
        · simp [putEntry, findValue?, same, found, ih]

/-- A key that was just written has its new value, all others their old
ones. -/
theorem get?_set (table : Table Key Value) (key other : Key) (value : Value) :
    (table.set key value).get? other = if key = other then some value else table.get? other :=
  findValue?_putEntry key other value table.entries

@[simp]
theorem get?_empty (key : Key) : (empty : Table Key Value).get? key = none :=
  rfl

end Table

end DepositYield
