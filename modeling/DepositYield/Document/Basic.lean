import DepositYield.Binary64
import DepositYield.Document.Calendar

/-!
# Documents

A document is the tree of values that a configuration file or a record file
holds before any meaning is given to it.  Whole numbers and numbers in binary
floating point stay apart, and the fields of an object keep their order.

Besides the values that every notation has, a document may hold what only some
notations can write: bytes, dates, times, sets, and mappings from names that are no
texts.
-/

namespace DepositYield

/-- A tree of plain values. -/
inductive Document where
  | null
  | bool (value : Bool)
  | int (value : Int)
  | float (value : Binary64)
  | text (value : String)
  | list (items : List Document)
  | object (fields : List (String × Document))
  | bytes (value : List UInt8)
  | date (value : CalendarDate)
  | time (value : CalendarTime)
  | set (items : List Document)
  /-- A mapping with a name that is no text. -/
  | mapping (entries : List (Document × Document))
  deriving Inhabited

namespace Document

/-- Put a field into a list of fields.  A field that is already present keeps
its place and takes the new value. -/
def putField (fields : List (String × Document)) (name : String) (value : Document) :
    List (String × Document) :=
  match fields with
  | [] => [(name, value)]
  | (other, old) :: rest =>
      if other = name then (name, value) :: rest else (other, old) :: putField rest name value

/-- The object with the given fields; of several fields of one name the last
one counts. -/
def ofFields (fields : List (String × Document)) : Document :=
  .object (fields.foldl (fun seen field => putField seen field.1 field.2) [])

/-- The text of a value, if it is one. -/
def text? : Document → Option String
  | .text value => some value
  | _ => none

/-- The fields of a mapping whose names are texts; of several fields of one name the
last one counts. -/
def textFields (entries : List (Document × Document)) : List (String × Document) :=
  let named := entries.filterMap fun entry => entry.1.text?.map fun name => (name, entry.2)
  named.foldl (fun seen field => putField seen field.1 field.2) []

/-- The mapping of the given entries: an object if all names are texts. -/
def ofEntries (entries : List (Document × Document)) : Document :=
  if entries.all fun entry => entry.1.text?.isSome then .object (textFields entries)
  else .mapping entries

/-- The value of a field of an object. -/
def field? (document : Document) (name : String) : Option Document :=
  match document with
  | .object fields => fields.lookup name
  | _ => none

end Document

end DepositYield
