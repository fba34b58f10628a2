import DepositYield.Decimal.Order
import DepositYield.Yaml.Node
import DepositYield.Yaml.Scalar

/-!
# Documents of YAML nodes

The value of a node follows from its tag.  Of several faults the one counts that stands
in the outermost collection, and among those the first one.

The entries of a mapping whose key is a merge come in front of the entries of the
mapping itself, so that the latter win.
-/

namespace DepositYield.Yaml

/-! ## Faults at a depth -/

/-- A value, or a fault and the number of collections around it. -/
abbrev Nested (α : Type) := Except (Nat × Fault) α

namespace Nested

/-- A value at a depth. -/
def lift {α : Type} (depth : Nat) (value : Except Fault α) : Nested α :=
  value.mapError fun fault => (depth, fault)

/-- Join two values.  Of two faults the outer one counts, of two equally deep ones the
first. -/
def both {α β γ : Type} (join : α → β → γ) (left : Nested α) (right : Nested β) : Nested γ :=
  match left, right with
  | .ok first, .ok second => .ok (join first second)
  | .error fault, .ok _ => .error fault
  | .ok _, .error fault => .error fault
  | .error first, .error second => .error (if second.1 < first.1 then second else first)

/-- All values of a list. -/
def all {α : Type} : List (Nested α) → Nested (List α)
  | [] => .ok []
  | first :: rest => both List.cons first (all rest)

end Nested

/-! ## Keys -/

/-- The number of a value, if it is one. -/
def numberOf? : Document → Option Decimal
  | .bool value => some (if value then .one else .zero)
  | .int value => some (.ofInt value)
  | .float value => some value.toDecimal
  | _ => none

/-- Whether two values are the same key; numbers of different kinds may be. -/
def isSameKey (left right : Document) : Bool :=
  match left, right with
  | .null, .null => true
  | .text first, .text second => first = second
  | .bytes first, .bytes second => first = second
  | .date first, .date second => first = second
  | .time first, .time second => first = second
  | _, _ =>
      match numberOf? left, numberOf? right with
      | some first, some second => Decimal.compare? first second = some .eq
      | _, _ => false

/-- The keys without repetitions. -/
def distinctKeys (keys : List Document) : List Document :=
  keys.foldl (fun seen key => if seen.any (isSameKey · key) then seen else seen ++ [key]) []

namespace Node

/-! ## Merging -/

mutual

/-- The greatest number of collections around a scalar of a node. -/
def height : Node → Nat
  | .scalar _ _ => 0
  | .list _ items => itemsHeight items + 1
  | .mapping _ entries => entriesHeight entries + 1

/-- The greatest height of the items of a list. -/
def itemsHeight : List Node → Nat
  | [] => 0
  | first :: rest => max first.height (itemsHeight rest)

/-- The greatest height of the keys and values of a mapping. -/
def entriesHeight : List (Node × Node) → Nat
  | [] => 0
  | (name, value) :: rest => max (max name.height value.height) (entriesHeight rest)

end

/-- A node with another tag. -/
def withTag (tag : Tag) : Node → Node
  | .scalar _ text => .scalar tag text
  | .list _ items => .list tag items
  | .mapping _ entries => .mapping tag entries

/-- The key of an entry.  The key that stands for the value of a mapping is a text
where it is not asked for. -/
def plainKey (key : Node) : Node :=
  if key.tag = .value then key.withTag .text else key

/-- The entries of a mapping, given the function for the entries of what is merged
into it. -/
def mergeEntries (merged : Node → Except Fault (List (Node × Node))) :
    List (Node × Node) → Except Fault (List (Node × Node) × List (Node × Node))
  | [] => .ok ([], [])
  | (key, value) :: rest => do
      if key.tag = .merge then
        let early ← merged value
        let (late, own) ← mergeEntries merged rest
        return (early ++ late, own)
      else
        let (others, own) ← mergeEntries merged rest
        return (others, (plainKey key, value) :: own)

mutual

/-- The entries of a mapping after merging. -/
def flatten (limit : Nat) (entries : List (Node × Node)) : Except Fault (List (Node × Node)) := do
  match limit with
  | 0 => return entries
  | limit + 1 =>
      let (merged, own) ← mergeEntries (mergedEntries limit) entries
      return merged ++ own

/-- The entries that a node brings into a mapping.  Of the mappings in a list the first
one wins, so it comes last. -/
def mergedEntries (limit : Nat) (node : Node) : Except Fault (List (Node × Node)) := do
  match limit, node with
  | limit + 1, .mapping _ entries => flatten limit entries
  | limit + 1, .list _ items => do
      let parts ← items.mapM fun item => match item with
        | .mapping _ entries => flatten limit entries
        | _ => .error (.node .unmergeable)
      return parts.reverse.flatten
  | _, _ => throw (.node .unmergeable)

end

/-! ## Values -/

/-- The text of a node that stands for a scalar: its own or that of its value. -/
def scalarText (limit : Nat) (node : Node) : Except Fault String :=
  match limit, node with
  | _, .scalar _ text => .ok text
  | limit + 1, .mapping _ entries =>
      match entries.find? fun entry => entry.1.tag = .value with
      | some (_, value) => scalarText limit value
      | none => .error (.node .wrongKind)
  | _, _ => .error (.node .wrongKind)

/-- The items of a list. -/
def items? : Node → Option (List Node)
  | .list _ items => some items
  | _ => none

/-- The only entry of a mapping. -/
def onlyEntry? : Node → Option (Node × Node)
  | .mapping _ [entry] => some entry
  | _ => none

/-- Whether the value of a node is a collection. -/
def isCollection (node : Node) : Bool :=
  [Tag.orderedMapping, .pairs, .set, .list, .mapping].contains node.tag

/-- The value of a node that stands for a scalar. -/
def scalarValue (node : Node) : Except Fault Document := do
  let text ← node.scalarText node.height
  match node.tag with
  | .null => return .null
  | .bool => return .bool (← truthOf text)
  | .int => return .int (← integerOf text)
  | .float => return .float (← floatOf text)
  | .binary => return .bytes (← bytesOf text)
  | .timestamp => timeOf text
  | _ => return .text text

mutual

/-- The value of a node with a number of collections around it. -/
def valueAt (limit : Nat) (depth : Nat) (node : Node) : Nested Document :=
  let inside := depth + 1
  match limit with
  | 0 => .error (depth, .node .wrongKind)
  | limit + 1 =>
      match node.tag with
      | .list =>
          match node.items? with
          | some items => (Nested.all (items.map (valueAt limit inside))).map .list
          | none => .error (inside, .node .wrongKind)
      | .mapping => (entriesAt limit inside node).map .ofEntries
      | .set => (entriesAt limit inside node).map fun entries =>
          .set (distinctKeys (entries.map Prod.fst))
      | .orderedMapping => pairsAt limit inside node
      | .pairs => pairsAt limit inside node
      | .merge => .error (depth, .node (.unknownTag node.tag.name))
      | .value => .error (depth, .node (.unknownTag node.tag.name))
      | .other name => .error (depth, .node (.unknownTag name))
      | _ => Nested.lift depth node.scalarValue

/-- The entries of a mapping. -/
def entriesAt (limit : Nat) (depth : Nat) (node : Node) : Nested (List (Document × Document)) :=
  match limit, node with
  | limit + 1, .mapping _ entries =>
      match flatten (2 * node.height) entries with
      | .error fault => .error (depth, fault)
      | .ok entries => Nested.all (entries.map (entryAt limit depth))
  | _, _ => .error (depth, .node .wrongKind)

/-- An entry of a mapping, whose key must not be a collection. -/
def entryAt (limit : Nat) (depth : Nat) (entry : Node × Node) : Nested (Document × Document) :=
  match limit with
  | 0 => .error (depth, .node .wrongKind)
  | limit + 1 =>
      let key : Nested Document :=
        if entry.1.isCollection then .error (depth, .node .collectionKey)
        else valueAt limit depth entry.1
      Nested.both Prod.mk key (valueAt limit depth entry.2)

/-- A list of mappings with one entry each, as a list of pairs. -/
def pairsAt (limit : Nat) (depth : Nat) (node : Node) : Nested Document :=
  match limit, node.items? with
  | limit + 1, some items =>
      (Nested.all (items.map (pairAt limit depth))).map .list
  | _, _ => .error (depth, .node .wrongKind)

/-- A mapping with one entry as a pair. -/
def pairAt (limit : Nat) (depth : Nat) (node : Node) : Nested Document :=
  match limit, node.onlyEntry? with
  | limit + 1, some (name, value) =>
      Nested.both (fun first second => .list [first, second]) (valueAt limit depth name)
        (valueAt limit depth value)
  | _, _ => .error (depth, .node .wrongKind)

end

/-- The value of a node. -/
def value (node : Node) : Except Fault Document :=
  (valueAt (4 * node.height + 4) 0 node).mapError Prod.snd

end Node

end DepositYield.Yaml

namespace DepositYield.Document

/-- The document that a text in YAML holds. -/
def ofYaml (text : String) : Except Yaml.Fault Document := do
  match ← Yaml.Node.ofText text with
  | none => return .null
  | some node => node.value

end DepositYield.Document
