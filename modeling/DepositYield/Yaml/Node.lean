import DepositYield.Yaml.Lexer
import DepositYield.Yaml.Tag

/-!
# Nodes of YAML

A document is a tree of scalars, lists and mappings, each with a tag.  An alias stands
for the node whose anchor has the same name.  Inside that node itself the alias stands
for a node without parts.
-/

namespace DepositYield.Yaml

/-- A node of a document. -/
inductive Node where
  | scalar (tag : Tag) (text : String)
  | list (tag : Tag) (items : List Node)
  | mapping (tag : Tag) (entries : List (Node × Node))
  deriving Repr

namespace Node

/-- The tag of a node. -/
def tag : Node → Tag
  | .scalar tag _ => tag
  | .list tag _ => tag
  | .mapping tag _ => tag

/-- The node where nothing is written. -/
def empty : Node :=
  .scalar .null ""

/-! ## Reading from tokens -/

/-- What is left of the tokens, and the nodes with an anchor. -/
structure Source where
  tokens : List Token
  anchors : List (String × Node)

/-- A reader of nodes. -/
abbrev Reading := StateT Source (Except Fault)

/-- The next token. -/
def peek : Reading (Option Token) := do
  return (← get).tokens.head?

/-- Whether the next token is one of the given ones. -/
def isNext (tokens : List Token) : Reading Bool := do
  return (← peek).any tokens.contains

/-- Drop the next token. -/
def advance : Reading Unit :=
  modify fun source => { source with tokens := source.tokens.drop 1 }

/-- Drop the next token, which must be the given one. -/
def expect (token : Token) : Reading Unit := do
  if ← isNext [token] then advance else throw (.grammar .unexpectedToken)

/-- What the handles of tags stand for. -/
abbrev Handles := List (String × String)

/-- The handles that need no directive. -/
def standardHandles : Handles :=
  [("!", "!"), ("!!", Tag.leading)]

/-- The anchor and the tag in front of a node. -/
structure Properties where
  anchor : Option String
  /-- The full name of the tag. -/
  tag : Option String

namespace Properties

/-- Whether there is neither anchor nor tag. -/
def isEmpty (properties : Properties) : Bool :=
  properties.anchor.isNone && properties.tag.isNone

/-- The tag, if it says how the node is to be understood. -/
def specific? (properties : Properties) : Option Tag :=
  (properties.tag.filter (· ≠ "!")).map .ofName

/-- The tag of a list or a mapping. -/
def collectionTag (properties : Properties) (standard : Tag) : Tag :=
  properties.specific?.getD standard

/-- The tag of a scalar.  A scalar that is not plain is a text unless its tag is a
lone exclamation mark. -/
def scalarTag (properties : Properties) (text : String) (isPlain : Bool) : Tag :=
  match properties.specific? with
  | some tag => tag
  | none => if isPlain || properties.tag.isSome then .ofPlain text else .text

end Properties

/-- The full name of a tag. -/
def fullName (handles : Handles) (tag : WrittenTag) : Except Fault String :=
  match tag.handle with
  | none => .ok tag.suffix
  | some handle =>
      match handles.lookup handle with
      | some leading => .ok (leading ++ tag.suffix)
      | none => .error (.grammar (.unknownHandle handle))

/-- The anchor that may follow. -/
def readAnchor : Reading (Option String) := do
  match ← peek with
  | some (.anchor name) => advance; return some name
  | _ => return none

/-- The tag that may follow. -/
def readTag (handles : Handles) : Reading (Option String) := do
  match ← peek with
  | some (.tag tag) => advance; return some (← fullName handles tag)
  | _ => return none

/-- The anchor and the tag that may follow, in either order. -/
def readProperties (handles : Handles) : Reading Properties := do
  let early ← readAnchor
  let tag ← readTag handles
  let anchor ← if early.isNone && tag.isSome then readAnchor else pure early
  return { anchor, tag }

/-- The node of an alias. -/
def readAlias (name : String) : Reading Node := do
  match (← get).anchors.lookup name with
  | some node => return node
  | none => throw (.reference (.unknownAlias name))

/-- Give a node a name. -/
def keep (anchor : Option String) (node : Node) : Reading Unit :=
  match anchor with
  | some name => modify fun source => { source with anchors := (name, node) :: source.anchors }
  | none => pure ()

/-- Refuse a name that is taken. -/
def checkAnchor (anchor : Option String) : Reading Unit := do
  if let some name := anchor then
    if ((← get).anchors.lookup name).isSome then throw (.reference (.repeatedAnchor name))

/-- Where a node stands. -/
inductive Place where
  /-- Between brackets or braces. -/
  | flow
  | block
  /-- In a mapping, where the items of a list need no indentation. -/
  | entry
  deriving DecidableEq, Repr

/-- The items of a list or the entries of a mapping are read by a function under the
name of the node. -/
def readParts {α : Type} (anchor : Option String) (read : Reading α) (make : α → Node)
    (none : α) : Reading Node := do
  keep anchor (make none)
  let node := make (← read)
  keep anchor node
  return node

/-- A node of which only the anchor or the tag is written. -/
def readNothing (properties : Properties) : Reading Node := do
  if properties.isEmpty then throw (.grammar .unexpectedToken)
  let node := Node.scalar (properties.scalarTag "" true) ""
  keep properties.anchor node
  return node

mutual

/-- A node.  Readers are bounded by the number of tokens. -/
def read (handles : Handles) (limit : Nat) (place : Place) : Reading Node := do
  match limit, ← peek with
  | _ + 1, some (.alias name) => do
      advance
      readAlias name
  | limit + 1, _ => do
      let properties ← readProperties handles
      checkAnchor properties.anchor
      readContent handles limit place properties
  | 0, _ => throw (.grammar .unexpectedToken)

/-- A node after its anchor and its tag. -/
def readContent (handles : Handles) (limit : Nat) (place : Place) (properties : Properties) :
    Reading Node := do
  let anchor := properties.anchor
  let makeList := Node.list (properties.collectionTag .list)
  let makeMapping := Node.mapping (properties.collectionTag .mapping)
  match limit, ← peek with
  | limit + 1, some token =>
      match token, place with
      | .item, .entry => readParts anchor (readOpenItems handles limit) makeList []
      | .scalar text isPlain, _ =>
          advance
          let node := Node.scalar (properties.scalarTag text isPlain) text
          keep anchor node
          return node
      | .flowListStart, _ =>
          advance
          readParts anchor (readFlowItems handles limit true) makeList []
      | .flowMappingStart, _ =>
          advance
          readParts anchor (readFlowEntries handles limit true) makeMapping []
      | .blockListStart, .block | .blockListStart, .entry =>
          advance
          readParts anchor (readBlockItems handles limit) makeList []
      | .blockMappingStart, .block | .blockMappingStart, .entry =>
          advance
          readParts anchor (readBlockEntries handles limit) makeMapping []
      | _, _ => readNothing properties
  | _, _ => readNothing properties

/-- A node, or nothing before one of the given tokens or at the end. -/
def readOptional (handles : Handles) (limit : Nat) (place : Place) (ends : List Token) :
    Reading Node := do
  match limit with
  | 0 => throw (.grammar .unexpectedToken)
  | limit + 1 => if ← isNext ends then return empty else read handles limit place

/-- The items of an indented list. -/
def readBlockItems (handles : Handles) (limit : Nat) : Reading (List Node) := do
  match limit with
  | 0 => throw (.grammar .unexpectedToken)
  | limit + 1 =>
      if ← isNext [.item] then
        advance
        let item ← readOptional handles limit .block [.item, .blockEnd]
        return item :: (← readBlockItems handles limit)
      else
        expect .blockEnd
        return []

/-- The items of a list that is not indented. -/
def readOpenItems (handles : Handles) (limit : Nat) : Reading (List Node) := do
  match limit with
  | 0 => throw (.grammar .unexpectedToken)
  | limit + 1 =>
      if ← isNext [.item] then
        advance
        let item ← readOptional handles limit .block [.item, .key, .value, .blockEnd]
        return item :: (← readOpenItems handles limit)
      else
        return []

/-- The value that may follow a key, before one of the given tokens. -/
def readValue (handles : Handles) (limit : Nat) (place : Place) (ends : List Token) :
    Reading Node := do
  match limit with
  | 0 => throw (.grammar .unexpectedToken)
  | limit + 1 =>
      if ← isNext [.value] then
        advance
        readOptional handles limit place ends
      else
        return empty

/-- The entries of an indented mapping. -/
def readBlockEntries (handles : Handles) (limit : Nat) : Reading (List (Node × Node)) := do
  match limit with
  | 0 => throw (.grammar .unexpectedToken)
  | limit + 1 =>
      if ← isNext [.key] then
        advance
        let name ← readOptional handles limit .entry [.key, .value, .blockEnd]
        let value ← readValue handles limit .entry [.key, .value, .blockEnd]
        return (name, value) :: (← readBlockEntries handles limit)
      else
        expect .blockEnd
        return []

/-- A key with its mark and its value between brackets or braces. -/
def readFlowPair (handles : Handles) (limit : Nat) (closing : Token) : Reading (Node × Node) := do
  match limit with
  | 0 => throw (.grammar .unexpectedToken)
  | limit + 1 =>
      advance
      let name ← readOptional handles limit .flow [.value, .comma, closing]
      let value ← readValue handles limit .flow [.comma, closing]
      return (name, value)

/-- The items of a list between brackets.  A key with a value is a mapping of its
own. -/
def readFlowItems (handles : Handles) (limit : Nat) (isFirst : Bool) : Reading (List Node) := do
  match limit with
  | 0 => throw (.grammar .unexpectedToken)
  | limit + 1 =>
      if !isFirst && !(← isNext [.flowListEnd]) then expect .comma
      if ← isNext [.flowListEnd] then
        advance
        return []
      else
        let item ←
          if ← isNext [.key] then
            let pair ← readFlowPair handles limit .flowListEnd
            pure (Node.mapping .mapping [pair])
          else
            read handles limit .flow
        return item :: (← readFlowItems handles limit false)

/-- The entries of a mapping between braces.  A key may stand without a value. -/
def readFlowEntries (handles : Handles) (limit : Nat) (isFirst : Bool) :
    Reading (List (Node × Node)) := do
  match limit with
  | 0 => throw (.grammar .unexpectedToken)
  | limit + 1 =>
      if !isFirst && !(← isNext [.flowMappingEnd]) then expect .comma
      if ← isNext [.flowMappingEnd] then
        advance
        return []
      else
        let entry ←
          if ← isNext [.key] then readFlowPair handles limit .flowMappingEnd
          else do
            let name ← read handles limit .flow
            pure (name, empty)
        return entry :: (← readFlowEntries handles limit false)

end

/-! ## Documents -/

/-- The handles of a document after its directives. -/
def readDirectives (limit : Nat) (hasVersion : Bool) (handles : Handles) : Reading Handles := do
  match limit, ← peek with
  | limit + 1, some (.directive directive) => do
      advance
      match directive with
      | .version major =>
          if hasVersion then throw (.grammar .repeatedDirective)
          if major ≠ 1 then throw (.grammar .unsupportedVersion)
          readDirectives limit true handles
      | .handle handle leading =>
          if (handles.lookup handle).isSome then throw (.grammar .repeatedDirective)
          readDirectives limit hasVersion ((handle, leading) :: handles)
      | .other => readDirectives limit hasVersion handles
  | _, _ => return handles ++ standardHandles

/-- Whether the next token stands outside of documents. -/
def isOutside : Reading Bool := do
  match ← peek with
  | none => return true
  | some (.directive _) => return true
  | some token => return token = .documentStart

/-- The document of a text, if there is one. -/
def readDocument (limit : Nat) : Reading (Option Node) := do
  if !(← isOutside) then
    return some (← read standardHandles limit .block)
  else if (← peek).isNone then
    return none
  else
    let handles ← readDirectives limit false []
    expect .documentStart
    if (← isOutside) || (← isNext [.documentEnd]) then return some empty
    else return some (← read handles limit .block)

/-- The document of a text that has no more than one. -/
def readSingleDocument (limit : Nat) : Reading (Option Node) := do
  let document ← readDocument limit
  let rest := (← get).tokens
  if rest.all (· = .documentEnd) then return document
  else throw (.reference .severalDocuments)

/-- The node of a text; `none` when the text is empty. -/
def ofText (text : String) : Except Fault (Option Node) := do
  let tokens ← tokensOf text
  let (node, _) ← (readSingleDocument (4 * tokens.length + 4)).run { tokens, anchors := [] }
  return node

end Node

end DepositYield.Yaml
