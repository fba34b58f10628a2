import DepositYield.Yaml.Cursor
import DepositYield.Yaml.Fault

/-!
# Tokens of YAML

Blocks are told apart by indentation; in the sequence of tokens their starts and ends
are tokens of their own, and so are the starts of keys that have no mark.

This file holds the tokens and the readers of names, tags and directives.
-/

namespace DepositYield.Yaml

/-- A tag as it is written: a handle and a suffix, or a suffix alone. -/
structure WrittenTag where
  handle : Option String
  suffix : String
  deriving DecidableEq, Repr

/-- A line before a document that begins with a percent sign. -/
inductive Directive where
  | version (major : Nat)
  | handle (handle leading : String)
  | other
  deriving DecidableEq, Repr

/-- A token. -/
inductive Token where
  | directive (directive : Directive)
  | documentStart
  | documentEnd
  | blockListStart
  | blockMappingStart
  | blockEnd
  | flowListStart
  | flowListEnd
  | flowMappingStart
  | flowMappingEnd
  | item
  | comma
  | key
  | value
  | alias (name : String)
  | anchor (name : String)
  | tag (tag : WrittenTag)
  | scalar (text : String) (isPlain : Bool)
  deriving DecidableEq, Repr

/-! ## Names -/

/-- The marks that may follow a name besides white space. -/
def marksAfterName : List Char :=
  ['?', ':', ',', ']', '\x7d', '%', '@', '\x60']

/-- The name of an anchor or of an alias, from its first character on. -/
def readName (cursor : Cursor) : Except Fault (String × Cursor) :=
  let (name, after) := cursor.span isNameCharacter
  if !name.isEmpty && (atGap after.rest || after.rest.head?.any marksAfterName.contains) then
    .ok (String.ofList name, after)
  else
    .error (.token .name)

/-! ## Tags -/

/-- A character of a tag or of what a handle stands for. -/
def isTagCharacter (character : Char) : Bool :=
  isNameCharacter character ||
    [';', '/', '?', ':', '@', '&', '=', '+', '$', ',', '.', '!', '~', '*', '\'', '(', ')', '[',
      ']'].contains character

/-- The bytes of escapes with a percent sign, and the place after the last one. -/
def readTagBytes (limit : Nat) (cursor : Cursor) : Except Fault (List UInt8 × Cursor) :=
  match limit, cursor.rest with
  | limit + 1, '%' :: first :: second :: _ =>
      match hexDigit? first, hexDigit? second with
      | some high, some low => do
          let (bytes, after) ← readTagBytes limit (cursor.skip 3)
          return (UInt8.ofNat (16 * high + low) :: bytes, after)
      | _, _ => .error (.token .tag)
  | _, '%' :: _ => .error (.token .tag)
  | _, _ => .ok ([], cursor)

/-- The characters of a tag, from its first character on. -/
def readTagCharacters (limit : Nat) (cursor : Cursor) : Except Fault (List Char × Cursor) := do
  let (run, after) := cursor.span isTagCharacter
  match limit with
  | 0 => return (run, after)
  | limit + 1 =>
      if after.isAt '%' then
        let (bytes, after) ← readTagBytes after.rest.length after
        match String.fromUTF8? ⟨bytes.toArray⟩ with
        | none => throw (.token .tag)
        | some text =>
            let (others, last) ← readTagCharacters limit after
            return (run ++ text.toList ++ others, last)
      else
        return (run, after)

/-- The characters of a tag, at least one as it is written. -/
def readTagText (cursor : Cursor) : Except Fault (String × Cursor) := do
  let (text, after) ← readTagCharacters cursor.rest.length cursor
  if after.index = cursor.index then throw (.token .tag)
  return (String.ofList text, after)

/-- The handle of a tag: an exclamation mark alone, or two of them around a name. -/
def readHandle (cursor : Cursor) : Except Fault (String × Cursor) :=
  let (name, after) := cursor.next.span isNameCharacter
  if !cursor.isAt '!' then .error (.token .tag)
  else if cursor.next.isAt ' ' then .ok ("!", cursor.next)
  else if after.isAt '!' then .ok ("!" ++ String.ofList name ++ "!", after.next)
  else .error (.token .tag)

/-- Whether a tag has a handle with a name: another exclamation mark before white
space. -/
def hasNamedHandle (cursor : Cursor) : Bool :=
  (cursor.next.rest.takeWhile fun character => character ≠ ' ' && !isBreak character).contains '!'

/-- A tag, from its exclamation mark on. -/
def readTag (cursor : Cursor) : Except Fault (WrittenTag × Cursor) := do
  let (tag, after) ←
    if cursor.next.isAt '<' then do
      let (suffix, after) ← readTagText (cursor.skip 2)
      if !after.isAt '>' then throw (.token .tag)
      pure (⟨none, suffix⟩, after.next)
    else if atGap cursor.next.rest then
      pure (⟨none, "!"⟩, cursor.next)
    else do
      let (handle, after) ←
        if hasNamedHandle cursor then readHandle cursor else pure ("!", cursor.next)
      let (suffix, after) ← readTagText after
      pure (⟨some handle, suffix⟩, after)
  if !atBlank after.rest then throw (.token .tag)
  return (tag, after)

/-! ## Directives -/

/-- A run of digits, at least one. -/
def readDigits (cursor : Cursor) : Except Fault (Nat × Cursor) :=
  let (digits, after) := cursor.span Char.isDigit
  if digits.isEmpty then .error (.token .directive)
  else .ok (Text.positional (digits.filterMap Text.asciiDigit?), after)

/-- The version of a directive: two numbers with a point between them. -/
def readVersion (cursor : Cursor) : Except Fault (Directive × Cursor) := do
  let (major, after) ← readDigits (cursor.skipWhile (· = ' '))
  if !after.isAt '.' then throw (.token .directive)
  let (_, after) ← readDigits after.next
  if !atBlank after.rest then throw (.token .directive)
  return (.version major, after)

/-- The handle of a directive and what it stands for. -/
def readHandleMeaning (cursor : Cursor) : Except Fault (Directive × Cursor) := do
  let (handle, after) ← readHandle (cursor.skipWhile (· = ' '))
  if !after.isAt ' ' then throw (.token .directive)
  let (leading, after) ← readTagText (after.skipWhile (· = ' '))
  if !atBlank after.rest then throw (.token .directive)
  return (.handle handle leading, after)

/-- A directive, from its percent sign on, and the start of the next line. -/
def readDirective (cursor : Cursor) : Except Fault (Directive × Cursor) := do
  let (name, after) := cursor.next.span isNameCharacter
  if name.isEmpty || !atBlank after.rest then throw (.token .directive)
  let (directive, after) ←
    match String.ofList name with
    | "YAML" => readVersion after
    | "TAG" => readHandleMeaning after
    | _ => pure (.other, after.skipWhile (!isBreak ·))
  let lineEnd := (after.skipWhile (· = ' ')).skipComment
  if !atLineEnd lineEnd.rest then throw (.token .directive)
  return (directive, lineEnd.next)

end DepositYield.Yaml
