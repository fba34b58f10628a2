import DepositYield.Yaml.Block
import DepositYield.Yaml.Plain
import DepositYield.Yaml.Quoted
import DepositYield.Yaml.Token

/-!
# Tokens of a text

Outside brackets and braces a token that stands further to the left than the current
block ends that block.  A key without a mark is recognised by the colon after it, so
each token that might begin a key is remembered until the line ends; when the colon
comes, the start of the key is put in front of the remembered token.
-/

namespace DepositYield.Yaml

/-- A token that might begin a key. -/
structure KeyCandidate where
  /-- The number of tokens before it. -/
  position : Nat
  /-- Where the token begins. -/
  start : Cursor
  /-- Whether the block cannot go on without a key here. -/
  isRequired : Bool

/-- The state of the reading of tokens. -/
structure Lexer where
  cursor : Cursor
  tokens : Array Token
  /-- The column of the innermost block, minus one outside all blocks. -/
  indent : Int
  /-- The columns of the blocks around the innermost one. -/
  outerIndents : List Int
  /-- Whether a key without a mark may begin here. -/
  allowsKey : Bool
  /-- The candidate for a key between the innermost brackets or braces. -/
  candidate : Option KeyCandidate
  /-- The candidates between the brackets and braces around the innermost ones, and
  outside of them. -/
  outerCandidates : List (Option KeyCandidate)

namespace Lexer

/-- The greatest number of characters of a key without a mark. -/
def maxKeyLength : Nat := 1024

/-- The state at the start of a text. -/
def start (characters : List Char) : Lexer where
  cursor := .start characters
  tokens := #[]
  indent := -1
  outerIndents := []
  allowsKey := true
  candidate := none
  outerCandidates := []

/-- Whether the reading is inside brackets or braces. -/
def inFlow (lexer : Lexer) : Bool :=
  !lexer.outerCandidates.isEmpty

/-- Add a token. -/
def emit (lexer : Lexer) (token : Token) : Lexer :=
  { lexer with tokens := lexer.tokens.push token }

/-- Add a token of a number of characters. -/
def emitMark (lexer : Lexer) (length : Nat) (token : Token) : Lexer :=
  { lexer.emit token with cursor := lexer.cursor.skip length }

/-- Add a token that has been read up to a place. -/
def emitUpTo (lexer : Lexer) (place : Cursor) (token : Token) : Lexer :=
  { lexer.emit token with cursor := place }

/-! ## Blocks -/

/-- End the blocks that are indented more than a column. -/
def closeBlocks (column : Int) (tokens : Array Token) (indent : Int) :
    List Int → Array Token × Int × List Int
  | [] => (tokens, indent, [])
  | outer :: others =>
      if column < indent then closeBlocks column (tokens.push .blockEnd) outer others
      else (tokens, indent, outer :: others)

/-- End the blocks that are indented more than a column; inside brackets and braces
indentation has no meaning. -/
def unwind (lexer : Lexer) (column : Int) : Lexer :=
  if lexer.inFlow then
    lexer
  else
    let (tokens, indent, outerIndents) :=
      closeBlocks column lexer.tokens lexer.indent lexer.outerIndents
    { lexer with tokens, indent, outerIndents }

/-- Begin a block at a column in front of a token, unless the current block already
stands there. -/
def openBlock (lexer : Lexer) (column : Nat) (position : Nat) (token : Token) : Lexer :=
  if !lexer.inFlow && lexer.indent < column then
    { lexer with
      tokens := lexer.tokens.insertIdxIfInBounds position token
      indent := column
      outerIndents := lexer.indent :: lexer.outerIndents }
  else
    lexer

/-! ## Candidates for keys -/

/-- Whether a candidate is out of reach: on another line or too far away. -/
def isStale (lexer : Lexer) (candidate : KeyCandidate) : Bool :=
  candidate.start.line ≠ lexer.cursor.line ||
    candidate.start.index + maxKeyLength < lexer.cursor.index

/-- Give up a candidate. -/
def giveUp (candidate : Option KeyCandidate) : Except Fault (Option KeyCandidate) :=
  match candidate with
  | some candidate => if candidate.isRequired then .error (.token .missingColon) else .ok none
  | none => .ok none

/-- Give up a candidate that is out of reach. -/
def giveUpStale (lexer : Lexer) (candidate : Option KeyCandidate) :
    Except Fault (Option KeyCandidate) :=
  if candidate.any lexer.isStale then giveUp candidate else .ok candidate

/-- Give up the candidates that are out of reach. -/
def dropStale (lexer : Lexer) : Except Fault Lexer := do
  let candidate ← lexer.giveUpStale lexer.candidate
  let outerCandidates ← lexer.outerCandidates.mapM lexer.giveUpStale
  return { lexer with candidate, outerCandidates }

/-- Give up the current candidate. -/
def dropCandidate (lexer : Lexer) : Except Fault Lexer := do
  return { lexer with candidate := ← giveUp lexer.candidate }

/-- Remember the next token as a candidate where a key may begin. -/
def remember (lexer : Lexer) : Except Fault Lexer := do
  if lexer.allowsKey then
    discard (giveUp lexer.candidate)
    let isRequired := !lexer.inFlow && lexer.indent = lexer.cursor.column
    let candidate := { position := lexer.tokens.size, start := lexer.cursor, isRequired }
    return { lexer with candidate := some candidate }
  else
    return lexer

/-! ## Single tokens -/

/-- The mark of a document. -/
def documentMark (lexer : Lexer) (token : Token) : Except Fault Lexer := do
  let lexer ← (lexer.unwind (-1)).dropCandidate
  return { lexer.emitMark 3 token with allowsKey := false }

/-- A directive. -/
def directive (lexer : Lexer) : Except Fault Lexer := do
  let lexer ← (lexer.unwind (-1)).dropCandidate
  let (directive, after) ← readDirective lexer.cursor
  return { lexer.emitUpTo after (.directive directive) with allowsKey := false }

/-- An opening bracket or brace. -/
def flowStart (lexer : Lexer) (token : Token) : Except Fault Lexer := do
  let lexer ← lexer.remember
  return { lexer.emitMark 1 token with
    allowsKey := true
    candidate := none
    outerCandidates := lexer.candidate :: lexer.outerCandidates }

/-- A closing bracket or brace. -/
def flowEnd (lexer : Lexer) (token : Token) : Except Fault Lexer := do
  let lexer ← lexer.dropCandidate
  match lexer.outerCandidates with
  | [] => throw (.grammar .unexpectedToken)
  | candidate :: outerCandidates =>
      return { lexer.emitMark 1 token with allowsKey := false, candidate, outerCandidates }

/-- A comma between brackets or braces. -/
def comma (lexer : Lexer) : Except Fault Lexer := do
  let lexer ← lexer.dropCandidate
  return { lexer.emitMark 1 .comma with allowsKey := true }

/-- A dash or a question mark in front of an item or of a key. -/
def entryMark (lexer : Lexer) (token block : Token) (allowsKey : Bool) : Except Fault Lexer := do
  if !lexer.inFlow && !lexer.allowsKey then throw (.token .misplacedEntry)
  let lexer ← (lexer.openBlock lexer.cursor.column lexer.tokens.size block).dropCandidate
  return { lexer.emitMark 1 token with allowsKey }

/-- A colon after a key without a mark: the start of the key is put in front of it. -/
def valueOfCandidate (lexer : Lexer) (candidate : KeyCandidate) : Lexer :=
  let position := candidate.position
  let marked := { lexer with tokens := lexer.tokens.insertIdxIfInBounds position .key }
  let opened := marked.openBlock candidate.start.column position .blockMappingStart
  { opened.emitMark 1 .value with allowsKey := false, candidate := none }

/-- A colon in front of a value. -/
def value (lexer : Lexer) : Except Fault Lexer :=
  match lexer.candidate with
  | some candidate => .ok (lexer.valueOfCandidate candidate)
  | none => lexer.entryMark .value .blockMappingStart (!lexer.inFlow)

/-- A token that might begin a key, read by the given function from some characters
after its start on. -/
def content {α : Type} (lexer : Lexer) (skipped : Nat)
    (read : Cursor → Except Fault (α × Cursor)) (token : α → Token) : Except Fault Lexer := do
  let lexer ← lexer.remember
  let (part, after) ← read (lexer.cursor.skip skipped)
  return { lexer.emitUpTo after (token part) with allowsKey := false }

/-- A quoted scalar. -/
def quoted (lexer : Lexer) (quote : Char) : Except Fault Lexer :=
  lexer.content 1 (readQuoted quote lexer.cursor.rest.length) fun text =>
    .scalar (String.ofList text) false

/-- A block of text. -/
def block (lexer : Lexer) (folds : Bool) : Except Fault Lexer := do
  let lexer ← lexer.dropCandidate
  let (text, after) ← readBlock folds lexer.indent lexer.cursor.next
  return { lexer.emitUpTo after (.scalar (String.ofList text) false) with allowsKey := true }

/-- A plain scalar.  A key may begin after it on another line only. -/
def plain (lexer : Lexer) : Except Fault Lexer := do
  let lexer ← lexer.remember
  let (text, after, crossesLine) :=
    readPlain lexer.inFlow (lexer.indent + 1) lexer.cursor.rest.length lexer.cursor
  return { lexer.emitUpTo after (.scalar (String.ofList text) true) with allowsKey := crossesLine }

/-- The characters with which no plain scalar begins. -/
def indicators : List Char :=
  ['-', '?', ':', ',', '[', ']', '\x7b', '\x7d', '#', '&', '*', '!', '|', '>', '\'', '"', '%',
    '@', '\x60']

/-- Whether a plain scalar begins with a character, given the ones after it. -/
def beginsPlain (inFlow : Bool) (first : Char) (rest : List Char) : Bool :=
  if first = '-' then !atGap rest
  else if first = '?' ∨ first = ':' then !inFlow && !atGap rest
  else !isGap first && !indicators.contains first

/-- The token that begins with a character, given the ones after it. -/
def token (lexer : Lexer) (first : Char) (rest : List Char) : Except Fault Lexer :=
  let isMark := lexer.inFlow || atGap rest
  if first = '%' ∧ lexer.cursor.column = 0 then lexer.directive
  else if lexer.cursor.atDocumentStart then lexer.documentMark .documentStart
  else if lexer.cursor.atDocumentEnd then lexer.documentMark .documentEnd
  else if first = '[' then lexer.flowStart .flowListStart
  else if first = '\x7b' then lexer.flowStart .flowMappingStart
  else if first = ']' then lexer.flowEnd .flowListEnd
  else if first = '\x7d' then lexer.flowEnd .flowMappingEnd
  else if first = ',' then lexer.comma
  else if first = '-' ∧ atGap rest then lexer.entryMark .item .blockListStart true
  else if first = '?' ∧ isMark then lexer.entryMark .key .blockMappingStart (!lexer.inFlow)
  else if first = ':' ∧ isMark then lexer.value
  else if first = '*' then lexer.content 1 readName .alias
  else if first = '&' then lexer.content 1 readName .anchor
  else if first = '!' then lexer.content 0 readTag .tag
  else if first = '|' ∧ !lexer.inFlow then lexer.block false
  else if first = '>' ∧ !lexer.inFlow then lexer.block true
  else if first = '\'' ∨ first = '"' then lexer.quoted first
  else if beginsPlain lexer.inFlow first rest then lexer.plain
  else .error (.token (.strayCharacter first))

/-! ## All tokens -/

/-- The place of the next token, and whether there is a line break before it. -/
def nextToken (limit : Nat) (cursor : Cursor) : Cursor × Bool :=
  let lineEnd := (cursor.skipWhile (· = ' ')).skipComment
  match limit, lineEnd.lineBreak? with
  | limit + 1, some (_, nextLine) => ((nextToken limit nextLine).1, true)
  | _, _ => (lineEnd, false)

/-- Go on to the next token. -/
def advance (lexer : Lexer) : Except Fault Lexer := do
  let (cursor, crossesLine) := nextToken lexer.cursor.rest.length lexer.cursor
  let allowsKey := lexer.allowsKey || (crossesLine && !lexer.inFlow)
  let lexer ← { lexer with cursor, allowsKey }.dropStale
  return lexer.unwind cursor.column

/-- The tokens after the last one has been read. -/
def finish (lexer : Lexer) : Except Fault (List Token) := do
  let lexer ← (lexer.unwind (-1)).dropCandidate
  return lexer.tokens.toList

/-- The tokens of a text.  Every token takes a character, so that their number is
bounded. -/
def run (limit : Nat) (lexer : Lexer) : Except Fault (List Token) := do
  let lexer ← lexer.advance
  match limit, lexer.cursor.rest with
  | limit + 1, first :: rest => run limit (← lexer.token first rest)
  | _, _ => lexer.finish

end Lexer

/-- The tokens of a text. -/
def tokensOf (text : String) : Except Fault (List Token) :=
  let characters := unifyReturns text.toList
  match characters.find? (!isPermitted ·) with
  | some character => .error (.unprintable character)
  | none => Lexer.run characters.length (.start characters)

end DepositYield.Yaml
