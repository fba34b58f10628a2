import DepositYield.Yaml.Cursor
import DepositYield.Yaml.Fault

/-!
# Blocks of text

A block of text stands behind a bar, which keeps its lines, or behind a greater-than
sign, which joins lines of the same indentation.  The line of the mark may give the
indentation, and whether the line breaks at the end are kept or dropped.
-/

namespace DepositYield.Yaml

/-- What becomes of the line breaks at the end of a block. -/
inductive Chomping where
  /-- All of them are dropped. -/
  | strip
  /-- The break of the last line is kept. -/
  | clip
  | keep
  deriving DecidableEq, Repr

/-- What the line of the mark says about a block. -/
structure BlockHeader where
  chomping : Chomping
  /-- The indentation beyond the enclosing one. -/
  extraIndent : Option Nat
  deriving DecidableEq, Repr

/-- The chomping that a character asks for. -/
def chomping? : Char → Option Chomping
  | '-' => some .strip
  | '+' => some .keep
  | _ => none

/-- The chomping that may follow. -/
def readChomping (cursor : Cursor) : Option Chomping × Cursor :=
  match cursor.rest.head?.bind chomping? with
  | some chomping => (some chomping, cursor.next)
  | none => (none, cursor)

/-- The indentation that may follow: one digit other than zero. -/
def readExtraIndent (cursor : Cursor) : Except Fault (Option Nat × Cursor) :=
  match cursor.rest with
  | first :: _ =>
      if first = '0' then .error (.token .header)
      else if first.isDigit then .ok (some (first.toNat - 48), cursor.next)
      else .ok (none, cursor)
  | [] => .ok (none, cursor)

/-- The line of the mark from the mark on: chomping and indentation in either order,
and a comment. -/
def readHeader (cursor : Cursor) : Except Fault (BlockHeader × Cursor) := do
  let (before, cursor) := readChomping cursor
  let (extraIndent, cursor) ← readExtraIndent cursor
  let (chomping, cursor) :=
    match before with
    | some chomping => (some chomping, cursor)
    | none => if extraIndent.isSome then readChomping cursor else (none, cursor)
  if !atBlank cursor.rest then throw (.token .header)
  let lineEnd := (cursor.skipWhile (· = ' ')).skipComment
  if !atLineEnd lineEnd.rest then throw (.token .header)
  return ({ chomping := chomping.getD .clip, extraIndent }, lineEnd.next)

/-- Empty lines that follow, of no more blanks than the indentation, and the place of
the next line at or before the indentation. -/
def readEmptyLines (indent : Nat) (limit : Nat) (cursor : Cursor) : List Char × Cursor :=
  let blanks := (cursor.rest.takeWhile (· = ' ')).length
  let cursor := cursor.skip (min blanks (indent - cursor.column))
  match limit, cursor.lineBreak? with
  | limit + 1, some (first, nextLine) =>
      let (breaks, last) := readEmptyLines indent limit nextLine
      (first :: breaks, last)
  | _, _ => ([], cursor)

/-- The largest number of blanks that a line of a gap begins with. -/
def widestLine (gap : List Char) : Nat :=
  ((gap.splitBy fun first second => !isBreak first && !isBreak second).map fun line =>
    (line.takeWhile (· = ' ')).length).foldl max 0

/-- A block behind the given place of its first line. -/
structure BlockBody where
  /-- The lines up to the last break. -/
  text : List Char
  /-- The break after the last line. -/
  lastBreak : List Char
  /-- The breaks of the empty lines at the end. -/
  emptyLines : List Char
  after : Cursor

/-- What stands between two lines of a block. -/
def blockGlue (folds startsPlain : Bool) (lineBreak emptyLines : List Char) (next : List Char) :
    List Char :=
  if folds && lineBreak = ['\n'] && startsPlain && !next.head?.any isSpace then
    if emptyLines.isEmpty then [' '] else []
  else
    lineBreak

/-- Whether a line of a block begins at a place. -/
def atBlockLine (indent : Nat) (cursor : Cursor) : Bool :=
  cursor.column = indent && !cursor.atEnd

/-- The lines of a block after some empty lines. -/
def readBlockLines (folds : Bool) (indent : Nat) (limit : Nat) (emptyLines : List Char)
    (cursor : Cursor) : BlockBody :=
  match limit with
  | 0 => { text := [], lastBreak := [], emptyLines, after := cursor }
  | limit + 1 =>
      if !atBlockLine indent cursor then
        { text := [], lastBreak := [], emptyLines, after := cursor }
      else
        let (line, lineEnd) := cursor.span (!isBreak ·)
        let (lineBreak, nextLine) :=
          match lineEnd.lineBreak? with
          | some (character, nextLine) => ([character], nextLine)
          | none => ([], lineEnd)
        let (breaks, after) := readEmptyLines indent nextLine.rest.length nextLine
        if atBlockLine indent after then
          let glue := blockGlue folds (!cursor.rest.head?.any isSpace) lineBreak breaks after.rest
          let body := readBlockLines folds indent limit breaks after
          { body with text := emptyLines ++ line ++ glue ++ body.text }
        else
          { text := emptyLines ++ line, lastBreak := lineBreak, emptyLines := breaks, after }

/-- The text of a block: its lines and what is left of the breaks at its end. -/
def BlockBody.chomp (body : BlockBody) (chomping : Chomping) : List Char :=
  match chomping with
  | .strip => body.text
  | .clip => body.text ++ body.lastBreak
  | .keep => body.text ++ body.lastBreak ++ body.emptyLines

/-- A block of text behind its mark, and the place after it.  It is indented more than
the enclosing collection at the column `outer`. -/
def readBlock (folds : Bool) (outer : Int) (cursor : Cursor) :
    Except Fault (List Char × Cursor) := do
  let (header, start) ← readHeader cursor
  let least := max 1 (outer + 1).toNat
  let limit := start.rest.length
  let (indent, emptyLines, first) :=
    match header.extraIndent with
    | some extra =>
        let indent := least + extra - 1
        (indent, readEmptyLines indent limit start)
    | none =>
        let (gap, first) := start.span fun character => character = ' ' || isBreak character
        (max least (widestLine gap), breaksOf gap, first)
  let body := readBlockLines folds indent limit emptyLines first
  return (body.chomp header.chomping, body.after)

end DepositYield.Yaml
