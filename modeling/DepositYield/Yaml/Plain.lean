import DepositYield.Yaml.Cursor

/-!
# Plain scalars

A plain scalar is written without quotes.  It ends before a colon with white space
after it and before a comment, and inside brackets and braces before their marks.  It
may go on over several lines, which are joined by blanks.
-/

namespace DepositYield.Yaml

/-- The marks inside brackets and braces that end a plain scalar. -/
def flowMarks : List Char :=
  [',', '?', '[', ']', '\x7b', '\x7d']

/-- The marks inside brackets and braces that end a key after its colon. -/
def flowEndMarks : List Char :=
  [',', '[', ']', '\x7b', '\x7d']

/-- Whether a colon before the given characters ends a key. -/
def endsKey (inFlow : Bool) (characters : List Char) : Bool :=
  atGap characters || (inFlow && characters.head?.any flowEndMarks.contains)

/-- Whether a plain scalar goes on with a character, given the ones after it. -/
def continuesPlain (inFlow : Bool) (first : Char) (rest : List Char) : Bool :=
  !isGap first && !(first = ':' && endsKey inFlow rest) && !(inFlow && flowMarks.contains first)

/-- The characters of a plain scalar up to white space or its end. -/
def plainWord (inFlow : Bool) : List Char → List Char
  | [] => []
  | first :: rest =>
      if continuesPlain inFlow first rest then first :: plainWord inFlow rest else []

/-- White space after a word of a plain scalar. -/
structure PlainGap where
  /-- What the white space stands for; nothing when the scalar ends. -/
  text : List Char
  after : Cursor
  /-- Whether the white space holds a line break. -/
  crossesLine : Bool

/-- The white space after a word of a plain scalar.  The scalar ends before the mark
of a document. -/
def plainGap (cursor : Cursor) : PlainGap :=
  let (blanks, after) := cursor.span (· = ' ')
  match after.lineBreak? with
  | none => { text := blanks, after, crossesLine := false }
  | some (first, nextLine) =>
      let (gap, after) := nextLine.span fun character => character = ' ' || isBreak character
      let text := if after.atSeparator then [] else foldBreaks first (breaksOf gap)
      { text, after, crossesLine := true }

/-- The words of a plain scalar and the white space between them, the place after the
scalar and the white space that follows it, and whether that white space holds a line
break.  Outside brackets and braces the words stand at or behind the column
`indent`. -/
def readPlain (inFlow : Bool) (indent : Int) (limit : Nat) (cursor : Cursor) :
    List Char × Cursor × Bool :=
  let word := plainWord inFlow cursor.rest
  let gap := plainGap (cursor.skip word.length)
  let after := gap.after
  let ends := gap.text.isEmpty || after.isAt '#' || (!inFlow && after.column < indent)
  match limit with
  | 0 => (word, after, gap.crossesLine)
  | limit + 1 =>
      if ends || (plainWord inFlow after.rest).isEmpty then
        (word, after, gap.crossesLine)
      else
        let (text, last, crossesLine) := readPlain inFlow indent limit after
        (word ++ gap.text ++ text, last, crossesLine)

end DepositYield.Yaml
