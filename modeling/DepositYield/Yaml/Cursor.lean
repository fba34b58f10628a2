import DepositYield.Yaml.Character

/-!
# Places in a text

A place in a text knows its line and its column, both counted from zero, and the
characters that follow it.
-/

namespace DepositYield.Yaml

/-- A place in a text. -/
structure Cursor where
  /-- The characters from the place on. -/
  rest : List Char
  /-- The number of characters before the place. -/
  index : Nat
  line : Nat
  column : Nat
  deriving Repr

namespace Cursor

/-- The start of a text.  A byte order mark does not count as a character of the
text. -/
def start (characters : List Char) : Cursor :=
  match characters with
  | '\ufeff' :: rest => { rest, index := 1, line := 0, column := 0 }
  | rest => { rest, index := 0, line := 0, column := 0 }

/-- The place after the next character.  Byte order marks take no column. -/
def next (cursor : Cursor) : Cursor :=
  match cursor.rest with
  | [] => cursor
  | first :: rest =>
      let index := cursor.index + 1
      if isBreak first then { rest, index, line := cursor.line + 1, column := 0 }
      else if first = '\ufeff' then { cursor with rest, index }
      else { cursor with rest, index, column := cursor.column + 1 }

/-- The place after a number of characters. -/
def skip (cursor : Cursor) : Nat → Cursor
  | 0 => cursor
  | count + 1 => cursor.next.skip count

/-- The characters of a class that follow, and the place after them. -/
def span (cursor : Cursor) (belongs : Char → Bool) : List Char × Cursor :=
  let run := cursor.rest.takeWhile belongs
  (run, cursor.skip run.length)

/-- The place after the characters of a class that follow. -/
def skipWhile (cursor : Cursor) (belongs : Char → Bool) : Cursor :=
  (cursor.span belongs).2

/-- Whether a character follows. -/
def isAt (cursor : Cursor) (character : Char) : Bool :=
  cursor.rest.head? = some character

/-- Whether the text ends here. -/
def atEnd (cursor : Cursor) : Bool :=
  cursor.rest.isEmpty

/-- The line break that follows, and the place after it. -/
def lineBreak? (cursor : Cursor) : Option (Char × Cursor) :=
  match cursor.rest with
  | first :: _ => if isBreak first then some (plainBreak first, cursor.next) else none
  | [] => none

/-- The place after a comment, if there is one. -/
def skipComment (cursor : Cursor) : Cursor :=
  if cursor.isAt '#' then cursor.skipWhile (!isBreak ·) else cursor

/-- Whether a line begins here with a mark and white space. -/
def atMark (cursor : Cursor) (mark : String) : Bool :=
  cursor.column = 0 && mark.toList.isPrefixOf cursor.rest &&
    atGap (cursor.rest.drop mark.length)

/-- Whether a document begins here with a mark. -/
def atDocumentStart (cursor : Cursor) : Bool :=
  cursor.atMark "---"

/-- Whether a document ends here with a mark. -/
def atDocumentEnd (cursor : Cursor) : Bool :=
  cursor.atMark "..."

/-- Whether a document begins or ends here with a mark. -/
def atSeparator (cursor : Cursor) : Bool :=
  cursor.atDocumentStart || cursor.atDocumentEnd

end Cursor

/-- Line breaks between two words of a text: a single line feed becomes a blank, and
of several breaks the first one is dropped if it is a line feed. -/
def foldBreaks (first : Char) (others : List Char) : List Char :=
  if first ≠ '\n' then first :: others
  else if others.isEmpty then [' ']
  else others

/-- The line breaks of a gap, as they stand in a text. -/
def breaksOf (gap : List Char) : List Char :=
  (gap.filter isBreak).map plainBreak

end DepositYield.Yaml
