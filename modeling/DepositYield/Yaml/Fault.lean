import DepositYield.Document.Calendar
import DepositYield.Text.Whole

/-!
# Faults of YAML texts

A text may have characters that must not occur, parts that are no tokens, tokens
that make no node, nodes that refer to nothing, and nodes without a value.
-/

namespace DepositYield.Yaml

/-- Why characters make no tokens. -/
inductive TokenFault where
  /-- No token begins with the character. -/
  | strayCharacter (character : Char)
  /-- An item, a key or a value cannot stand here. -/
  | misplacedEntry
  /-- There is no value for a key. -/
  | missingColon
  | directive
  | name
  | tag
  /-- The line on which a block of text begins. -/
  | header
  | escape (character : Option Char)
  /-- The text ends inside quotes. -/
  | unclosedQuote
  deriving DecidableEq, Repr

/-- Why tokens make no node. -/
inductive GrammarFault where
  /-- Another token should stand here. -/
  | unexpectedToken
  | unknownHandle (handle : String)
  | repeatedDirective
  | unsupportedVersion
  deriving DecidableEq, Repr

/-- Why nodes do not refer to each other as they should. -/
inductive ReferenceFault where
  | unknownAlias (name : String)
  | repeatedAnchor (name : String)
  | severalDocuments
  deriving DecidableEq, Repr

/-- Why a node has no value. -/
inductive NodeFault where
  | unknownTag (tag : String)
  /-- The tag is for nodes of another kind. -/
  | wrongKind
  /-- A list, a set or a mapping is used as a key. -/
  | collectionKey
  /-- What is merged into a mapping is no mapping and no list of mappings. -/
  | unmergeable
  | base64
  deriving DecidableEq, Repr

/-- What is wrong with a text. -/
inductive Fault where
  | unprintable (character : Char)
  | token (fault : TokenFault)
  | grammar (fault : GrammarFault)
  | reference (fault : ReferenceFault)
  | node (fault : NodeFault)
  /-- An escape names a code beyond the last character. -/
  | largeCode
  /-- An escape names a code beyond 31 bits. -/
  | hugeCode
  | integer (error : Text.WholeError)
  | float (text : String)
  /-- A floating-point number in base sixty has too many places. -/
  | longFloat
  /-- There is no digit where a number is expected. -/
  | emptyNumber
  /-- The word is no truth value. -/
  | truthValue (word : String)
  | calendar (error : CalendarError)
  /-- A point in time is not written as one. -/
  | timeForm
  deriving DecidableEq, Repr

namespace TokenFault

/-- What is said about characters that make no tokens. -/
def message : TokenFault → String
  | .strayCharacter character =>
      "found character " ++ Text.quoted (String.singleton character) ++
        " that cannot start any token"
  | .misplacedEntry => "entries are not allowed here"
  | .missingColon => "could not find expected ':'"
  | .directive => "while scanning a directive"
  | .name => "expected alphabetic or numeric character"
  | .tag => "while scanning a tag"
  | .header => "expected chomping or indentation indicators"
  | .escape (some character) =>
      "found unknown escape character " ++ Text.quoted (String.singleton character)
  | .escape none => "expected escape sequence of hexadecimal numbers"
  | .unclosedQuote => "found unexpected end of stream"

end TokenFault

namespace GrammarFault

/-- What is said about tokens that make no node. -/
def message : GrammarFault → String
  | .unexpectedToken => "expected the node content"
  | .unknownHandle handle => "found undefined tag handle " ++ Text.quoted handle
  | .repeatedDirective => "found duplicate directive"
  | .unsupportedVersion => "found incompatible YAML document (version 1.* is required)"

end GrammarFault

namespace ReferenceFault

/-- What is said about nodes that do not refer to each other as they should. -/
def message : ReferenceFault → String
  | .unknownAlias name => "found undefined alias " ++ Text.quoted name
  | .repeatedAnchor name => "found duplicate anchor " ++ Text.quoted name
  | .severalDocuments => "expected a single document in the stream"

end ReferenceFault

namespace NodeFault

/-- What is said about a node without a value. -/
def message : NodeFault → String
  | .unknownTag tag => "could not determine a constructor for the tag " ++ Text.quoted tag
  | .wrongKind => "expected a node of another kind"
  | .collectionKey => "found unhashable key"
  | .unmergeable => "expected a mapping or list of mappings for merging"
  | .base64 => "failed to decode base64 data"

end NodeFault

namespace Fault

/-- What is said about a fault. -/
def message : Fault → String
  | .unprintable _ => "special characters are not allowed"
  | .token fault => fault.message
  | .grammar fault => fault.message
  | .reference fault => fault.message
  | .node fault => fault.message
  | .largeCode => "chr() arg not in range(0x110000)"
  | .hugeCode => "Python int too large to convert to C int"
  | .integer error => error.message
  | .float text => "could not convert string to float: " ++ Text.quoted text
  | .longFloat => "int too large to convert to float"
  | .emptyNumber => "string index out of range"
  | .truthValue word => Text.quoted word
  | .calendar error => error.message
  | .timeForm => "'NoneType' object has no attribute 'groupdict'"

end Fault

end DepositYield.Yaml
