import Courier.Instant
import Courier.Number.Binary64
import Courier.Text.Quoted
import Courier.Uuid

/-!
# Why a document cannot be read

The causes, the three classes they fall into, and their wording. A cause does not carry a position
in the document.
-/

namespace Courier.Json
set_option autoImplicit false

/-- What stands in a document where something else is expected. -/
inductive Found where
  | null
  | boolean (value : Bool)
  | integer (value : Int)
  | float (negative : Bool) (magnitude : Binary64)
  | text (value : String)
  | sequence
  | map
  deriving DecidableEq

/-- The wording of what was found. -/
def Found.message : Found → String
  | .null => "null"
  | .boolean true => "boolean `true`"
  | .boolean false => "boolean `false`"
  | .integer value => s!"integer `{value}`"
  | .float negative magnitude => s!"floating point `{Binary64.text negative magnitude}`"
  | .text value => "string " ++ Text.quote value
  | .sequence => "sequence"
  | .map => "map"

/-- The class of a cause. -/
inductive Category where
  /-- The text is not JSON. -/
  | malformed
  /-- The text is JSON of another shape. -/
  | data
  /-- The text ends too early. -/
  | eof
  deriving DecidableEq

/-- Why a document cannot be read. -/
inductive Error where
  | endInValue
  | endInText
  | endInObject
  | endInList
  | expectedValue
  | expectedWord
  | expectedColon
  | expectedCommaOrBrace
  | expectedCommaOrBracket
  | keyNotText
  | trailingComma
  | trailingCharacters
  | invalidNumber
  | numberOutOfRange
  | invalidEscape
  | loneSurrogate
  | unfinishedSurrogatePair
  | controlCharacter
  | invalidUtf8
  | tooDeep
  | wrongType (found : Found) (expected : String)
  | wrongValue (found : Found) (expected : String)
  | tooFewElements (found : Nat) (expected : String)
  | missingField (name : String)
  | repeatedField (name : String)
  | badUuid (cause : Uuid.ParseError)
  | badInstant (cause : Instant.ParseError)
  /-- A document that is held as a text cannot be read. -/
  | embedded (cause : Error)
  deriving DecidableEq

/-- The class of a cause. -/
def Error.category : Error → Category
  | .endInValue | .endInText | .endInObject | .endInList => .eof
  | .wrongType .. | .wrongValue .. | .tooFewElements .. | .missingField .. | .repeatedField ..
  | .badUuid .. | .badInstant .. | .embedded .. => .data
  | _ => .malformed

/-- The wording of a cause. -/
def Error.message : Error → String
  | .endInValue => "EOF while parsing a value"
  | .endInText => "EOF while parsing a string"
  | .endInObject => "EOF while parsing an object"
  | .endInList => "EOF while parsing a list"
  | .expectedValue => "expected value"
  | .expectedWord => "expected ident"
  | .expectedColon => "expected `:`"
  | .expectedCommaOrBrace => "expected `,` or `\x7d`"
  | .expectedCommaOrBracket => "expected `,` or `]`"
  | .keyNotText => "key must be a string"
  | .trailingComma => "trailing comma"
  | .trailingCharacters => "trailing characters"
  | .invalidNumber => "invalid number"
  | .numberOutOfRange => "number out of range"
  | .invalidEscape => "invalid escape"
  | .loneSurrogate => "lone leading surrogate in hex escape"
  | .unfinishedSurrogatePair => "unexpected end of hex escape"
  | .controlCharacter => "control character (\\u0000-\\u001F) found while parsing a string"
  | .invalidUtf8 => "invalid unicode code point"
  | .tooDeep => "recursion limit exceeded"
  | .wrongType found expected => s!"invalid type: {found.message}, expected {expected}"
  | .wrongValue found expected => s!"invalid value: {found.message}, expected {expected}"
  | .tooFewElements found expected => s!"invalid length {found}, expected {expected}"
  | .missingField name => s!"missing field `{name}`"
  | .repeatedField name => s!"duplicate field `{name}`"
  | .badUuid cause => s!"UUID parsing failed: {cause.message}"
  | .badInstant cause => cause.message
  | .embedded cause => cause.message

end Courier.Json
