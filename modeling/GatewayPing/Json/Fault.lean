import GatewayPing.Bytes
import GatewayPing.Text.Quoted
import GatewayPing.Text.Shortest

/-! Why a JSON text is refused, and where. A fault records its cause and how many bytes were left
unread when it was noticed; line and column follow from the bytes before that point. -/
namespace GatewayPing.Json

/-- A value of the wrong kind, as messages name it. -/
inductive Found where
  | null
  | boolean (b : Bool)
  | integer (n : Int)
  | real (f : Float)
  | string (s : String)
  | list
  | object
  deriving Repr

/-- Why a text is refused. -/
inductive Reason where
  | endOfValue
  | endOfString
  | endOfList
  | endOfObject
  | expectedValue
  | expectedLiteral
  | expectedColon
  | expectedListEnd
  | expectedObjectEnd
  | keyNotString
  | trailingComma
  | trailingCharacters
  | invalidNumber
  | numberOutOfRange
  | invalidEscape
  | unexpectedEndOfEscape
  | loneSurrogate
  | controlCharacter
  | invalidCodePoint
  | duplicateField (name : String)
  | invalidLength (found : Nat) (expected : String)
  | invalidType (found : Found) (expected : String)
  | invalidValue (n : Int) (expected : String)
  deriving Repr

/-- How messages name a value of the wrong kind. -/
def Found.text : Found → String
  | .null => "null"
  | .boolean b => s!"boolean `{b}`"
  | .integer n => s!"integer `{n}`"
  | .real f => s!"floating point `{Text.doubleText f}`"
  | .string s => s!"string {Text.quoted s}"
  | .list => "sequence"
  | .object => "map"

/-- The wording of a reason. -/
def Reason.text : Reason → String
  | .endOfValue => "EOF while parsing a value"
  | .endOfString => "EOF while parsing a string"
  | .endOfList => "EOF while parsing a list"
  | .endOfObject => "EOF while parsing an object"
  | .expectedValue => "expected value"
  | .expectedLiteral => "expected ident"
  | .expectedColon => "expected `:`"
  | .expectedListEnd => "expected `,` or `]`"
  | .expectedObjectEnd => "expected `,` or `\x7d`"
  | .keyNotString => "key must be a string"
  | .trailingComma => "trailing comma"
  | .trailingCharacters => "trailing characters"
  | .invalidNumber => "invalid number"
  | .numberOutOfRange => "number out of range"
  | .invalidEscape => "invalid escape"
  | .unexpectedEndOfEscape => "unexpected end of hex escape"
  | .loneSurrogate => "lone leading surrogate in hex escape"
  | .controlCharacter => "control character (\\u0000-\\u001F) found while parsing a string"
  | .invalidCodePoint => "invalid unicode code point"
  | .duplicateField name => s!"duplicate field `{name}`"
  | .invalidLength found expected => s!"invalid length {found}, expected {expected}"
  | .invalidType found expected => s!"invalid type: {found.text}, expected {expected}"
  | .invalidValue n expected => s!"invalid value: integer `{n}`, expected {expected}"

/-- A cause, and the number of bytes that were unread when it was noticed. -/
structure Fault where
  reason : Reason
  left : Nat
  deriving Repr

/-- A place in a text. Lines count from one, and so do the bytes of a line; column zero is the place
right after a line break. -/
structure Position where
  line : Nat
  column : Nat
  deriving DecidableEq, Repr

/-- The byte of a line break. -/
def lineBreak : UInt8 := 10

/-- The place that is reached after reading `read`. -/
def Position.after (read : Bytes) : Position :=
  ⟨1 + read.count lineBreak, (read.reverse.takeWhile (· != lineBreak)).length⟩

/-- A refusal: the cause and the place. -/
structure Error where
  reason : Reason
  position : Position
  deriving Repr

/-- The wording of a refusal. -/
def Error.message (e : Error) : String :=
  s!"{e.reason.text} at line {e.position.line} column {e.position.column}"

/-- Finds the place of a fault in the text it was found in. -/
def Fault.locate (text : Bytes) (f : Fault) : Error :=
  ⟨f.reason, .after (text.take (text.length - f.left))⟩

end GatewayPing.Json
