import GatewayPing.Bytes

/-! Why a binary message is refused. -/
namespace GatewayPing.Protobuf

/-- How the value of a field is delimited. -/
inductive WireType where
  | varint
  | fixed64
  | delimited
  | startGroup
  | endGroup
  | fixed32
  deriving DecidableEq, Repr

/-- The names of the wire types in messages. -/
def WireType.name : WireType → String
  | .varint => "Varint"
  | .fixed64 => "SixtyFourBit"
  | .delimited => "LengthDelimited"
  | .startGroup => "StartGroup"
  | .endGroup => "EndGroup"
  | .fixed32 => "ThirtyTwoBit"

/-- Why the bytes are no message. -/
inductive Cause where
  /-- A varint does not end, or exceeds 64 bits. -/
  | invalidVarint
  /-- A key exceeds 32 bits. -/
  | invalidKey (key : Nat)
  /-- A key names no wire type. -/
  | invalidWireType (value : Nat)
  /-- A key has the field number zero. -/
  | zeroTag
  /-- A known field has another wire type than its own. -/
  | wrongWireType (found expected : WireType)
  /-- A value is longer than what is left of the message. -/
  | underflow
  /-- A group ends that was not open. -/
  | unexpectedEndGroup
  /-- Groups are nested too deeply. -/
  | tooDeep
  /-- A string is not UTF-8. -/
  | notText
  deriving DecidableEq, Repr

/-- The wording of a cause. -/
def Cause.text : Cause → String
  | .invalidVarint => "invalid varint"
  | .invalidKey key => s!"invalid key value: {key}"
  | .invalidWireType value => s!"invalid wire type value: {value}"
  | .zeroTag => "invalid tag value: 0"
  | .wrongWireType found expected =>
    s!"invalid wire type: {found.name} (expected {expected.name})"
  | .underflow => "buffer underflow"
  | .unexpectedEndGroup => "unexpected end group tag"
  | .tooDeep => "recursion limit reached"
  | .notText => "invalid string value: data is not UTF-8 encoded"

/-- A known field of a message. -/
structure Place where
  message : String
  field : String
  deriving DecidableEq, Repr

/-- A refusal: the cause and, where it concerns the value of a known field, that field. -/
structure Error where
  place : Option Place
  cause : Cause
  deriving DecidableEq, Repr

/-- The wording of a refusal. -/
def Error.message (e : Error) : String :=
  let place := match e.place with
    | some p => s!"{p.message}.{p.field}: "
    | none => ""
  s!"failed to decode Protobuf message: {place}{e.cause.text}"

end GatewayPing.Protobuf
