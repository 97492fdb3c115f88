/-! Byte sequences, and the bytes of ASCII texts. -/
namespace GatewayPing

/-- Bytes of a text or of a message. -/
abbrev Bytes := List UInt8

/-- An ASCII character as a byte. -/
def byte (c : Char) : UInt8 := c.toNat.toUInt8

/-- An ASCII text as bytes. -/
def ascii (cs : List Char) : Bytes := cs.map byte

end GatewayPing
