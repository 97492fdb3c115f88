import GatewayPing.Json.Scan

/-! Writing JSON, without blanks. Members are written in the order in which they are given, and a
character is escaped only where the grammar asks for it. -/
namespace GatewayPing.Json

/-- One character inside a string. -/
def writeChar (c : Char) : Bytes :=
  match c with
  | '"' => ascii ['\\', '"']
  | '\\' => ascii ['\\', '\\']
  | '\x08' => ascii ['\\', 'b']
  | '\x0c' => ascii ['\\', 'f']
  | '\n' => ascii ['\\', 'n']
  | '\r' => ascii ['\\', 'r']
  | '\t' => ascii ['\\', 't']
  | c =>
    if c.toNat < 32 then
      ascii (['\\', 'u', '0', '0', Nat.digitChar (c.toNat / 16), Nat.digitChar (c.toNat % 16)])
    else String.utf8EncodeChar c

/-- A string. -/
def writeString (s : String) : Bytes :=
  byte '"' :: s.toList.flatMap writeChar ++ [byte '"']

/-- A natural number. -/
def writeNat (n : Nat) : Bytes := ascii (Nat.toDigits 10 n)

/-- A whole number. -/
def writeInt (n : Int) : Bytes :=
  if n < 0 then byte '-' :: writeNat n.natAbs else writeNat n.natAbs

/-- Parts with commas between them. -/
def separated : List Bytes → Bytes
  | [] => []
  | [part] => part
  | part :: parts => part ++ byte ',' :: separated parts

/-- A list. -/
def writeList (elements : List Bytes) : Bytes := byte '[' :: separated elements ++ [byte ']']

/-- A member of an object. -/
def writeMember (name : String) (value : Bytes) : Bytes := writeString name ++ byte ':' :: value

/-- An object. -/
def writeObject (members : List (String × Bytes)) : Bytes :=
  byte '\x7b' :: separated (members.map fun (name, value) => writeMember name value) ++
    [byte '\x7d']

/-- The literal that stands for an absent value. -/
def writeNull : Bytes := ascii ['n', 'u', 'l', 'l']

end GatewayPing.Json
