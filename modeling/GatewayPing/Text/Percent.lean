import GatewayPing.Text.Utf8

/-! Percent encoding. A byte that may not stand for itself is written as a percent sign and two
hexadecimal digits. A percent sign that no two digits follow stands for itself when reading. -/
namespace GatewayPing.Text.Percent

/-- The value of a hexadecimal digit. -/
def digit? (b : UInt8) : Option UInt8 :=
  if 48 ≤ b && b ≤ 57 then some (b - 48)
  else if 65 ≤ b && b ≤ 70 then some (b - 55)
  else if 97 ≤ b && b ≤ 102 then some (b - 87)
  else none

/-- The hexadecimal digit of a value below sixteen. -/
def digit (n : UInt8) : UInt8 := if n < 10 then n + 48 else n + 55

/-- Reads what follows a percent sign. -/
def escape? : Bytes → Option (UInt8 × Bytes)
  | a :: b :: rest =>
    match digit? a, digit? b with
    | some high, some low => some (high * 16 + low, rest)
    | _, _ => none
  | _ => none

private theorem escape?_lt {s rest : Bytes} {b : UInt8} (found : escape? s = some (b, rest)) :
    rest.length < s.length := by
  unfold escape? at found
  grind

/-- The bytes that an encoded text stands for. -/
def decode (s : Bytes) : Bytes :=
  match s with
  | [] => []
  | b :: rest =>
    if b == byte '%' then
      match _ : escape? rest with
      | some (c, rest) => c :: decode rest
      | none => b :: decode rest
    else b :: decode rest
termination_by s.length
decreasing_by
  · exact Nat.lt_succ_of_lt (escape?_lt (by assumption))
  · exact Nat.lt_succ_self _
  · exact Nat.lt_succ_self _

/-- Whether a byte stands for itself in a header: visible, and no sign with a meaning elsewhere. -/
def isPlain (b : UInt8) : Bool :=
  0x20 < b && b < 0x7f &&
    !(ascii ['"', '#', '%', '<', '>', '\x60', '?', '\x7b', '\x7d']).contains b

/-- One byte, encoded where it has to be. -/
def encodeByte (b : UInt8) : Bytes :=
  if isPlain b then [b] else [byte '%', digit (b / 16), digit (b % 16)]

/-- Encodes bytes. -/
def encode (s : Bytes) : Bytes := s.flatMap encodeByte

end GatewayPing.Text.Percent
