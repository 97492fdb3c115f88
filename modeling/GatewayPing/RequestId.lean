/-! Identifiers of streams. An identifier is a random number written as a version 4 UUID: thirty-two
hexadecimal digits in five groups, two of which are not random but tell the version and variant. -/
namespace GatewayPing

/-- An identifier, by the number that it is made of. -/
structure RequestId where
  value : Nat
  deriving DecidableEq, Repr

namespace RequestId

/-- The digit at an index, counted from the left. -/
def digit (id : RequestId) (index : Nat) : Char :=
  let random := id.value >>> (4 * (31 - index)) % 16
  if index = 12 then '4'
  else if index = 16 then Nat.digitChar (8 + random % 4)
  else Nat.digitChar random

/-- A group of digits. -/
def group (id : RequestId) (start length : Nat) : List Char :=
  (List.range length).map fun i => id.digit (start + i)

/-- The identifier as text. -/
def text (id : RequestId) : String :=
  String.ofList
    (id.group 0 8 ++ '-' :: id.group 8 4 ++ '-' :: id.group 12 4 ++ '-' :: id.group 16 4 ++
      '-' :: id.group 20 12)

end RequestId
end GatewayPing
