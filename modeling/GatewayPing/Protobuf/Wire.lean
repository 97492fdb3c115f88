import GatewayPing.Protobuf.Fault

/-! The parts of a binary message: varints, keys, and values that are delimited by a length. What is
taken is taken off the front of the message, and what is left is shorter. -/
namespace GatewayPing.Protobuf

/-- The most bytes that a varint may have. -/
def maxVarintLength : Nat := 10

/-- Takes a varint of at most `allowed` bytes. The tenth byte may only hold the topmost of 64
bits. -/
def takeVarintWithin : Nat → Bytes → Except Cause (Nat × Bytes)
  | 0, _ => .error .invalidVarint
  | _ + 1, [] => .error .invalidVarint
  | allowed + 1, b :: rest =>
    if b < 0x80 then
      if allowed = 0 && 2 ≤ b then .error .invalidVarint else .ok (b.toNat, rest)
    else
      match takeVarintWithin allowed rest with
      | .error e => .error e
      | .ok (high, rest) => .ok (b.toNat % 128 + 128 * high, rest)

/-- Takes a varint: seven bits a byte, the lowest first, and a mark on every byte but the last. -/
def takeVarint (s : Bytes) : Except Cause (Nat × Bytes) := takeVarintWithin maxVarintLength s

private theorem takeVarintWithin_lt {allowed n : Nat} {s rest : Bytes}
    (taken : takeVarintWithin allowed s = .ok (n, rest)) : rest.length < s.length := by
  fun_induction takeVarintWithin allowed s generalizing n rest with
  | case1 => cases taken
  | case2 => cases taken
  | case3 => cases taken
  | case4 => cases taken; exact Nat.lt_succ_self _
  | case5 => cases taken
  | case6 allowed b tail _ high rest found ih => cases taken; exact Nat.lt_succ_of_lt (ih found)

theorem takeVarint_lt {n : Nat} {s rest : Bytes} (taken : takeVarint s = .ok (n, rest)) :
    rest.length < s.length :=
  takeVarintWithin_lt taken

/-- A natural number as a varint. -/
def varint (n : Nat) : Bytes :=
  if n < 128 then [n.toUInt8] else (n % 128 + 128).toUInt8 :: varint (n / 128)

/-- The wire type of a number. -/
def WireType.ofNat? : Nat → Option WireType
  | 0 => some .varint
  | 1 => some .fixed64
  | 2 => some .delimited
  | 3 => some .startGroup
  | 4 => some .endGroup
  | 5 => some .fixed32
  | _ => none

/-- The number of a wire type. -/
def WireType.toNat : WireType → Nat
  | .varint => 0
  | .fixed64 => 1
  | .delimited => 2
  | .startGroup => 3
  | .endGroup => 4
  | .fixed32 => 5

/-- What stands before a value: the number of its field and its wire type. -/
structure Key where
  number : Nat
  wire : WireType
  deriving DecidableEq, Repr

/-- The largest key. -/
def maxKey : Nat := 0xFFFFFFFF

/-- The key that a number stands for. -/
def Key.ofNat (n : Nat) : Except Cause Key :=
  if maxKey < n then .error (.invalidKey n)
  else
    match WireType.ofNat? (n % 8) with
    | none => .error (.invalidWireType (n % 8))
    | some wire => if n / 8 = 0 then .error .zeroTag else .ok ⟨n / 8, wire⟩

/-- Takes a key. -/
def takeKey (s : Bytes) : Except Cause (Key × Bytes) :=
  match takeVarint s with
  | .error e => .error e
  | .ok (n, rest) =>
    match Key.ofNat n with
    | .error e => .error e
    | .ok key => .ok (key, rest)

theorem takeKey_lt {s rest : Bytes} {key : Key} (taken : takeKey s = .ok (key, rest)) :
    rest.length < s.length := by
  have shorter {n r} (h : takeVarint s = .ok (n, r)) := takeVarint_lt h
  unfold takeKey at taken
  grind

/-- A key as bytes. -/
def Key.write (key : Key) : Bytes := varint (key.number * 8 + key.wire.toNat)

/-- Takes a number of bytes. -/
def takeBytes (n : Nat) (s : Bytes) : Except Cause (Bytes × Bytes) :=
  if s.length < n then .error .underflow else .ok (s.take n, s.drop n)

/-- Takes a length and as many bytes. -/
def takeDelimited (s : Bytes) : Except Cause (Bytes × Bytes) :=
  match takeVarint s with
  | .error e => .error e
  | .ok (n, rest) => takeBytes n rest

theorem takeBytes_le {n : Nat} {s bytes rest : Bytes} (taken : takeBytes n s = .ok (bytes, rest)) :
    rest.length ≤ s.length := by
  unfold takeBytes at taken
  split at taken
  · cases taken
  · cases taken; simp

theorem takeDelimited_lt {s bytes rest : Bytes} (taken : takeDelimited s = .ok (bytes, rest)) :
    rest.length < s.length := by
  unfold takeDelimited at taken
  split at taken
  · cases taken
  · exact Nat.lt_of_le_of_lt (takeBytes_le taken) (takeVarint_lt (by assumption))

/-- Bytes after their length. -/
def delimited (bytes : Bytes) : Bytes := varint bytes.length ++ bytes

end GatewayPing.Protobuf
