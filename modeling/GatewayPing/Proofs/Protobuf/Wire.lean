import GatewayPing.Protobuf.Wire

/-! The parts of a binary message are read as they were written: varints of 64 bits
(`takeVarint_varint`), keys (`takeKey_write`) and values behind their length
(`takeDelimited_delimited`). -/
namespace GatewayPing.Protobuf

variable {n : Nat} {rest : Bytes}

/-- The bound of a varint: the numbers of 64 bits. -/
def maxVarint : Nat := 0xFFFFFFFFFFFFFFFF

private theorem toNat_byte (small : n < 256) : n.toUInt8.toNat = n := UInt8.toNat_ofNat_of_lt' small

/-- The last byte that is allowed holds one bit, and every byte before it seven. -/
theorem takeVarintWithin_varint {allowed : Nat} (fits : n < 2 * Nat.pow 128 allowed) :
    takeVarintWithin (allowed + 1) (varint n ++ rest) = .ok (n, rest) := by
  induction allowed generalizing n with
  | zero =>
    have bit : n < 2 := fits
    have value := toNat_byte (n := n) (by omega)
    have last : n.toUInt8 < 0x80 ∧ ¬ 2 ≤ n.toUInt8 := by
      rw [UInt8.lt_iff_toNat_lt, UInt8.le_iff_toNat_le, value]
      simp only [UInt8.reduceToNat]
      omega
    have single : varint n = [n.toUInt8] := by rw [varint, if_pos (by omega)]
    simp only [single, List.cons_append, List.nil_append, takeVarintWithin, last, ↓reduceIte,
      decide_true, decide_false, Bool.and_false, Bool.false_eq_true, value]
  | succ allowed ih =>
    by_cases small : n < 128
    · have value := toNat_byte (n := n) (by omega)
      have last : n.toUInt8 < 0x80 := by
        rw [UInt8.lt_iff_toNat_lt, value]
        exact small
      have single : varint n = [n.toUInt8] := by rw [varint, if_pos small]
      simp [single, takeVarintWithin, last, value]
    · have value := toNat_byte (n := n % 128 + 128) (by omega)
      have marked : ¬ (n % 128 + 128).toUInt8 < 0x80 := by
        rw [UInt8.lt_iff_toNat_lt, value]
        simp only [UInt8.reduceToNat]
        omega
      have several : varint n = (n % 128 + 128).toUInt8 :: varint (n / 128) := by
        rw [varint, if_neg small]
      have high : n / 128 < 2 * Nat.pow 128 allowed := by
        have power : Nat.pow 128 (allowed + 1) = Nat.pow 128 allowed * 128 := rfl
        omega
      have number : (n % 128 + 128) % 128 + 128 * (n / 128) = n := by omega
      simp only [several, List.cons_append, takeVarintWithin, marked, ↓reduceIte, ih high, value,
        number]

theorem takeVarint_varint (fits : n ≤ maxVarint) (rest : Bytes) :
    takeVarint (varint n ++ rest) = .ok (n, rest) :=
  takeVarintWithin_varint (Nat.lt_succ_of_le fits)

/-- The greatest number of a field. -/
def maxFieldNumber : Nat := 0x1FFFFFFF

theorem WireType.ofNat?_toNat (wire : WireType) : WireType.ofNat? wire.toNat = some wire := by
  cases wire <;> rfl

theorem WireType.toNat_lt (wire : WireType) : wire.toNat < 8 := by
  cases wire <;> decide

theorem takeKey_write {key : Key} (positive : 0 < key.number)
    (fits : key.number ≤ maxFieldNumber) : takeKey (key.write ++ rest) = .ok (key, rest) := by
  have small := key.wire.toNat_lt
  have bound : key.number * 8 + key.wire.toNat ≤ maxKey := by
    simp only [maxKey, maxFieldNumber] at *
    omega
  have wire : (key.number * 8 + key.wire.toNat) % 8 = key.wire.toNat := by omega
  have number : (key.number * 8 + key.wire.toNat) / 8 = key.number := by omega
  have taken := takeVarint_varint (Nat.le_trans bound (by decide)) rest
  have read : Key.ofNat (key.number * 8 + key.wire.toNat) = .ok key := by
    rw [Key.ofNat, if_neg (Nat.not_lt.mpr bound), wire, WireType.ofNat?_toNat, number]
    exact if_neg (Nat.ne_of_gt positive)
  simp only [takeKey, Key.write, taken, read]

theorem takeDelimited_delimited {bytes : Bytes} (fits : bytes.length ≤ maxVarint)
    (rest : Bytes) :
    takeDelimited (delimited bytes ++ rest) = .ok (bytes, rest) := by
  rw [takeDelimited, delimited, List.append_assoc, takeVarint_varint fits]
  simp [takeBytes]

end GatewayPing.Protobuf
