import GatewayPing.Frame
import GatewayPing.Proofs.Message.Lossless

/-! How long messages are on the wire. An integer takes at most twenty bytes in each encoding, and a
text at most six bytes for each character besides its marks (`Kind.json_length_le`,
`Kind.binary_length_le`). Messages with a short text stay far below the length that is accepted
(`Schema.encode_length_le`). -/
namespace GatewayPing

/-! Values. -/

private theorem Json.writeNat_length_le {n : Nat} (small : n < 10000000000000000000) :
    (Json.writeNat n).length ≤ 19 := by
  have digits : (Nat.toDigits 10 n).length ≤ 19 :=
    (Nat.length_toDigits_le_iff (by omega) (by omega)).mpr small
  simpa [Json.writeNat, ascii] using digits

private theorem Json.writeInt_length_le {n : Int} (small : n.natAbs < 10000000000000000000) :
    (Json.writeInt n).length ≤ 20 := by
  have digits := Json.writeNat_length_le small
  unfold Json.writeInt
  split
  · exact Nat.succ_le_succ digits
  · exact Nat.le_succ_of_le digits

private theorem utf8EncodeChar_length_le (c : Char) : (String.utf8EncodeChar c).length ≤ 4 := by
  rw [String.length_utf8EncodeChar]
  exact c.utf8Size_le_four

/-- The longest way to write a character is to escape it by its number. -/
theorem Json.writeChar_length_le (c : Char) : (Json.writeChar c).length ≤ 6 := by
  have plain := utf8EncodeChar_length_le c
  unfold Json.writeChar
  split
  all_goals try simp [ascii]
  split
  · simp
  · omega

private theorem flatMap_length_le {α β : Type} {f : α → List β} {n : Nat} {l : List α}
    (short : ∀ a ∈ l, (f a).length ≤ n) : (l.flatMap f).length ≤ n * l.length := by
  induction l with
  | nil => exact Nat.zero_le _
  | cons a l ih =>
    have first := short a (by simp)
    have later := ih fun b member => short b (by simp [member])
    simp only [List.flatMap_cons, List.length_append, List.length_cons, Nat.mul_succ]
    omega

private theorem Json.writeString_length_le (s : String) :
    (Json.writeString s).length ≤ 6 * s.length + 2 := by
  have inside := flatMap_length_le (l := s.toList) fun c _ => Json.writeChar_length_le c
  rw [String.length_toList] at inside
  simp only [Json.writeString, List.cons_append, List.length_cons, List.length_append,
    List.length_nil]
  omega

private theorem Text.Utf8.encode_length_le (s : String) :
    (Text.Utf8.encode s).length ≤ 4 * s.length := by
  have inside := flatMap_length_le (l := s.toList) fun c _ => utf8EncodeChar_length_le c
  rwa [String.length_toList] at inside

private theorem Protobuf.varint_length_le {n : Nat} (allowed : Nat)
    (small : n < Nat.pow 128 (allowed + 1)) : (Protobuf.varint n).length ≤ allowed + 1 := by
  induction allowed generalizing n with
  | zero =>
    rw [Protobuf.varint, if_pos small]
    exact Nat.le_refl 1
  | succ allowed ih =>
    rw [Protobuf.varint]
    split
    · exact Nat.succ_le_succ (Nat.zero_le _)
    · have power : Nat.pow 128 (allowed + 1 + 1) = Nat.pow 128 (allowed + 1) * 128 := rfl
      exact Nat.succ_le_succ (ih (by omega))

/-- A varint of 64 bits has at most ten bytes. -/
theorem Protobuf.varint_length_le_ten {n : Nat} (small : n ≤ Protobuf.maxVarint) :
    (Protobuf.varint n).length ≤ 10 := by
  refine Protobuf.varint_length_le 9 (Nat.lt_of_le_of_lt small ?_)
  decide

namespace Kind

/-- The most bytes that a value takes, in each encoding. -/
def room : (k : Kind) → k.Value → Nat
  | .int64, _ => 20
  | .int32, _ => 20
  | .string, v => 6 * v.length + 12

variable {k : Kind} {v : k.Value}

private theorem fits_of_room (small : k.room v ≤ Protobuf.maxVarint) : k.Fits v := by
  cases k with
  | int64 => trivial
  | int32 => trivial
  | string =>
    have bytes := Text.Utf8.encode_length_le v
    simp only [room] at small
    show (Text.Utf8.encode v).length ≤ Protobuf.maxVarint
    omega

theorem json_length_le (k : Kind) (v : k.Value) : (k.json v).length ≤ k.room v := by
  cases k with
  | int64 =>
    have low := Int64.le_toInt v
    have high := Int64.toInt_lt v
    exact Json.writeInt_length_le (by omega)
  | int32 =>
    have low := Int32.le_toInt v
    have high := Int32.toInt_lt v
    exact Json.writeInt_length_le (by omega)
  | string => exact Nat.le_trans (Json.writeString_length_le v) (by simp only [room]; omega)

theorem binary_length_le (fits : k.Fits v) : (k.binary v).length ≤ k.room v := by
  cases k with
  | int64 =>
    have bytes := Protobuf.varint_length_le_ten (Nat.le_of_lt_succ (UInt64.toNat_lt v.toUInt64))
    exact Nat.le_trans bytes (by simp [room])
  | int32 =>
    have bytes := Protobuf.varint_length_le_ten
      (Nat.le_of_lt_succ (UInt64.toNat_lt v.toInt64.toUInt64))
    exact Nat.le_trans bytes (by simp [room])
  | string =>
    have length := Protobuf.varint_length_le_ten fits
    have bytes := Text.Utf8.encode_length_le v
    simp only [binary, Protobuf.delimited, List.length_append, room]
    omega

end Kind

/-! Messages. -/

private theorem Json.separated_length_le {n : Nat} {parts : List Bytes}
    (short : ∀ part ∈ parts, part.length ≤ n) :
    (Json.separated parts).length ≤ (n + 1) * parts.length := by
  fun_induction Json.separated parts with
  | case1 => exact Nat.zero_le _
  | case2 part =>
    have only := short part (by simp)
    simp only [List.length_singleton]
    omega
  | case3 part parts _ ih =>
    have first := short part (by simp)
    have later := ih fun p member => short p (by simp [member])
    simp only [List.length_append, List.length_cons, Nat.mul_succ]
    omega

namespace Schema

variable {σ : Type} {schema : Schema σ} {m : σ} {n : Nat}

private theorem toJson_length_le
    (room : ∀ f ∈ schema.fields, 6 * f.member.length + 3 + f.kind.room (f.get m) ≤ n) :
    (schema.toJson m).length ≤ (n + 1) * schema.fields.length + 2 := by
  have members : ∀ part ∈ schema.fields.map fun f =>
      Json.writeMember f.member (f.kind.json (f.get m)), part.length ≤ n := by
    intro part listed
    obtain ⟨f, known, rfl⟩ := List.mem_map.mp listed
    have name := Json.writeString_length_le f.member
    have value := f.kind.json_length_le (f.get m)
    have whole := room f known
    simp only [Json.writeMember, List.length_append, List.length_cons]
    omega
  have parts := Json.separated_length_le members
  rw [List.length_map] at parts
  simpa [toJson, Json.writeObject, Function.comp_def] using parts

private theorem key_length_le {f : FieldSpec σ} (small : f.number ≤ Protobuf.maxFieldNumber) :
    (Protobuf.Key.mk f.number f.kind.wire).write.length ≤ 10 := by
  have wire := f.kind.wire.toNat_lt
  have number : f.number * 8 + f.kind.wire.toNat ≤ Protobuf.maxVarint := by
    unfold Protobuf.maxFieldNumber at small
    unfold Protobuf.maxVarint
    omega
  exact Protobuf.varint_length_le_ten number

private theorem toBinary_length_le (lawful : schema.Lawful) (fits : schema.Fits m)
    (room : ∀ f ∈ schema.fields, 10 + f.kind.room (f.get m) ≤ n) :
    (schema.toBinary m).length ≤ n * schema.fields.length := by
  refine flatMap_length_le fun f known => ?_
  have key := key_length_le (lawful.range f known).2
  have value := Kind.binary_length_le (fits f known)
  have whole := room f known
  unfold fieldBinary
  split
  · exact Nat.zero_le n
  · rw [List.length_append]
    omega

/-- The length of a message, by the most bytes that each of its fields takes with its name or its
key. -/
theorem encode_length_le (lawful : schema.Lawful) (fits : schema.Fits m)
    (room : ∀ f ∈ schema.fields, 6 * f.member.length + 10 + f.kind.room (f.get m) ≤ n)
    (mode : Mode) : (schema.encode mode m).length ≤ (n + 1) * schema.fields.length + 2 := by
  cases mode with
  | text => exact toJson_length_le fun f known => Nat.le_trans (by omega) (room f known)
  | binary =>
    have written : (schema.toBinary m).length ≤ n * schema.fields.length :=
      toBinary_length_le lawful fits fun f known => Nat.le_trans (by omega) (room f known)
    show (schema.toBinary m).length ≤ _
    rw [Nat.add_mul]
    omega

/-- A message of few fields with short texts is never too long. -/
theorem encode_short (lawful : schema.Lawful) (few : schema.fields.length ≤ 3)
    (names : ∀ f ∈ schema.fields, f.member.length ≤ 100)
    (room : ∀ f ∈ schema.fields, f.kind.room (f.get m) ≤ 1000) (mode : Mode) :
    (schema.encode mode m).length ≤ Frame.maxLength := by
  have fits : schema.Fits m :=
    fun f known => Kind.fits_of_room (Nat.le_trans (room f known) (by decide))
  have whole : ∀ f ∈ schema.fields, 6 * f.member.length + 10 + f.kind.room (f.get m) ≤ 2000 := by
    intro f known
    have name := names f known
    have value := room f known
    omega
  have bound := encode_length_le lawful fits whole mode
  unfold Frame.maxLength
  omega

end Schema

/-! The messages. Those without a text are never too long. -/

theorem Ping.short (m : Ping) (mode : Mode) :
    (Ping.schema.encode mode m).length ≤ Frame.maxLength :=
  Schema.encode_short Ping.schema_lawful (by decide) (by decide) (by simp [schema, Kind.room]) mode

theorem StreamPing.short (m : StreamPing) (mode : Mode) :
    (StreamPing.schema.encode mode m).length ≤ Frame.maxLength :=
  Schema.encode_short StreamPing.schema_lawful (by decide) (by decide)
    (by simp [schema, Kind.room]) mode

theorem Pong.short {m : Pong} (named : m.serviceName.length ≤ 100) (mode : Mode) :
    (Pong.schema.encode mode m).length ≤ Frame.maxLength :=
  Schema.encode_short Pong.schema_lawful (by decide) (by decide)
    (by simp [schema, Kind.room]; omega) mode

theorem StreamPong.short {m : StreamPong} (named : m.serviceName.length ≤ 100) (mode : Mode) :
    (StreamPong.schema.encode mode m).length ≤ Frame.maxLength :=
  Schema.encode_short StreamPong.schema_lawful (by decide) (by decide)
    (by simp [schema, Kind.room]; omega) mode

end GatewayPing
