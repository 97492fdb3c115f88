import GatewayPing.Proofs.Text.Utf8
import GatewayPing.Text.Percent

/-! Percent encoding is lossless: bytes are read back from any encoding of them (`Encodes.decode`),
and what is written is one (`encode_encodes`). It is ASCII, so that it can stand in a header as it is
(`encode_ascii`). -/
namespace GatewayPing.Text.Percent

variable {b : UInt8} {s rest : Bytes}

/-- A digit is ASCII, and its value is read as it was written. -/
theorem digit?_digit : ∀ n < 16, digit? (digit (UInt8.ofNat n)) = some (UInt8.ofNat n) ∧
    digit (UInt8.ofNat n) < 0x80 := by decide

private theorem high_digit (b : UInt8) : ∃ n < 16, b / 16 = UInt8.ofNat n := by
  refine ⟨b.toNat / 16, by have := UInt8.toNat_lt b; omega, ?_⟩
  rw [← UInt8.toNat_inj, UInt8.toNat_div, Utf8.toNat_byte (by have := UInt8.toNat_lt b; omega)]
  rfl

private theorem low_digit (b : UInt8) : ∃ n < 16, b % 16 = UInt8.ofNat n := by
  refine ⟨b.toNat % 16, Nat.mod_lt _ (by decide), ?_⟩
  rw [← UInt8.toNat_inj, UInt8.toNat_mod, Utf8.toNat_byte (by omega)]
  rfl

/-- The two digits of a byte make up the byte. -/
theorem digits_whole (b : UInt8) : b / 16 * 16 + b % 16 = b := by
  have bound := UInt8.toNat_lt b
  rw [← UInt8.toNat_inj, UInt8.toNat_add, UInt8.toNat_mul, UInt8.toNat_div, UInt8.toNat_mod]
  simp only [UInt8.reduceToNat]
  omega

private theorem decode_plain (plain : b ≠ byte '%') : decode (b :: rest) = b :: decode rest := by
  rw [decode, if_neg (by simpa using plain)]

private theorem decode_escape {c : UInt8} (found : escape? s = some (c, rest)) :
    decode (byte '%' :: s) = c :: decode rest := by
  rw [decode, if_pos (beq_self_eq_true _)]
  split
  · rename_i same
    cases found.symm.trans same
    rfl
  · rename_i none
    cases found.symm.trans none

/-- An encoding of bytes: each of them stands for itself or is escaped. A percent sign has to be
escaped, any other byte may be, and the letter case of the digits does not matter. -/
inductive Encodes : Bytes → Bytes → Prop where
  | nil : Encodes [] []
  | plain {s t : Bytes} {b : UInt8} (plain : b ≠ byte '%') (more : Encodes s t) :
      Encodes (b :: s) (b :: t)
  | escaped {s t : Bytes} {a b high low : UInt8} (first : digit? a = some high)
      (second : digit? b = some low) (more : Encodes s t) :
      Encodes (byte '%' :: a :: b :: s) ((high * 16 + low) :: t)

/-- Bytes are read back from any encoding of them. -/
theorem Encodes.decode {s t : Bytes} (encodes : Encodes s t) : decode s = t := by
  induction encodes with
  | nil => exact decode.eq_1
  | plain plain more ih => rw [decode_plain plain, ih]
  | @escaped s t a b high low first second more ih =>
    have found : escape? (a :: b :: s) = some (high * 16 + low, s) := by
      simp only [escape?, first, second]
    rw [decode_escape found, ih]

private theorem Encodes.encodeByte {t : Bytes} (more : Encodes s t) (b : UInt8) :
    Encodes (encodeByte b ++ s) (b :: t) := by
  unfold Percent.encodeByte
  split
  · rename_i plain
    refine .plain ?_ more
    rintro rfl
    exact absurd plain (by decide)
  · obtain ⟨high, highBound, highDigit⟩ := high_digit b
    obtain ⟨low, lowBound, lowDigit⟩ := low_digit b
    have escaped := Encodes.escaped (digit?_digit high highBound).1 (digit?_digit low lowBound).1 more
    rw [← highDigit, ← lowDigit, digits_whole] at escaped
    exact escaped

/-- What is written is an encoding. -/
theorem encode_encodes (s : Bytes) : Encodes (encode s) s := by
  induction s with
  | nil => exact .nil
  | cons b s ih => exact ih.encodeByte b

private theorem encodeByte_ascii (b : UInt8) : ∀ c ∈ encodeByte b, c < 0x80 := by
  unfold encodeByte
  split
  · rename_i plain
    simp only [isPlain, Bool.and_eq_true, decide_eq_true_eq] at plain
    intro c member
    obtain rfl := List.mem_singleton.mp member
    exact UInt8.lt_trans plain.1.2 (by decide)
  · obtain ⟨high, highBound, highDigit⟩ := high_digit b
    obtain ⟨low, lowBound, lowDigit⟩ := low_digit b
    rw [highDigit, lowDigit]
    simp only [List.mem_cons, List.not_mem_nil, or_false]
    rintro c (rfl | rfl | rfl)
    · decide
    · exact (digit?_digit high highBound).2
    · exact (digit?_digit low lowBound).2

/-- What is written is ASCII. -/
theorem encode_ascii (s : Bytes) : ∀ c ∈ encode s, c < 0x80 := by
  intro c member
  obtain ⟨b, -, inside⟩ := List.mem_flatMap.mp member
  exact encodeByte_ascii b c inside

end GatewayPing.Text.Percent
