import GatewayPing.Text.Utf8

/-! UTF-8 is lossless: the front of what was written is the character that was written
(`front_encode`), and the text that bytes spell is the text they were made of (`decode_encode`).
Nothing else is read as a text (`decode_eq_ok_iff`). -/
namespace GatewayPing.Text.Utf8

variable {n : Nat} {b : UInt8} {c : Char} {s rest : Bytes}

/-! Bytes as numbers. -/

theorem toNat_byte (small : n < 256) : (UInt8.ofNat n).toNat = n :=
  UInt8.toNat_ofNat_of_lt' small

private theorem byte_lt (small : n < 256) : UInt8.ofNat n < b ↔ n < b.toNat := by
  rw [UInt8.lt_iff_toNat_lt, toNat_byte small]

private theorem le_byte (small : n < 256) : b ≤ UInt8.ofNat n ↔ b.toNat ≤ n := by
  rw [UInt8.le_iff_toNat_le, toNat_byte small]

private theorem byte_le (small : n < 256) : UInt8.ofNat n ≤ b ↔ n ≤ b.toNat := by
  rw [UInt8.le_iff_toNat_le, toNat_byte small]

private theorem byte_eq (small : n < 256) : UInt8.ofNat n = b ↔ n = b.toNat := by
  rw [← UInt8.toNat_inj, toNat_byte small]

/-- The byte that carries the low six bits of a number continues a character. -/
theorem isTail_byte (n : Nat) : isTail (UInt8.ofNat (n % 64 + 128)) = true := by
  have small : n % 64 + 128 < 256 := by omega
  simp only [isTail, Bool.and_eq_true, decide_eq_true_eq, le_byte small, byte_le small,
    UInt8.reduceToNat]
  omega

private theorem tailBits_byte (n : Nat) : tailBits (UInt8.ofNat (n % 64 + 128)) = n % 64 := by
  rw [tailBits, toNat_byte (by omega)]
  omega

/-! Characters by the number of their bytes. -/

/-- A character is no surrogate, and not beyond the last of all. -/
theorem toNat_valid (c : Char) : c.toNat < 0xD800 ∨ 0xDFFF < c.toNat ∧ c.toNat < 0x110000 :=
  c.valid

private theorem front_one (small : c.toNat ≤ 0x7F) :
    front (UInt8.ofNat c.toNat :: rest) = .char c rest := by
  have byte : c.toNat < 256 := by omega
  have one : c.toNat < 0x80 := by omega
  simp only [front, byte_lt byte, UInt8.reduceToNat, one, ↓reduceIte, toNat_byte byte,
    Char.ofNat_toNat]

private theorem front_two (large : 0x7F < c.toNat) (small : c.toNat ≤ 0x7FF) :
    front (UInt8.ofNat (c.toNat / 64 % 32 + 0xC0) :: UInt8.ofNat (c.toNat % 64 + 0x80) :: rest) =
      .char c rest := by
  have byte : c.toNat / 64 % 32 + 0xC0 < 256 := by omega
  have bounds : 0xC2 ≤ c.toNat / 64 % 32 + 0xC0 ∧ c.toNat / 64 % 32 + 0xC0 < 0xE0 := by omega
  generalize lead : c.toNat / 64 % 32 + 0xC0 = a at byte bounds
  have number : a % 32 * 64 + c.toNat % 64 = c.toNat := by omega
  have notOne : ¬ a < 0x80 := by omega
  have notTail : ¬ a < 0xC2 := by omega
  simp only [front, byte_lt byte, UInt8.reduceToNat, notOne, notTail, bounds.2, ↓reduceIte, front2,
    isTail_byte, tailBits_byte, toNat_byte byte, number, Char.ofNat_toNat]

private theorem front_three (large : 0x7FF < c.toNat) (small : c.toNat ≤ 0xFFFF) :
    front (UInt8.ofNat (c.toNat / 4096 % 16 + 0xE0) :: UInt8.ofNat (c.toNat / 64 % 64 + 0x80) ::
      UInt8.ofNat (c.toNat % 64 + 0x80) :: rest) = .char c rest := by
  have valid := toNat_valid c
  have byte : c.toNat / 4096 % 16 + 0xE0 < 256 := by omega
  have tail : c.toNat / 64 % 64 + 0x80 < 256 := by omega
  have bounds : 0xE0 ≤ c.toNat / 4096 % 16 + 0xE0 ∧ c.toNat / 4096 % 16 + 0xE0 < 0xF0 := by omega
  -- The second byte keeps clear of what two bytes can write, and of the surrogates.
  have short : c.toNat / 4096 % 16 + 0xE0 = 0xE0 → 0xA0 ≤ c.toNat / 64 % 64 + 0x80 := by omega
  have surrogate : c.toNat / 4096 % 16 + 0xE0 = 0xED → c.toNat / 64 % 64 + 0x80 ≤ 0x9F := by omega
  generalize lead : c.toNat / 4096 % 16 + 0xE0 = a at byte bounds short surrogate
  have number : a % 16 * 4096 + c.toNat / 64 % 64 * 64 + c.toNat % 64 = c.toNat := by omega
  have second : ((UInt8.ofNat a != 0xE0 || 0xA0 ≤ UInt8.ofNat (c.toNat / 64 % 64 + 0x80)) &&
      (UInt8.ofNat a != 0xED || UInt8.ofNat (c.toNat / 64 % 64 + 0x80) ≤ 0x9F)) = true := by
    simp only [Bool.and_eq_true, Bool.or_eq_true, bne_iff_ne, ne_eq, decide_eq_true_eq,
      byte_eq byte, le_byte tail, byte_le tail, UInt8.reduceToNat]
    omega
  have notOne : ¬ a < 0x80 := by omega
  have notTail : ¬ a < 0xC2 := by omega
  have notTwo : ¬ a < 0xE0 := by omega
  simp only [front, byte_lt byte, UInt8.reduceToNat, notOne, notTail, notTwo, bounds.2, ↓reduceIte,
    front3, isTail_byte, Bool.true_and, second, tailBits_byte, toNat_byte byte, number,
    Char.ofNat_toNat]

private theorem front_four (large : 0xFFFF < c.toNat) :
    front (UInt8.ofNat (c.toNat / 262144 % 8 + 0xF0) :: UInt8.ofNat (c.toNat / 4096 % 64 + 0x80) ::
      UInt8.ofNat (c.toNat / 64 % 64 + 0x80) :: UInt8.ofNat (c.toNat % 64 + 0x80) :: rest) =
      .char c rest := by
  have valid := toNat_valid c
  have byte : c.toNat / 262144 % 8 + 0xF0 < 256 := by omega
  have tail : c.toNat / 4096 % 64 + 0x80 < 256 := by omega
  have bounds : 0xF0 ≤ c.toNat / 262144 % 8 + 0xF0 ∧ c.toNat / 262144 % 8 + 0xF0 < 0xF5 := by omega
  -- The second byte keeps clear of what three bytes can write, and of what no character is.
  have short : c.toNat / 262144 % 8 + 0xF0 = 0xF0 → 0x90 ≤ c.toNat / 4096 % 64 + 0x80 := by omega
  have beyond : c.toNat / 262144 % 8 + 0xF0 = 0xF4 → c.toNat / 4096 % 64 + 0x80 ≤ 0x8F := by omega
  generalize lead : c.toNat / 262144 % 8 + 0xF0 = a at byte bounds short beyond
  have number : a % 8 * 262144 + c.toNat / 4096 % 64 * 4096 + c.toNat / 64 % 64 * 64 +
      c.toNat % 64 = c.toNat := by omega
  have second : ((UInt8.ofNat a != 0xF0 || 0x90 ≤ UInt8.ofNat (c.toNat / 4096 % 64 + 0x80)) &&
      (UInt8.ofNat a != 0xF4 || UInt8.ofNat (c.toNat / 4096 % 64 + 0x80) ≤ 0x8F)) = true := by
    simp only [Bool.and_eq_true, Bool.or_eq_true, bne_iff_ne, ne_eq, decide_eq_true_eq,
      byte_eq byte, le_byte tail, byte_le tail, UInt8.reduceToNat]
    omega
  have notOne : ¬ a < 0x80 := by omega
  have notTail : ¬ a < 0xC2 := by omega
  have notTwo : ¬ a < 0xE0 := by omega
  have notThree : ¬ a < 0xF0 := by omega
  simp only [front, byte_lt byte, UInt8.reduceToNat, notOne, notTail, notTwo, notThree, bounds.2,
    ↓reduceIte, front4, isTail_byte, Bool.true_and, second, tailBits_byte, toNat_byte byte, number,
    Char.ofNat_toNat]

/-- The four forms of a character. -/
theorem encode_forms (c : Char) :
    (c.toNat ≤ 0x7F ∧ String.utf8EncodeChar c = [UInt8.ofNat c.toNat]) ∨
    ((0x7F < c.toNat ∧ c.toNat ≤ 0x7FF) ∧ String.utf8EncodeChar c =
      [UInt8.ofNat (c.toNat / 64 % 32 + 0xC0), UInt8.ofNat (c.toNat % 64 + 0x80)]) ∨
    ((0x7FF < c.toNat ∧ c.toNat ≤ 0xFFFF) ∧ String.utf8EncodeChar c =
      [UInt8.ofNat (c.toNat / 4096 % 16 + 0xE0), UInt8.ofNat (c.toNat / 64 % 64 + 0x80),
        UInt8.ofNat (c.toNat % 64 + 0x80)]) ∨
    (0xFFFF < c.toNat ∧ String.utf8EncodeChar c =
      [UInt8.ofNat (c.toNat / 262144 % 8 + 0xF0), UInt8.ofNat (c.toNat / 4096 % 64 + 0x80),
        UInt8.ofNat (c.toNat / 64 % 64 + 0x80), UInt8.ofNat (c.toNat % 64 + 0x80)]) := by
  by_cases one : c.toNat ≤ 0x7F
  · exact .inl ⟨one, if_pos one⟩
  by_cases two : c.toNat ≤ 0x7FF
  · exact .inr (.inl ⟨⟨Nat.not_le.mp one, two⟩, (if_neg one).trans (if_pos two)⟩)
  by_cases three : c.toNat ≤ 0xFFFF
  · exact .inr (.inr (.inl ⟨⟨Nat.not_le.mp two, three⟩,
      (if_neg one).trans ((if_neg two).trans (if_pos three))⟩))
  · exact .inr (.inr (.inr ⟨Nat.not_le.mp three,
      (if_neg one).trans ((if_neg two).trans (if_neg three))⟩))

/-- The front of what was written is the character that was written. -/
theorem front_encode (c : Char) (rest : Bytes) :
    front (String.utf8EncodeChar c ++ rest) = .char c rest := by
  obtain ⟨one, form⟩ | ⟨two, form⟩ | ⟨three, form⟩ | ⟨four, form⟩ := encode_forms c <;> rw [form]
  · exact front_one one
  · exact front_two two.1 two.2
  · exact front_three three.1 three.2
  · exact front_four four

/-- The first byte of a character is the character itself if it is an ASCII character, and no ASCII
character otherwise. -/
theorem encode_head (c : Char) :
    ∃ b tail, String.utf8EncodeChar c = b :: tail ∧ (b.toNat = c.toNat ∨ 0x80 ≤ b.toNat) := by
  obtain ⟨one, form⟩ | ⟨two, form⟩ | ⟨three, form⟩ | ⟨four, form⟩ := encode_forms c
  · exact ⟨_, _, form, .inl (toNat_byte (by omega))⟩
  · exact ⟨_, _, form, .inr (by rw [toNat_byte (by omega)]; omega)⟩
  · exact ⟨_, _, form, .inr (by rw [toNat_byte (by omega)]; omega)⟩
  · exact ⟨_, _, form, .inr (by rw [toNat_byte (by omega)]; omega)⟩

/-- Each byte of a character is the character itself or no ASCII character. -/
theorem encode_bytes (c : Char) :
    ∀ b ∈ String.utf8EncodeChar c, b.toNat = c.toNat ∨ 0x80 ≤ b.toNat := by
  have upper {n : Nat} (small : n < 256) (large : 0x80 ≤ n) :
      (UInt8.ofNat n).toNat = c.toNat ∨ 0x80 ≤ (UInt8.ofNat n).toNat :=
    .inr (by rwa [toNat_byte small])
  intro b member
  obtain ⟨one, form⟩ | ⟨two, form⟩ | ⟨three, form⟩ | ⟨four, form⟩ := encode_forms c
  · rw [form, List.mem_singleton] at member
    exact .inl (member ▸ toNat_byte (by omega))
  · rw [form] at member
    simp only [List.mem_cons, List.not_mem_nil, or_false] at member
    rcases member with rfl | rfl <;> exact upper (by omega) (by omega)
  · rw [form] at member
    simp only [List.mem_cons, List.not_mem_nil, or_false] at member
    rcases member with rfl | rfl | rfl <;> exact upper (by omega) (by omega)
  · rw [form] at member
    simp only [List.mem_cons, List.not_mem_nil, or_false] at member
    rcases member with rfl | rfl | rfl | rfl <;> exact upper (by omega) (by omega)

/-! Characters that were read. -/

private theorem isTail_iff : isTail b = true ↔ 0x80 ≤ b.toNat ∧ b.toNat < 0xC0 := by
  simp only [isTail, Bool.and_eq_true, decide_eq_true_eq, UInt8.le_iff_toNat_le, UInt8.reduceToNat]
  omega

private theorem toNat_ofNat_valid (valid : n < 0xD800 ∨ 0xDFFF < n ∧ n < 0x110000) :
    (Char.ofNat n).toNat = n := by
  rw [Char.ofNat, dif_pos valid]
  exact UInt32.toNat_ofNatLT

/-- The forms of a character by its number. -/
theorem encode_two {a : UInt8} (low : 0xC2 ≤ a.toNat) (high : a.toNat < 0xE0)
    (second : isTail b = true) :
    String.utf8EncodeChar (Char.ofNat (a.toNat % 32 * 64 + tailBits b)) = [a, b] := by
  obtain ⟨least, most⟩ := isTail_iff.mp second
  simp only [tailBits]
  generalize number : a.toNat % 32 * 64 + b.toNat % 64 = n
  have same : (Char.ofNat n).val.toNat = n := toNat_ofNat_valid (by omega)
  have one : ¬ n ≤ 0x7F := by omega
  have two : n ≤ 0x7FF := by omega
  have first : n / 64 % 32 + 0xC0 = a.toNat := by omega
  have last : n % 64 + 0x80 = b.toNat := by omega
  simp only [String.utf8EncodeChar, same, one, two, first, last, ↓reduceIte, UInt8.ofNat_toNat]

private theorem encode_three {a b' : UInt8} (low : 0xE0 ≤ a.toNat) (high : a.toNat < 0xF0)
    (second : isTail b = true) (long : a.toNat = 0xE0 → 0xA0 ≤ b.toNat)
    (proper : a.toNat = 0xED → b.toNat ≤ 0x9F) (third : isTail b' = true) :
    String.utf8EncodeChar (Char.ofNat (a.toNat % 16 * 4096 + tailBits b * 64 + tailBits b')) =
      [a, b, b'] := by
  obtain ⟨least, most⟩ := isTail_iff.mp second
  obtain ⟨least', most'⟩ := isTail_iff.mp third
  simp only [tailBits]
  generalize number : a.toNat % 16 * 4096 + b.toNat % 64 * 64 + b'.toNat % 64 = n
  have same : (Char.ofNat n).val.toNat = n := toNat_ofNat_valid (by omega)
  have one : ¬ n ≤ 0x7F := by omega
  have two : ¬ n ≤ 0x7FF := by omega
  have three : n ≤ 0xFFFF := by omega
  have first : n / 4096 % 16 + 0xE0 = a.toNat := by omega
  have middle : n / 64 % 64 + 0x80 = b.toNat := by omega
  have last : n % 64 + 0x80 = b'.toNat := by omega
  simp only [String.utf8EncodeChar, same, one, two, three, first, middle, last, ↓reduceIte,
    UInt8.ofNat_toNat]

private theorem encode_four {a b' b'' : UInt8} (low : 0xF0 ≤ a.toNat) (high : a.toNat < 0xF5)
    (second : isTail b = true) (long : a.toNat = 0xF0 → 0x90 ≤ b.toNat)
    (proper : a.toNat = 0xF4 → b.toNat ≤ 0x8F) (third : isTail b' = true)
    (fourth : isTail b'' = true) :
    String.utf8EncodeChar (Char.ofNat
      (a.toNat % 8 * 262144 + tailBits b * 4096 + tailBits b' * 64 + tailBits b'')) =
      [a, b, b', b''] := by
  obtain ⟨least, most⟩ := isTail_iff.mp second
  obtain ⟨least', most'⟩ := isTail_iff.mp third
  obtain ⟨least'', most''⟩ := isTail_iff.mp fourth
  simp only [tailBits]
  generalize number :
    a.toNat % 8 * 262144 + b.toNat % 64 * 4096 + b'.toNat % 64 * 64 + b''.toNat % 64 = n
  have same : (Char.ofNat n).val.toNat = n := toNat_ofNat_valid (by omega)
  have one : ¬ n ≤ 0x7F := by omega
  have two : ¬ n ≤ 0x7FF := by omega
  have three : ¬ n ≤ 0xFFFF := by omega
  have first : n / 262144 % 8 + 0xF0 = a.toNat := by omega
  have middle : n / 4096 % 64 + 0x80 = b.toNat := by omega
  have middle' : n / 64 % 64 + 0x80 = b'.toNat := by omega
  have last : n % 64 + 0x80 = b''.toNat := by omega
  simp only [String.utf8EncodeChar, same, one, two, three, first, middle, middle', last,
    ↓reduceIte, UInt8.ofNat_toNat]

private theorem encode_front2 {a : UInt8} (low : 0xC2 ≤ a.toNat) (high : a.toNat < 0xE0)
    (found : front2 a s = .char c rest) : a :: s = String.utf8EncodeChar c ++ rest := by
  unfold front2 at found
  split at found
  · cases found
  · split at found
    · rename_i second
      cases found
      rw [encode_two low high second]
      rfl
    · cases found

private theorem encode_front3 {a : UInt8} (low : 0xE0 ≤ a.toNat) (high : a.toNat < 0xF0)
    (found : front3 a s = .char c rest) : a :: s = String.utf8EncodeChar c ++ rest := by
  unfold front3 at found
  split at found
  · cases found
  · split at found
    · rename_i second
      simp only [Bool.and_eq_true, Bool.or_eq_true, bne_iff_ne, ne_eq, decide_eq_true_eq,
        ← UInt8.toNat_inj, UInt8.le_iff_toNat_le, UInt8.reduceToNat] at second
      obtain ⟨⟨second, long⟩, proper⟩ := second
      split at found
      · cases found
      · split at found
        · rename_i third
          cases found
          rw [encode_three low high second (by omega) (by omega) third]
          rfl
        · cases found
    · cases found

private theorem encode_front4 {a : UInt8} (low : 0xF0 ≤ a.toNat) (high : a.toNat < 0xF5)
    (found : front4 a s = .char c rest) : a :: s = String.utf8EncodeChar c ++ rest := by
  unfold front4 at found
  split at found
  · cases found
  · split at found
    · rename_i second
      simp only [Bool.and_eq_true, Bool.or_eq_true, bne_iff_ne, ne_eq, decide_eq_true_eq,
        ← UInt8.toNat_inj, UInt8.le_iff_toNat_le, UInt8.reduceToNat] at second
      obtain ⟨⟨second, long⟩, proper⟩ := second
      split at found
      · cases found
      · split at found
        · rename_i third
          split at found
          · cases found
          · split at found
            · rename_i fourth
              cases found
              rw [encode_four low high second (by omega) (by omega) third fourth]
              rfl
            · cases found
        · cases found
    · cases found

/-- A byte sequence that begins with a character begins with the bytes of that character. -/
theorem encode_front (found : front s = .char c rest) : s = String.utf8EncodeChar c ++ rest := by
  cases s with
  | nil => cases found
  | cons a s =>
    simp only [front, UInt8.lt_iff_toNat_lt, UInt8.reduceToNat] at found
    by_cases one : a.toNat < 0x80
    · rw [if_pos one] at found
      cases found
      have same : (Char.ofNat a.toNat).val.toNat = a.toNat := toNat_ofNat_valid (by omega)
      have small : a.toNat ≤ 0x7F := by omega
      simp only [String.utf8EncodeChar, same, small, ↓reduceIte, UInt8.ofNat_toNat,
        List.singleton_append]
    rw [if_neg one] at found
    by_cases tail : a.toNat < 0xC2
    · rw [if_pos tail] at found
      cases found
    rw [if_neg tail] at found
    by_cases two : a.toNat < 0xE0
    · rw [if_pos two] at found
      exact encode_front2 (Nat.not_lt.mp tail) two found
    rw [if_neg two] at found
    by_cases three : a.toNat < 0xF0
    · rw [if_pos three] at found
      exact encode_front3 (Nat.not_lt.mp two) three found
    rw [if_neg three] at found
    by_cases four : a.toNat < 0xF5
    · rw [if_pos four] at found
      exact encode_front4 (Nat.not_lt.mp three) four found
    · rw [if_neg four] at found
      cases found

/-! Texts. -/

private theorem decodeFrom_encode (index : Nat) (read cs : List Char) :
    decodeFrom index read (cs.flatMap String.utf8EncodeChar) = .ok (read.reverse ++ cs) := by
  induction cs generalizing index read with
  | nil => simp [decodeFrom, front]
  | cons c cs ih =>
    rw [decodeFrom, List.flatMap_cons]
    split
    all_goals rename_i found; rw [front_encode] at found; cases found
    rw [ih]
    simp

/-- A text is read as it was written. -/
theorem decode_encode (s : String) : decode (encode s) = .ok s := by
  rw [decode, encode, decodeFrom_encode]
  simp [Except.map]

private theorem front_done (last : front s = .done) : s = [] := by
  unfold front front2 front3 front4 at last
  grind

private theorem encode_decodeFrom {index : Nat} {read cs : List Char}
    (decoded : decodeFrom index read s = .ok cs) :
    cs.flatMap String.utf8EncodeChar = read.reverse.flatMap String.utf8EncodeChar ++ s := by
  induction index, read, s using decodeFrom.induct with
  | case1 index read s last =>
    rw [decodeFrom] at decoded
    split at decoded
    all_goals rename_i found; cases last.symm.trans found
    cases decoded
    rw [front_done last, List.append_nil]
  | case2 index read s c rest next ih =>
    rw [decodeFrom] at decoded
    split at decoded
    all_goals rename_i found; cases next.symm.trans found
    rw [ih decoded, encode_front next]
    simp
  | case3 index read s n broken =>
    rw [decodeFrom] at decoded
    split at decoded
    all_goals rename_i found; cases broken.symm.trans found
    cases decoded
  | case4 index read s cut =>
    rw [decodeFrom] at decoded
    split at decoded
    all_goals rename_i found; cases cut.symm.trans found
    cases decoded

/-- Bytes that are read as a text are those of the text. -/
theorem decode_eq_ok_iff {text : String} : decode s = .ok text ↔ s = encode text := by
  constructor
  · intro decoded
    unfold decode at decoded
    cases read : decodeFrom 0 [] s with
    | error fault => simp [read, Except.map] at decoded
    | ok cs =>
      simp only [read, Except.map, Except.ok.injEq] at decoded
      rw [← decoded, encode, String.toList_ofList, encode_decodeFrom read]
      rfl
  · rintro rfl
    exact decode_encode text

end GatewayPing.Text.Utf8
