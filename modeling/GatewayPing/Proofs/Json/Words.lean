import GatewayPing.Json.Number
import GatewayPing.Json.Write
import GatewayPing.Proofs.Text.Utf8

/-! The words of a JSON text are read as they were written: the characters of a string
(`takeChars_written`) and the digits of a whole number (`takeNumeral_written`,
`Numeral.number_written`). -/
namespace GatewayPing.Json

open Text

private theorem toNat_byte {c : Char} (small : c.toNat < 256) : (byte c).toNat = c.toNat :=
  UInt8.toNat_ofNat_of_lt' small

theorem byte_inj {c d : Char} (small : c.toNat < 256) (small' : d.toNat < 256) :
    byte c = byte d ↔ c = d := by
  rw [← UInt8.toNat_inj, toNat_byte small, toNat_byte small', Char.toNat_inj]

/-! Strings. -/

variable {taken : List Char} {c : Char} {s rest : Bytes}

theorem takeChars_quote : takeChars taken (byte '"' :: rest) = .ok (taken.reverse, rest) := by
  rw [takeChars]
  exact if_pos rfl

theorem takeChars_escape (escape : takeEscape s = .ok (c, rest)) :
    takeChars taken (byte '\\' :: s) = takeChars (c :: taken) rest := by
  rw [takeChars, if_neg (by decide), if_pos (beq_self_eq_true _)]
  split
  · rename_i failed
    cases escape.symm.trans failed
  · rename_i same
    cases escape.symm.trans same
    rfl

/-- A character that may stand for itself: no quote, no backslash and no control character. -/
structure Plain (c : Char) : Prop where
  quote : c ≠ '"'
  backslash : c ≠ '\\'
  visible : 32 ≤ c.toNat

instance : DecidablePred Plain := fun c =>
  decidable_of_iff (c ≠ '"' ∧ c ≠ '\\' ∧ 32 ≤ c.toNat)
    ⟨fun ⟨quote, backslash, visible⟩ => ⟨quote, backslash, visible⟩,
      fun plain => ⟨plain.quote, plain.backslash, plain.visible⟩⟩

/-- A byte that a plain character may begin or go on with. -/
def Inert (b : UInt8) : Prop := b ≠ byte '"' ∧ b ≠ byte '\\' ∧ ¬ b < 32

theorem inert_encode (plain : Plain c) : ∀ b ∈ String.utf8EncodeChar c, Inert b := by
  intro b member
  have head := Utf8.encode_bytes c b member
  have visible := plain.visible
  have own {d : Char} (small : d.toNat < 128) (other : c ≠ d) : b ≠ byte d := by
    rintro rfl
    rw [toNat_byte (Nat.lt_trans small (by decide))] at head
    rcases head with same | large
    · exact other (Char.toNat_inj.mp same.symm)
    · omega
  refine ⟨own (by decide) plain.quote, own (by decide) plain.backslash, ?_⟩
  rw [UInt8.lt_iff_toNat_lt]
  simp only [UInt8.reduceToNat]
  omega

theorem takeChars_plain (plain : Plain c) :
    takeChars taken (String.utf8EncodeChar c ++ rest) = takeChars (c :: taken) rest := by
  obtain ⟨b, tail, bytes, -⟩ := Utf8.encode_head c
  have front := Utf8.front_encode c rest
  have clear := inert_encode plain b (by rw [bytes]; exact List.mem_cons_self)
  rw [bytes, List.cons_append] at front ⊢
  rw [takeChars, if_neg (by simpa using clear.1), if_neg (by simpa using clear.2.1),
    if_neg clear.2.2]
  split
  · rename_i same
    cases front.symm.trans same
    rfl
  · rename_i other
    exact absurd front (other c rest)

private theorem hexValue?_digitChar :
    ∀ d < 16, hexValue? (byte (Nat.digitChar d)) = some d := by decide

/-- A control character written by its number. -/
theorem takeEscape_control (control : c.toNat < 32) :
    takeEscape (byte 'u' :: byte '0' :: byte '0' :: byte (Nat.digitChar (c.toNat / 16)) ::
      byte (Nat.digitChar (c.toNat % 16)) :: rest) = .ok (c, rest) := by
  have zero : hexValue? (byte '0') = some 0 := rfl
  have high := hexValue?_digitChar (c.toNat / 16) (by omega)
  have low := hexValue?_digitChar (c.toNat % 16) (by omega)
  have number : 0 * 4096 + 0 * 256 + c.toNat / 16 * 16 + c.toNat % 16 = c.toNat := by omega
  have single : isTrailing c.toNat = false ∧ isLeading c.toNat = false := by
    simp only [isTrailing, isLeading, Bool.and_eq_false_iff, decide_eq_false_iff_not]
    omega
  have noShort : shortEscape? (byte 'u') = none := rfl
  simp only [takeEscape, noShort, takeUnicode, takeHex, zero, high, low, number, single,
    beq_self_eq_true, Bool.false_eq_true, ↓reduceIte, Char.ofNat_toNat]

private theorem takeChars_writeChar (c : Char) (rest : Bytes) :
    takeChars taken (writeChar c ++ rest) = takeChars (c :: taken) rest := by
  unfold writeChar
  split
  case h_8 quote backslash _ _ _ _ _ =>
    split
    · rename_i control
      exact takeChars_escape (takeEscape_control control)
    · rename_i visible
      exact takeChars_plain ⟨quote, backslash, Nat.not_lt.mp visible⟩
  all_goals exact takeChars_escape rfl

/-- The characters of a string are read up to its closing quote. -/
theorem takeChars_written (taken cs : List Char) (rest : Bytes) :
    takeChars taken (cs.flatMap writeChar ++ byte '"' :: rest) =
      .ok (taken.reverse ++ cs, rest) := by
  induction cs generalizing taken with
  | nil => simp [takeChars_quote]
  | cons c cs ih =>
    rw [List.flatMap_cons, List.append_assoc, takeChars_writeChar, ih]
    simp

/-! Whole numbers. -/

variable {n : Nat} {ds : List Char} {early : Reason}

/-- Bytes that do not go on with digits. -/
def Ends (rest : Bytes) : Prop := ∀ b ∈ rest.head?, isDigit b = false

/-- Bytes that do not go on with a numeral. -/
def Stops (rest : Bytes) : Prop :=
  ∀ b ∈ rest.head?, isDigit b = false ∧ b ≠ byte '.' ∧ b ≠ byte 'e' ∧ b ≠ byte 'E'

theorem Stops.ends (stops : Stops rest) : Ends rest := fun b first => (stops b first).1

theorem digit_range (digit : c.isDigit = true) : 48 ≤ c.toNat ∧ c.toNat ≤ 57 := by
  simpa [Char.isDigit, UInt32.le_iff_toNat_le] using digit

theorem digit_lt (digit : c.isDigit = true) : c.toNat < 256 :=
  Nat.lt_of_le_of_lt (digit_range digit).2 (by decide)

theorem byte_digit (digit : c.isDigit = true) :
    isDigit (byte c) = true ∧ digitValue (byte c) = c.toNat - 48 := by
  have range := digit_range digit
  have value := toNat_byte (digit_lt digit)
  refine ⟨?_, by rw [digitValue, value]⟩
  simp only [isDigit, Bool.and_eq_true, decide_eq_true_eq, UInt8.le_iff_toNat_le, value,
    UInt8.reduceToNat]
  exact range

theorem digits_split (decimal : ∀ c ∈ ds, c.isDigit = true) (ends : Ends rest) :
    (ascii ds ++ rest).takeWhile isDigit = ascii ds ∧
      (ascii ds ++ rest).dropWhile isDigit = rest := by
  have row : ∀ b ∈ ascii ds, isDigit b = true := by
    intro b member
    obtain ⟨c, inside, rfl⟩ := List.mem_map.mp member
    exact (byte_digit (decimal c inside)).1
  have none : rest.takeWhile isDigit = [] ∧ rest.dropWhile isDigit = rest := by
    cases rest with
    | nil => exact ⟨rfl, rfl⟩
    | cons b rest => simp [ends b rfl]
  rw [List.takeWhile_append_of_pos row, List.dropWhile_append_of_pos row, none.1, none.2]
  exact ⟨List.append_nil _, rfl⟩

private theorem digitChar_ne_zero : ∀ d < 10, 0 < d → Nat.digitChar d ≠ '0' := by decide

/-- The digits of a number that is not zero do not begin with a zero. -/
theorem toDigits_head (positive : 0 < n) :
    ∃ d ds, Nat.toDigits 10 n = d :: ds ∧ d ≠ '0' := by
  induction n using Nat.strongRecOn with
  | ind n ih =>
    by_cases small : n < 10
    · exact ⟨_, [], Nat.toDigits_of_lt_base small, digitChar_ne_zero n small positive⟩
    · obtain ⟨d, ds, digits, nonzero⟩ := ih (n / 10) (by omega) (by omega)
      refine ⟨d, ds ++ [Nat.digitChar (n % 10)], ?_, nonzero⟩
      rw [Nat.toDigits_of_base_le (by decide) (Nat.not_lt.mp small), digits, List.cons_append]

theorem toDigits_decimal (n : Nat) : ∀ c ∈ Nat.toDigits 10 n, c.isDigit = true :=
  fun _ member => Nat.isDigit_of_mem_toDigits (by decide) (by decide) member

private theorem takeWhole_written (stops : Stops rest) :
    takeWhole early (writeNat n ++ rest) = .ok (writeNat n, rest) := by
  by_cases zero : n = 0
  · subst zero
    have one : writeNat 0 = [byte '0'] := by rw [writeNat, Nat.toDigits_zero]; rfl
    rw [one]
    cases rest with
    | nil => rfl
    | cons b rest => simp [takeWhole, (stops b rfl).1]
  · obtain ⟨d, ds, digits, nonzero⟩ := toDigits_head (Nat.pos_of_ne_zero zero)
    have decimal := toDigits_decimal n
    rw [digits] at decimal
    have first := (byte_digit (decimal d (by simp))).1
    have other : byte d ≠ byte '0' := by
      rwa [Ne, byte_inj (digit_lt (decimal d (by simp))) (by decide)]
    have split := digits_split (fun c (member : c ∈ ds) => decimal c (by simp [member])) stops.ends
    have written : writeNat n = byte d :: ascii ds := by rw [writeNat, digits]; rfl
    rw [written, List.cons_append, takeWhole.eq_def]
    simp only [beq_eq_false_iff_ne.mpr other, first, Bool.false_eq_true, ↓reduceIte, split.1,
      split.2]

/-- The sign and the digits of a whole number. -/
def Numeral.ofInt (n : Int) : Numeral := ⟨n < 0, writeNat n.natAbs, none, none⟩

private theorem takeFraction_stops (stops : Stops rest) :
    takeFraction early rest = .ok (none, rest) := by
  cases rest with
  | nil => rfl
  | cons b rest => simp [takeFraction, (stops b rfl).2.1]

theorem takeExponent_stops (stops : Stops rest) : takeExponent early rest = .ok (none, rest) := by
  cases rest with
  | nil => rfl
  | cons b rest => simp [takeExponent, (stops b rfl).2.2.1, (stops b rfl).2.2.2]

private theorem takeUnsigned_written (negative : Bool) (stops : Stops rest) :
    takeUnsigned early negative (writeNat n ++ rest) =
      .ok (⟨negative, writeNat n, none, none⟩, rest) := by
  simp only [takeUnsigned, takeWhole_written stops, takeFraction_stops stops,
    takeExponent_stops stops]

/-- A whole number begins with a digit or with a sign. -/
theorem writeNat_head (n : Nat) : ∃ b tail, writeNat n = b :: tail ∧ isDigit b = true := by
  obtain ⟨d, ds, digits⟩ := List.exists_cons_of_ne_nil (Nat.toDigits_ne_nil (n := n) (b := 10))
  refine ⟨byte d, ascii ds, by rw [writeNat, digits]; rfl, ?_⟩
  exact (byte_digit (toDigits_decimal n d (by simp [digits]))).1

theorem digit_ne_minus {b : UInt8} (digit : isDigit b = true) : b ≠ byte '-' := by
  rintro rfl
  cases digit

/-- The digits of a number are read up to where they stop. -/
theorem takeNumeral_written (n : Int) (stops : Stops rest) :
    takeNumeral early (writeInt n ++ rest) = .ok (.ofInt n, rest) := by
  by_cases negative : n < 0
  · have written : writeInt n = byte '-' :: writeNat n.natAbs := if_pos negative
    rw [written, List.cons_append, takeNumeral, if_pos (beq_self_eq_true _),
      takeUnsigned_written true stops]
    simp only [Numeral.ofInt, negative, decide_true]
  · have written : writeInt n = writeNat n.natAbs := if_neg negative
    obtain ⟨b, tail, head, digit⟩ := writeNat_head n.natAbs
    have unsigned : takeUnsigned early false (writeNat n.natAbs ++ rest) =
        .ok (⟨false, writeNat n.natAbs, none, none⟩, rest) := takeUnsigned_written false stops
    rw [head, List.cons_append] at unsigned
    rw [written, head, List.cons_append, takeNumeral, if_neg (by simpa using digit_ne_minus digit),
      unsigned]
    simp only [Numeral.ofInt, negative, decide_false, head]

/-- A number does not get smaller by more digits. -/
theorem le_ofDigitChars (ds : List Char) (n : Nat) : n ≤ Nat.ofDigitChars 10 ds n := by
  rw [Nat.ofDigitChars_eq_ofDigitChars_zero]
  exact Nat.le_add_right_of_le (Nat.le_mul_of_pos_left n (Nat.pow_pos (by decide)))

/-- Digits are appended one by one, as long as the number stays within the limit. -/
theorem appendDigits_ascii (limit : Nat) (ds : List Char) (n : Nat)
    (decimal : ∀ c ∈ ds, c.isDigit = true) (fits : Nat.ofDigitChars 10 ds n ≤ limit) :
    appendDigits limit n (ascii ds) = (Nat.ofDigitChars 10 ds n, []) := by
  induction ds generalizing n with
  | nil => rfl
  | cons d ds ih =>
    have value := (byte_digit (decimal d (by simp))).2
    have next : n * 10 + digitValue (byte d) = 10 * n + (d.toNat - '0'.toNat) := by
      rw [value, Nat.mul_comm]
      rfl
    rw [Nat.ofDigitChars_cons] at fits ⊢
    have within : 10 * n + (d.toNat - '0'.toNat) ≤ limit := Nat.le_trans (le_ofDigitChars ds _) fits
    simp only [ascii, List.map_cons, appendDigits, next, within, ↓reduceIte]
    exact ih _ (fun c member => decimal c (by simp [member])) fits

/-- A numeral of a whole number denotes it, in the range of 64 bits. -/
theorem Numeral.number_ofInt {n : Int} (low : -0x8000000000000000 ≤ n)
    (high : n ≤ 0xFFFFFFFFFFFFFFFF) (left : Nat) :
    (Numeral.ofInt n).number left = .ok (.whole n) := by
  have fits : n.natAbs ≤ maxSignificand := by
    simp only [maxSignificand]
    omega
  have digits : appendDigits maxSignificand 0 (writeNat n.natAbs) = (n.natAbs, []) := by
    have read := appendDigits_ascii maxSignificand (Nat.toDigits 10 n.natAbs) 0
      (toDigits_decimal _) (by rwa [Nat.ofDigitChars_ten_toDigits])
    rwa [Nat.ofDigitChars_ten_toDigits] at read
  by_cases negative : n < 0
  · have inRange : 0 < n.natAbs ∧ n.natAbs ≤ 0x8000000000000000 := by omega
    have same : -(n.natAbs : Int) = n := by omega
    simp only [number, ofInt, negative, decide_true, digits, Bool.not_true, Bool.false_eq_true,
      ↓reduceIte, inRange, Bool.and_self, same]
  · have same : (n.natAbs : Int) = n := by omega
    simp only [number, ofInt, negative, decide_false, digits, Bool.not_false, ↓reduceIte, same]

end GatewayPing.Json
