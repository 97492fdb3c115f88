import GatewayPing.Proofs.Json.Scanning

/-! A number is scanned digit by digit as it was written (`takeNumeral_chars`). What it denotes is an
integer where it is written with nothing but a sign and digits (`Written.number_int`), and nowhere
else (`Written.int_of_number`). -/
namespace GatewayPing.Json

variable {early : Reason} {rest s : Bytes}

namespace Written

/-- The number as it is scanned. -/
def numeral (n : Written) : Numeral where
  negative := n.negative
  whole := ascii n.whole.chars
  fraction := n.fraction.map fun digits => ascii digits.chars
  exponent := n.power.map fun p => (p.sign == some true, ascii p.digits.chars)

end Written

private theorem digit_small {c : Char} (digit : c.isDigit = true) : c.toNat < 128 :=
  Nat.lt_of_le_of_lt (digit_range digit).2 (by decide)

private theorem Digits.small (ds : Digits) : ∀ c ∈ ds.chars, c.toNat < 128 :=
  fun c member => digit_small (ds.decimal c member)

private theorem Power.small (p : Power) : ∀ c ∈ p.chars, c.toNat < 128 := by
  intro c member
  rcases List.mem_cons.mp member with rfl | later
  · cases p.large <;> decide
  rcases List.mem_append.mp later with sign | digit
  · revert sign
    rcases p.sign with _ | _ | _ <;> simp +contextual [signChars]
  · exact p.digits.small c digit

theorem Written.small (n : Written) : ∀ c ∈ n.chars, c.toNat < 128 := by
  have unsigned : ∀ c ∈ n.unsignedChars, c.toNat < 128 := by
    intro c member
    rcases List.mem_append.mp member with whole | later
    · exact n.whole.small c whole
    rcases List.mem_append.mp later with fraction | power
    · unfold fractionChars at fraction
      split at fraction
      · cases fraction
      rcases List.mem_cons.mp fraction with rfl | digit
      · decide
      · exact Digits.small _ c digit
    · unfold powerChars at power
      split at power
      · cases power
      · exact Power.small _ c power
  intro c member
  unfold chars at member
  split at member
  · rcases List.mem_cons.mp member with rfl | later
    · decide
    · exact unsigned c later
  · exact unsigned c member

/-! Digits. -/

private theorem takeDigits (ds : Digits) (ends : Ends rest) :
    ∃ b tail, ascii ds.chars = b :: tail ∧ isDigit b = true ∧
      (tail ++ rest).takeWhile isDigit = tail ∧ (tail ++ rest).dropWhile isDigit = rest := by
  have split := digits_split (fun c member => ds.decimal c (List.mem_cons_of_mem _ member)) ends
  exact ⟨byte ds.first, ascii ds.rest, rfl, (byte_digit (ds.decimal _ List.mem_cons_self)).1, split⟩

private theorem takeWhole_digits (n : Written) (ends : Ends rest) :
    takeWhole early (ascii n.whole.chars ++ rest) = .ok (ascii n.whole.chars, rest) := by
  obtain ⟨b, tail, text, digit, taken, left⟩ := takeDigits n.whole ends
  by_cases zero : n.whole.first = '0'
  · have alone : ascii n.whole.chars = [byte '0'] := by
      rw [Digits.chars, zero, n.tight zero]
      rfl
    rw [alone]
    cases rest with
    | nil => rfl
    | cons d rest => simp [takeWhole, ends d rfl]
  · have other : b ≠ byte '0' := by
      obtain ⟨rfl, -⟩ := List.cons.inj text
      rwa [Ne, byte_inj (digit_lt (n.whole.decimal _ List.mem_cons_self)) (by decide)]
    rw [text, List.cons_append, takeWhole.eq_def]
    simp only [beq_eq_false_iff_ne.mpr other, digit, Bool.false_eq_true, ↓reduceIte, taken, left]

private theorem takePower_digits (negative : Bool) (ds : Digits) (ends : Ends rest) :
    takePower early negative (ascii ds.chars ++ rest) =
      .ok ((negative, ascii ds.chars), rest) := by
  obtain ⟨b, tail, text, digit, taken, left⟩ := takeDigits ds ends
  rw [text, List.cons_append]
  simp only [takePower, digit, ↓reduceIte, taken, left]

private theorem takeSignedPower_chars (sign : Option Bool) (ds : Digits) (ends : Ends rest) :
    takeSignedPower early (ascii (signChars sign ++ ds.chars) ++ rest) =
      .ok ((sign == some true, ascii ds.chars), rest) := by
  rcases sign with _ | _ | _
  · obtain ⟨b, tail, text, digit, -, -⟩ := takeDigits ds ends
    have power : takePower early false (ascii ds.chars ++ rest) = _ :=
      takePower_digits false ds ends
    have noPlus : b ≠ byte '+' := by
      rintro rfl
      cases digit
    simp only [signChars, List.nil_append, text, List.cons_append] at power ⊢
    rw [takeSignedPower, if_neg (by simpa using noPlus),
      if_neg (by simpa using digit_ne_minus digit), power]
    rfl
  · exact (takePower_digits false ds ends : takePower early false _ = _)
  · exact (takePower_digits true ds ends : takePower early true _ = _)

private theorem takeExponent_chars (n : Written) (stops : Stops rest) :
    takeExponent early (ascii n.powerChars ++ rest) = .ok (n.numeral.exponent, rest) := by
  unfold Written.powerChars Written.numeral
  cases power : n.power with
  | none => exact takeExponent_stops stops
  | some p =>
    have signed : takeSignedPower early _ = _ := takeSignedPower_chars p.sign p.digits stops.ends
    have letter : (byte (if p.large then 'E' else 'e') == byte 'e' ||
        byte (if p.large then 'E' else 'e') == byte 'E') = true := by cases p.large <;> rfl
    simp only [Power.chars, ascii, List.map_cons, List.cons_append, takeExponent, letter,
      ↓reduceIte]
    simp only [ascii] at signed
    rw [signed]
    rfl

/-- What begins with no digit and no point goes on with no fraction. -/
theorem takeFraction_chars (n : Written) (ends : Ends rest)
    (noPoint : rest.head? ≠ some (byte '.')) :
    takeFraction early (ascii n.fractionChars ++ rest) = .ok (n.numeral.fraction, rest) := by
  unfold Written.fractionChars Written.numeral
  cases fraction : n.fraction with
  | none =>
    cases rest with
    | nil => rfl
    | cons b rest =>
      have other : b ≠ byte '.' := fun same => noPoint (congrArg some same)
      exact if_neg (by simpa using other)
  | some ds =>
    obtain ⟨b, tail, text, digit, taken, left⟩ := takeDigits ds ends
    have point : ascii ('.' :: ds.chars) ++ rest = byte '.' :: b :: (tail ++ rest) :=
      congrArg (byte '.' :: · ++ rest) text
    simp only [point, takeFraction, beq_self_eq_true, ↓reduceIte, digit, taken, left, text,
      Option.map_some]

private theorem ends_power (n : Written) (stops : Stops rest) :
    ∀ b ∈ (ascii n.powerChars ++ rest).head?, isDigit b = false ∧ b ≠ byte '.' := by
  unfold Written.powerChars
  cases n.power with
  | none => exact fun b first => ⟨(stops b first).1, (stops b first).2.1⟩
  | some p =>
    have letter : ∀ large : Bool, isDigit (byte (if large then 'E' else 'e')) = false ∧
        byte (if large then 'E' else 'e') ≠ byte '.' := by decide
    rintro b first
    cases first
    exact letter p.large

private theorem ends_fraction (n : Written) (ends : Ends rest) :
    Ends (ascii n.fractionChars ++ rest) := by
  unfold Written.fractionChars
  cases n.fraction with
  | none => exact ends
  | some ds =>
    rintro b first
    cases first
    rfl

private theorem takeUnsigned_chars (n : Written) (stops : Stops rest) :
    takeUnsigned early n.negative (ascii n.unsignedChars ++ rest) = .ok (n.numeral, rest) := by
  have afterFraction := ends_power n stops
  have ends : Ends (ascii n.powerChars ++ rest) := fun b first => (afterFraction b first).1
  have noPoint : (ascii n.powerChars ++ rest).head? ≠ some (byte '.') :=
    fun first => (afterFraction _ first).2 rfl
  have text : ascii n.unsignedChars ++ rest = ascii n.whole.chars ++
      (ascii n.fractionChars ++ (ascii n.powerChars ++ rest)) := by
    simp only [ascii, Written.unsignedChars, List.map_append, List.append_assoc]
  rw [text]
  simp only [takeUnsigned, takeWhole_digits n (ends_fraction n ends),
    takeFraction_chars n ends noPoint, takeExponent_chars n stops]
  rfl

/-- The first byte of a number. -/
def Starts (b : UInt8) : Prop := (b == byte '-' || isDigit b) = true

instance : DecidablePred Starts := fun _ => inferInstanceAs (Decidable (_ = true))

private theorem digit_starts {b : UInt8} (digit : isDigit b = true) : Starts b := by
  simp [Starts, digit]

/-- A byte that begins a number is none that begins no number. -/
theorem Starts.ne {b other : UInt8} (starts : Starts b) (never : ¬Starts other) : b ≠ other :=
  fun same => never (same ▸ starts)

def Written.first (n : Written) : UInt8 := if n.negative then byte '-' else byte n.whole.first

theorem Written.starts (n : Written) : Starts n.first := by
  unfold first
  split
  · rfl
  · exact digit_starts (byte_digit (n.whole.decimal _ List.mem_cons_self)).1

theorem Written.head (n : Written) : ∃ tail, spelled n.chars = n.first :: tail := by
  rw [spelled_ascii n.small]
  unfold chars first
  split
  · exact ⟨_, rfl⟩
  · exact ⟨_, rfl⟩

/-- A number is scanned as it was written. -/
theorem takeNumeral_chars (n : Written) (stops : Stops rest) :
    takeNumeral early (spelled n.chars ++ rest) = .ok (n.numeral, rest) := by
  have unsigned : takeUnsigned early _ _ = _ := takeUnsigned_chars n stops
  rw [spelled_ascii n.small, Written.chars]
  cases sign : n.negative with
  | true =>
    rw [sign] at unsigned
    exact unsigned
  | false =>
    have digit := (byte_digit (n.whole.decimal _ List.mem_cons_self)).1
    rw [sign] at unsigned
    refine (if_neg ?_).trans unsigned
    simpa using digit_ne_minus digit

/-! Values. -/

/-- Digits that all fit are all part of the number. -/
theorem appendDigits_complete {limit : Nat} {ds : List Char} {n value : Nat}
    (decimal : ∀ c ∈ ds, c.isDigit = true) (all : appendDigits limit n (ascii ds) = (value, [])) :
    value = Nat.ofDigitChars 10 ds n := by
  induction ds generalizing n with
  | nil =>
    cases all
    rfl
  | cons d ds ih =>
    have digit := (byte_digit (decimal d (by simp))).2
    have next : n * 10 + digitValue (byte d) = 10 * n + (d.toNat - '0'.toNat) := by
      rw [digit, Nat.mul_comm]
      rfl
    simp only [ascii, List.map_cons, appendDigits] at all
    split at all
    · rw [Nat.ofDigitChars_cons, ← next]
      exact ih (fun c member => decimal c (by simp [member])) all
    · cases all

namespace Written

/-- A number that is written with nothing but a sign and digits denotes the integer that they are. -/
theorem number_int {n : Written} {value : Int} (same : n.int? = some value)
    (low : -0x8000000000000000 ≤ value) (high : value ≤ 0xFFFFFFFFFFFFFFFF) (left : Nat) :
    n.numeral.number left = .ok (.whole value) := by
  unfold int? at same
  generalize size : Nat.ofDigitChars 10 n.whole.chars 0 = m at same
  dsimp only at same
  split at same
  · cases same
  · rename_i plain
    simp only [Bool.or_eq_true, not_or, Bool.not_eq_true, Option.isSome_eq_false_iff,
      Option.isNone_iff_eq_none] at plain
    have fits : m ≤ maxSignificand := by
      unfold maxSignificand
      split at same
      · split at same <;> cases same
        omega
      · cases same
        omega
    have digits := appendDigits_ascii maxSignificand n.whole.chars 0 n.whole.decimal (size ▸ fits)
    simp only [Numeral.number, numeral, plain, Option.map_none, digits, size]
    split at same
    · rename_i sign
      split at same <;> cases same
      have inRange : 0 < m ∧ m ≤ 0x8000000000000000 := by omega
      simp only [sign, Bool.not_true, Bool.false_eq_true, ↓reduceIte, inRange, decide_true,
        Bool.and_self]
    · rename_i sign
      cases same
      simp only [sign, Bool.not_false, ↓reduceIte]

/-- A number that denotes an integer is written with nothing but its sign and digits. -/
theorem int_of_number {n : Written} {value : Int} {left : Nat}
    (whole : n.numeral.number left = .ok (.whole value)) : n.int? = some value := by
  unfold Numeral.number at whole
  split at whole
  · rename_i size noFraction noPower digits
    have same : size = Nat.ofDigitChars 10 n.whole.chars 0 :=
      appendDigits_complete n.whole.decimal digits
    have plain : n.fraction.isSome = false ∧ n.power.isSome = false := by
      simpa [numeral] using And.intro noFraction noPower
    simp only [int?, plain, Bool.or_self, Bool.false_eq_true, ↓reduceIte, ← same]
    cases sign : n.negative with
    | false =>
      simp only [numeral, sign, Bool.not_false, ↓reduceIte, Except.ok.injEq,
        Number.whole.injEq] at whole
      simp only [Bool.false_eq_true, ↓reduceIte, whole]
    | true =>
      -- A number with a minus is below zero, or it is the double minus zero.
      simp only [numeral, sign, Bool.not_true, Bool.false_eq_true, ↓reduceIte] at whole
      split at whole
      · rename_i positive
        simp only [Bool.and_eq_true, decide_eq_true_eq] at positive
        simp only [Except.ok.injEq, Number.whole.injEq] at whole
        have nonzero : size ≠ 0 := by omega
        simp only [nonzero, ↓reduceIte, whole]
      · cases whole
  · cases real : n.numeral.real left <;> rw [real] at whole <;> cases whole

/-- A natural number is an integer that is written without a sign. -/
theorem int?_eq_natCast {n : Written} {value : Nat} :
    n.int? = some (value : Int) ↔ n.nat? = some value := by
  unfold int? nat?
  generalize Nat.ofDigitChars 10 n.whole.chars 0 = size
  cases n.negative <;> cases n.fraction <;> cases n.power <;>
    simp only [Option.isSome_none, Option.isSome_some, Bool.or_self, Bool.or_true, Bool.true_or,
      Bool.false_eq_true, ↓reduceIte, Option.some.injEq, reduceCtorEq]
  · omega
  · split
    · simp
    · simp only [Option.some.injEq, iff_false]
      omega

end Written
end GatewayPing.Json
