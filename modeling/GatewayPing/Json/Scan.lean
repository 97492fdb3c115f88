import GatewayPing.Json.Fault
import GatewayPing.Text.Utf8

/-! The words of a JSON text: blanks, literals, numerals and strings. Every scanner takes its word
off the front of the unread bytes and returns the rest, which is shorter. -/
namespace GatewayPing.Json

open Text

/-- Insignificant white space. -/
def isBlank (b : UInt8) : Bool := b == 32 || b == 10 || b == 9 || b == 13

/-- The bytes from the first that is not blank. -/
def skipBlank (s : Bytes) : Bytes := s.dropWhile isBlank

theorem skipBlank_le (s : Bytes) : (skipBlank s).length ≤ s.length :=
  (List.dropWhile_sublist _).length_le

theorem skipBlank_lt {s tail : Bytes} {b : UInt8} (found : skipBlank s = b :: tail) :
    tail.length < s.length := by
  have bound := skipBlank_le s
  rw [found] at bound
  exact bound

/-- Takes the rest of a literal, given letter by letter. -/
def takeLiteral : List Char → Bytes → Except Fault Bytes
  | [], s => .ok s
  | _ :: _, [] => .error ⟨.endOfValue, 0⟩
  | c :: cs, b :: s => if b == byte c then takeLiteral cs s else .error ⟨.expectedLiteral, s.length⟩

theorem takeLiteral_le {cs : List Char} {s rest : Bytes} (taken : takeLiteral cs s = .ok rest) :
    rest.length ≤ s.length := by
  fun_induction takeLiteral cs s with
  | case1 => cases taken; exact Nat.le_refl _
  | case2 => cases taken
  | case3 c cs b s same ih => exact Nat.le_succ_of_le (ih taken)
  | case4 => cases taken

/-! Numerals. -/

/-- The ASCII digits. -/
def isDigit (b : UInt8) : Bool := 48 ≤ b && b ≤ 57

/-- The value of a digit. -/
def digitValue (b : UInt8) : Nat := b.toNat - 48

/-- A numeral as written: the digits before the point, those after it if there is a point, and the
digits of the exponent, if there is one, with whether it is negative. -/
structure Numeral where
  negative : Bool
  whole : Bytes
  fraction : Option Bytes
  exponent : Option (Bool × Bytes)
  deriving Repr

/-- Takes the digits before the point. A zero stands alone. `early` is the reason given for a text
that ends too soon. -/
def takeWhole (early : Reason) : Bytes → Except Fault (Bytes × Bytes)
  | [] => .error ⟨early, 0⟩
  | b :: s =>
    if b == byte '0' then
      match s with
      | [] => .ok ([b], [])
      | d :: rest => if isDigit d then .error ⟨.invalidNumber, rest.length⟩ else .ok ([b], s)
    else if isDigit b then .ok (b :: s.takeWhile isDigit, s.dropWhile isDigit)
    else .error ⟨.invalidNumber, s.length⟩

/-- Takes the point and the digits after it, if there is a point. -/
def takeFraction (early : Reason) : Bytes → Except Fault (Option Bytes × Bytes)
  | [] => .ok (none, [])
  | b :: s =>
    if b == byte '.' then
      match s with
      | [] => .error ⟨early, 0⟩
      | d :: rest =>
        if isDigit d then .ok (some (d :: rest.takeWhile isDigit), rest.dropWhile isDigit)
        else .error ⟨.invalidNumber, rest.length⟩
    else .ok (none, b :: s)

/-- Takes the sign and the digits of an exponent. -/
def takePower (early : Reason) (negative : Bool) : Bytes → Except Fault ((Bool × Bytes) × Bytes)
  | [] => .error ⟨early, 0⟩
  | d :: rest =>
    if isDigit d then .ok ((negative, d :: rest.takeWhile isDigit), rest.dropWhile isDigit)
    else .error ⟨.invalidNumber, rest.length⟩

/-- Takes the sign of an exponent, if it has one, and its digits. -/
def takeSignedPower (early : Reason) : Bytes → Except Fault ((Bool × Bytes) × Bytes)
  | [] => takePower early false []
  | c :: s =>
    if c == byte '+' then takePower early false s
    else if c == byte '-' then takePower early true s
    else takePower early false (c :: s)

/-- Takes the exponent, if there is one. -/
def takeExponent (early : Reason) : Bytes → Except Fault (Option (Bool × Bytes) × Bytes)
  | [] => .ok (none, [])
  | b :: s =>
    if b == byte 'e' || b == byte 'E' then
      match takeSignedPower early s with
      | .error e => .error e
      | .ok (power, rest) => .ok (some power, rest)
    else .ok (none, b :: s)

/-- Takes a numeral whose sign has been taken. -/
def takeUnsigned (early : Reason) (negative : Bool) (s : Bytes) :
    Except Fault (Numeral × Bytes) :=
  match takeWhole early s with
  | .error e => .error e
  | .ok (whole, s) =>
    match takeFraction early s with
    | .error e => .error e
    | .ok (fraction, s) =>
      match takeExponent early s with
      | .error e => .error e
      | .ok (exponent, rest) => .ok (⟨negative, whole, fraction, exponent⟩, rest)

/-- Takes a numeral. -/
def takeNumeral (early : Reason) : Bytes → Except Fault (Numeral × Bytes)
  | [] => .error ⟨early, 0⟩
  | b :: s =>
    if b == byte '-' then takeUnsigned early true s else takeUnsigned early false (b :: s)

private theorem dropWhile_le (p : UInt8 → Bool) (s : Bytes) : (s.dropWhile p).length ≤ s.length :=
  (List.dropWhile_sublist p).length_le

private theorem takeWhole_lt {early : Reason} {s digits rest : Bytes}
    (taken : takeWhole early s = .ok (digits, rest)) : rest.length < s.length := by
  have bound := dropWhile_le isDigit
  unfold takeWhole at taken
  grind

private theorem takeFraction_le {early : Reason} {s rest : Bytes} {digits : Option Bytes}
    (taken : takeFraction early s = .ok (digits, rest)) : rest.length ≤ s.length := by
  have bound := dropWhile_le isDigit
  unfold takeFraction at taken
  grind

private theorem takePower_lt {early : Reason} {negative : Bool} {s rest : Bytes}
    {power : Bool × Bytes}
    (taken : takePower early negative s = .ok (power, rest)) : rest.length < s.length := by
  have bound := dropWhile_le isDigit
  unfold takePower at taken
  grind

private theorem takeSignedPower_lt {early : Reason} {s rest : Bytes} {power : Bool × Bytes}
    (taken : takeSignedPower early s = .ok (power, rest)) : rest.length < s.length := by
  unfold takeSignedPower at taken
  split at taken
  · exact takePower_lt taken
  · split at taken
    · exact Nat.lt_succ_of_lt (takePower_lt taken)
    · split at taken
      · exact Nat.lt_succ_of_lt (takePower_lt taken)
      · exact takePower_lt taken

private theorem takeExponent_le {early : Reason} {s rest : Bytes} {power : Option (Bool × Bytes)}
    (taken : takeExponent early s = .ok (power, rest)) : rest.length ≤ s.length := by
  unfold takeExponent at taken
  split at taken
  · cases taken; exact Nat.le_refl _
  · split at taken
    · split at taken
      · cases taken
      · rename_i found
        cases taken
        exact Nat.le_succ_of_le (Nat.le_of_lt (takeSignedPower_lt found))
    · cases taken; exact Nat.le_refl _

private theorem takeUnsigned_lt {early : Reason} {negative : Bool} {s rest : Bytes} {n : Numeral}
    (taken : takeUnsigned early negative s = .ok (n, rest)) : rest.length < s.length := by
  unfold takeUnsigned at taken
  split at taken
  · cases taken
  · rename_i h₁
    split at taken
    · cases taken
    · rename_i h₂
      split at taken
      · cases taken
      · rename_i h₃
        cases taken
        have := takeWhole_lt h₁
        have := takeFraction_le h₂
        have := takeExponent_le h₃
        omega

theorem takeNumeral_lt {early : Reason} {s rest : Bytes} {n : Numeral}
    (taken : takeNumeral early s = .ok (n, rest)) : rest.length < s.length := by
  unfold takeNumeral at taken
  split at taken
  · cases taken
  · split at taken
    · exact Nat.lt_succ_of_lt (takeUnsigned_lt taken)
    · exact takeUnsigned_lt taken

/-! Strings. -/

/-- The value of a hexadecimal digit. -/
def hexValue? (b : UInt8) : Option Nat :=
  if 48 ≤ b && b ≤ 57 then some (b.toNat - 48)
  else if 97 ≤ b && b ≤ 102 then some (b.toNat - 87)
  else if 65 ≤ b && b ≤ 70 then some (b.toNat - 55)
  else none

/-- Takes the four hexadecimal digits of an escape. -/
def takeHex : Bytes → Except Fault (Nat × Bytes)
  | a :: b :: c :: d :: rest =>
    match hexValue? a, hexValue? b, hexValue? c, hexValue? d with
    | some a, some b, some c, some d => .ok (a * 4096 + b * 256 + c * 16 + d, rest)
    | _, _, _, _ => .error ⟨.invalidEscape, rest.length⟩
  | _ => .error ⟨.endOfString, 0⟩

/-- The first half of a surrogate pair. -/
def isLeading (n : Nat) : Bool := 0xD800 ≤ n && n ≤ 0xDBFF

/-- The second half of a surrogate pair. -/
def isTrailing (n : Nat) : Bool := 0xDC00 ≤ n && n ≤ 0xDFFF

/-- Takes the second half of a surrogate pair, which has to follow the first one at once. -/
def takePair (lead : Nat) : Bytes → Except Fault (Char × Bytes)
  | [] => .error ⟨.endOfString, 0⟩
  | b :: s =>
    if b == byte '\\' then
      match s with
      | [] => .error ⟨.endOfString, 0⟩
      | u :: s =>
        if u == byte 'u' then
          match takeHex s with
          | .error e => .error e
          | .ok (trail, rest) =>
            if isTrailing trail then
              .ok (Char.ofNat ((lead - 0xD800) * 1024 + (trail - 0xDC00) + 0x10000), rest)
            else .error ⟨.loneSurrogate, rest.length⟩
        else .error ⟨.unexpectedEndOfEscape, s.length⟩
    else .error ⟨.unexpectedEndOfEscape, s.length⟩

/-- Takes a character written by its number. -/
def takeUnicode (s : Bytes) : Except Fault (Char × Bytes) :=
  match takeHex s with
  | .error e => .error e
  | .ok (n, rest) =>
    if isTrailing n then .error ⟨.loneSurrogate, rest.length⟩
    else if isLeading n then takePair n rest
    else .ok (Char.ofNat n, rest)

/-- The character of a one-letter escape. -/
def shortEscape? (b : UInt8) : Option Char :=
  if b == byte '"' then some '"'
  else if b == byte '\\' then some '\\'
  else if b == byte '/' then some '/'
  else if b == byte 'b' then some '\x08'
  else if b == byte 'f' then some '\x0c'
  else if b == byte 'n' then some '\n'
  else if b == byte 'r' then some '\r'
  else if b == byte 't' then some '\t'
  else none

/-- Takes an escape whose backslash has been taken. -/
def takeEscape : Bytes → Except Fault (Char × Bytes)
  | [] => .error ⟨.endOfString, 0⟩
  | b :: s =>
    match shortEscape? b with
    | some c => .ok (c, s)
    | none => if b == byte 'u' then takeUnicode s else .error ⟨.invalidEscape, s.length⟩

theorem takeHex_lt {s rest : Bytes} {n : Nat} (taken : takeHex s = .ok (n, rest)) :
    rest.length < s.length := by
  unfold takeHex at taken
  grind

private theorem takePair_lt {lead : Nat} {s rest : Bytes} {c : Char}
    (taken : takePair lead s = .ok (c, rest)) : rest.length < s.length := by
  unfold takePair at taken
  have shorter {t r n} (h : takeHex t = .ok (n, r)) := takeHex_lt h
  grind

private theorem takeEscape_lt {s rest : Bytes} {c : Char} (taken : takeEscape s = .ok (c, rest)) :
    rest.length < s.length := by
  unfold takeEscape takeUnicode at taken
  have shorter {t r n} (h : takeHex t = .ok (n, r)) := takeHex_lt h
  have pair {l t r d} (h : takePair l t = .ok (d, r)) := takePair_lt h
  grind

/-- Why a string is refused in which a byte begins no character, where `s` is the rest of the string
and `count` the length of what it says from that byte up to `s`. Characters are checked once the
string is complete, so that whatever else is wrong with it is noticed first. The place of the fault
is as many bytes before the end of the string as the unreadable part of what it says is long; an
escape counts there as the character that it stands for. -/
def brokenText (count : Nat) (s : Bytes) : Fault :=
  match s with
  | [] => ⟨.endOfString, 0⟩
  | b :: s =>
    if b == byte '"' then ⟨.invalidCodePoint, s.length + count⟩
    else if b == byte '\\' then
      match _ : takeEscape s with
      | .error e => e
      | .ok (c, rest) => brokenText (count + c.utf8Size) rest
    else if b < 32 then ⟨.controlCharacter, s.length⟩
    else brokenText (count + 1) s
termination_by s.length
decreasing_by
  · exact Nat.lt_succ_of_lt (takeEscape_lt (by assumption))
  · exact Nat.lt_succ_self _

/-- Takes the characters of a string up to its closing quote, after those already taken, given
latest first. -/
def takeChars (taken : List Char) (s : Bytes) : Except Fault (List Char × Bytes) :=
  match s with
  | [] => .error ⟨.endOfString, 0⟩
  | b :: s =>
    if b == byte '"' then .ok (taken.reverse, s)
    else if b == byte '\\' then
      match _ : takeEscape s with
      | .error e => .error e
      | .ok (c, rest) => takeChars (c :: taken) rest
    else if b < 32 then .error ⟨.controlCharacter, s.length⟩
    else
      match _ : Utf8.front (b :: s) with
      | .char c rest => takeChars (c :: taken) rest
      | _ => .error (brokenText 0 (b :: s))
termination_by s.length
decreasing_by
  · exact Nat.lt_succ_of_lt (takeEscape_lt (by assumption))
  · exact Utf8.length_rest_lt (by assumption)

theorem takeChars_lt {taken chars : List Char} {s rest : Bytes}
    (done : takeChars taken s = .ok (chars, rest)) : rest.length < s.length := by
  fun_induction takeChars taken s with
  | case1 => cases done
  | case2 => cases done; exact Nat.lt_succ_self _
  | case3 => cases done
  | case4 taken b s _ _ c tail escape ih =>
    exact Nat.lt_succ_of_lt (Nat.lt_trans (ih done) (takeEscape_lt escape))
  | case5 => cases done
  | case6 taken b s _ _ _ c tail char ih =>
    exact Nat.lt_trans (ih done) (Utf8.length_rest_lt char)
  | case7 => cases done

end GatewayPing.Json
