import GatewayPing.Bytes

/-! UTF-8. Texts are written with the standard library's character encoding; reading takes one
character at a time off the front of a byte sequence and says, where that fails, how many bytes
are at fault. Reading what was written gives the text back. -/
namespace GatewayPing.Text.Utf8

/-- What the front of a byte sequence holds. -/
inductive Front where
  /-- The sequence is over. -/
  | done
  /-- A whole character, and the bytes after it. -/
  | char (c : Char) (rest : Bytes)
  /-- This many bytes do not begin any character together with the byte after them. -/
  | broken (bytes : Nat)
  /-- The sequence ends inside a character. -/
  | cutShort
  deriving Repr

/-- Bytes that continue a character. -/
def isTail (b : UInt8) : Bool := 0x80 ≤ b && b ≤ 0xBF

/-- The six bits that a continuing byte contributes. -/
def tailBits (b : UInt8) : Nat := b.toNat % 64

/-- Reads the second byte of a two-byte character. -/
def front2 (a : UInt8) : Bytes → Front
  | [] => .cutShort
  | b :: rest =>
    if isTail b then .char (Char.ofNat (a.toNat % 32 * 64 + tailBits b)) rest else .broken 1

/-- Reads the later bytes of a three-byte character. The second byte keeps clear of overlong
forms and of the surrogates. -/
def front3 (a : UInt8) : Bytes → Front
  | [] => .cutShort
  | b :: rest =>
    if isTail b && (a != 0xE0 || 0xA0 ≤ b) && (a != 0xED || b ≤ 0x9F) then
      match rest with
      | [] => .cutShort
      | c :: rest =>
        if isTail c then
          .char (Char.ofNat (a.toNat % 16 * 4096 + tailBits b * 64 + tailBits c)) rest
        else .broken 2
    else .broken 1

/-- Reads the later bytes of a four-byte character. The second byte keeps clear of overlong forms
and of numbers above U+10FFFF. -/
def front4 (a : UInt8) : Bytes → Front
  | [] => .cutShort
  | b :: rest =>
    if isTail b && (a != 0xF0 || 0x90 ≤ b) && (a != 0xF4 || b ≤ 0x8F) then
      match rest with
      | [] => .cutShort
      | c :: rest =>
        if isTail c then
          match rest with
          | [] => .cutShort
          | d :: rest =>
            if isTail d then
              .char (Char.ofNat
                (a.toNat % 8 * 262144 + tailBits b * 4096 + tailBits c * 64 + tailBits d)) rest
            else .broken 3
        else .broken 2
    else .broken 1

/-- The first character of a byte sequence. -/
def front : Bytes → Front
  | [] => .done
  | a :: rest =>
    if a < 0x80 then .char (Char.ofNat a.toNat) rest
    else if a < 0xC2 then .broken 1
    else if a < 0xE0 then front2 a rest
    else if a < 0xF0 then front3 a rest
    else if a < 0xF5 then front4 a rest
    else .broken 1

theorem length_rest_lt {s rest : Bytes} {c : Char} (h : front s = .char c rest) :
    rest.length < s.length := by
  unfold front front2 front3 front4 at h
  grind

/-- Why a byte sequence is no text: where the fault lies and, unless the sequence merely ends too
early, how many bytes are at fault. -/
structure Fault where
  index : Nat
  bytes : Option Nat
  deriving DecidableEq, Repr

/-- The wording of a fault. -/
def Fault.message (f : Fault) : String :=
  match f.bytes with
  | some n => s!"invalid utf-8 sequence of {n} bytes from index {f.index}"
  | none => s!"incomplete utf-8 byte sequence from index {f.index}"

/-- The characters of a byte sequence, after those already read, given latest first. -/
def decodeFrom (index : Nat) (read : List Char) (s : Bytes) : Except Fault (List Char) :=
  match _ : front s with
  | .done => .ok read.reverse
  | .char c rest => decodeFrom (index + c.utf8Size) (c :: read) rest
  | .broken n => .error ⟨index, some n⟩
  | .cutShort => .error ⟨index, none⟩
termination_by s.length
decreasing_by exact length_rest_lt (by assumption)

/-- The text that a byte sequence spells. -/
def decode (s : Bytes) : Except Fault String := (decodeFrom 0 [] s).map String.ofList

/-- The bytes that spell a text. -/
def encode (s : String) : Bytes := s.toList.flatMap String.utf8EncodeChar

end GatewayPing.Text.Utf8
