import GatewayPing.Text.Blank

/-! The input field. A line is blank, a timestamp for a single call, or a count and a timestamp for
a stream. Shape is decided first, by the blanks between words; each shape has its own grammar:

* `timestamp`: blanks around ASCII digits whose value fits a signed 64-bit integer;
* `count timestamp`: the same after a count of at least one, with blanks between them. -/
namespace GatewayPing

open Text

/-- What a line of input asks for, with the trimmed text. -/
inductive Input where
  /-- Nothing to do. -/
  | empty
  /-- One word, taken for a timestamp. -/
  | unary (text : String)
  /-- Several words, taken for a count and a timestamp. -/
  | streaming (text : String)
  deriving DecidableEq, Repr

/-- A requested stream. -/
structure StreamInput where
  count : UInt32
  timestamp : Int64
  deriving DecidableEq, Repr

namespace Input

/-- The shape of a line. Whether the words are numbers is not looked at. -/
def ofText (raw : String) : Input :=
  let text := trim raw.toList
  if text.isEmpty then .empty
  else if text.any isBlank then .streaming (String.ofList text)
  else .unary (String.ofList text)

/-- The number that a non-empty row of ASCII digits denotes. -/
def number? (cs : List Char) : Option Nat :=
  if !cs.isEmpty && cs.all Char.isDigit then some (Nat.ofDigitChars 10 cs 0) else none

/-- The largest timestamp, and the largest value that an unsigned 32-bit integer holds. -/
def maxTimestamp : Nat := 0x7FFFFFFFFFFFFFFF

@[inherit_doc maxTimestamp]
def maxCount : Nat := 0xFFFFFFFF

/-- A row of digits as a timestamp, unless it denotes too large a number. -/
def timestampOfDigits? (cs : List Char) : Option Int64 := do
  let n ← number? cs
  if n ≤ maxTimestamp then some (Int64.ofNat n) else none

/-- The timestamp that a line holds. -/
def timestamp? (raw : String) : Option Int64 := timestampOfDigits? (trim raw.toList)

/-- The count and timestamp that a line holds. A count beyond 32 bits stands for the largest one,
since every count is limited later anyhow. -/
def stream? (raw : String) : Option StreamInput := do
  let (count, timestamp) ← splitAtFirst isBlank (trim raw.toList)
  let count ← number? count
  let timestamp ← timestampOfDigits? (trimStart timestamp)
  if count = 0 then none else some ⟨UInt32.ofNat (min count maxCount), timestamp⟩

end Input
end GatewayPing
