import GatewayPing.Json.Scan

/-! The value of a numeral. A numeral without point and exponent is a whole number while it fits
into 64 bits, signed or unsigned; every other numeral is a double. Digits that do not fit into an
unsigned 64-bit significand only count for the magnitude, or not at all after the point. -/
namespace GatewayPing.Json

/-- A number: whole, from −2⁶³ to 2⁶⁴ − 1, or a double. -/
inductive Number where
  | whole (n : Int)
  | real (f : Float)
  deriving Repr

/-- The largest significand. -/
def maxSignificand : Nat := 0xFFFFFFFFFFFFFFFF

/-- The largest exponent that can be written. -/
def maxExponent : Nat := 0x7FFFFFFF

/-- Appends digits to a number while the result stays within a limit; the second component holds the
digits from the first that did not fit. -/
def appendDigits (limit : Nat) (n : Nat) : Bytes → Nat × Bytes
  | [] => (n, [])
  | d :: ds =>
    let next := n * 10 + digitValue d
    if next ≤ limit then appendDigits limit next ds else (n, d :: ds)

/-- A power of ten as a double, for exponents of at most 308. -/
def powerOfTen (n : Nat) : Float := .ofScientific 1 false n

/-- The largest exponent of a power of ten that is a finite double. -/
def greatestPower : Nat := 308

/-- A double divided by a power of ten, in steps that are finite doubles. -/
def shrink (f : Float) (power : Nat) : Float :=
  if power ≤ greatestPower then f / powerOfTen power
  else if f == 0 then f
  else shrink (f / powerOfTen greatestPower) (power - greatestPower)
termination_by power
decreasing_by simp only [greatestPower] at *; omega

/-- A significand times a power of ten, unless that is out of range. -/
def scale? (significand : Nat) (power : Int) : Option Float :=
  let f := significand.toUInt64.toFloat
  if power < 0 then some (shrink f power.natAbs)
  else if power.natAbs ≤ greatestPower then
    let product := f * powerOfTen power.natAbs
    if product.isInf then none else some product
  else if f == 0 then some f
  else none

/-- The double that a numeral denotes. `left` is the number of bytes after the numeral, from which
the place of a fault is counted. -/
def Numeral.real (n : Numeral) (left : Nat) : Except Fault Float :=
  let sign (f : Float) := if n.negative then -f else f
  let (whole, surplus) := appendDigits maxSignificand 0 n.whole
  let fraction := n.fraction.getD []
  let (significand, unused) := appendDigits maxSignificand whole fraction
  let shift : Int := surplus.length - (fraction.length - unused.length : Nat)
  let scaled (power : Int) : Except Fault Float :=
    match scale? significand power with
    | some f => .ok (sign f)
    | none => .error ⟨.numberOutOfRange, left⟩
  match n.exponent with
  | none => scaled shift
  | some (negative, digits) =>
    match appendDigits maxExponent 0 digits with
    | (power, []) => scaled (if negative then shift - power else shift + power)
    | (_, _ :: unread) =>
      if significand = 0 || negative then .ok (sign 0)
      else .error ⟨.numberOutOfRange, left + unread.length⟩

/-- The number that a numeral denotes. Minus zero is a double. -/
def Numeral.number (n : Numeral) (left : Nat) : Except Fault Number :=
  match n.fraction, n.exponent, appendDigits maxSignificand 0 n.whole with
  | none, none, (value, []) =>
    if !n.negative then .ok (.whole value)
    else if 0 < value && value ≤ 0x8000000000000000 then .ok (.whole (-value))
    else .ok (.real (-value.toUInt64.toFloat))
  | _, _, _ => (n.real left).map .real

end GatewayPing.Json
