/-! The shortest decimal text of a double. Among the decimals that read back as the same double the
one with the fewest digits is written, and of those the one nearest to the value. All arithmetic
is exact, on natural numbers. -/
namespace GatewayPing.Text

/-- A positive double as `mantissa * 2 ^ exponent`, and whether the gap to the next smaller double
is half the gap to the next larger one. -/
structure Binary where
  mantissa : Nat
  exponent : Int
  narrowBelow : Bool
  deriving Repr

/-- The bit that is not written in the mantissa of a normal double. -/
def hiddenBit : Nat := 0x10000000000000

/-- The positive double with these bits, apart from the sign. -/
def Binary.ofBits (bits : UInt64) : Binary :=
  let field : Nat := bits.toNat / hiddenBit % 0x800
  let low : Nat := bits.toNat % hiddenBit
  if field = 0 then ⟨low, -1074, false⟩
  else ⟨hiddenBit + low, (field : Int) - 1075, low == 0 && field != 1⟩

/-- A positive decimal `digits * 10 ^ exponent`. -/
structure Decimal where
  digits : Nat
  exponent : Int
  deriving Repr

/-- A quotient of natural numbers. -/
structure Ratio where
  num : Nat
  den : Nat

/-- The ratio times a power of a natural number. -/
def Ratio.scale (r : Ratio) (base : Nat) (power : Int) : Ratio :=
  if power ≥ 0 then ⟨r.num * Nat.pow base power.toNat, r.den⟩
  else ⟨r.num, r.den * Nat.pow base (-power).toNat⟩

/-- The largest power of ten that does not exceed the ratio. -/
def Ratio.magnitude (r : Ratio) : Int :=
  let size (n : Nat) : Int := (Nat.toDigits 10 n).length
  let guess := size r.num - size r.den
  let scaled := r.scale 10 (-guess)
  if scaled.num < scaled.den then guess - 1 else guess

/-- The ends of the interval that reads back as `b`, half a gap from it on either side, in units of
`2 ^ (b.exponent - 2)`. -/
def Binary.bounds (b : Binary) : Nat × Nat :=
  (4 * b.mantissa - (if b.narrowBelow then 1 else 2), 4 * b.mantissa + 2)

/-- Whether `d * 10 ^ power` reads back as `b`. The ends of the interval belong to it when the
mantissa is even. -/
def Binary.admits (b : Binary) (d : Nat) (power : Int) : Bool :=
  let r := ((Ratio.mk d 1).scale 10 power).scale 2 (2 - b.exponent)
  let (low, high) := b.bounds
  if b.mantissa % 2 = 0 then low * r.den ≤ r.num && r.num ≤ high * r.den
  else low * r.den < r.num && r.num < high * r.den

/-- The best decimal with steps of `10 ^ power`, if one reads back as `b`. Of two neighbours of the
value the nearer is taken, and the even one on a tie. -/
def Binary.onGrid? (b : Binary) (power : Int) : Option Decimal :=
  let r := ((Ratio.mk b.mantissa 1).scale 2 b.exponent).scale 10 (-power)
  let below := r.num / r.den
  let rest := 2 * (r.num % r.den)
  let preferAbove := r.den < rest || (rest == r.den && below % 2 == 1)
  match b.admits below power && below != 0, b.admits (below + 1) power with
  | true, true => some ⟨if preferAbove then below + 1 else below, power⟩
  | true, false => some ⟨below, power⟩
  | false, true => some ⟨below + 1, power⟩
  | false, false => none

/-- Tries ever finer grids, and settles for the last. -/
def Binary.search (b : Binary) (power : Int) : Nat → Decimal
  | 0 => (b.onGrid? power).getD ⟨b.mantissa, b.exponent⟩
  | finer + 1 =>
    match b.onGrid? power with
    | some d => d
    | none => b.search (power - 1) finer

/-- The shortest decimal that reads back as `b`. Seventeen digits always suffice. -/
def Binary.shortest (b : Binary) : Decimal :=
  b.search ((Ratio.mk b.mantissa 1).scale 2 b.exponent).magnitude 17

/-- Where a decimal text leaves positional notation. -/
structure DecimalStyle where
  /-- The least power of ten whose first digit is written in place. -/
  leastPositional : Int
  /-- The greatest one. -/
  greatestPositional : Int

/-- A decimal in a style. In positional notation whole values keep `.0`; otherwise the exponent
carries its sign, and a single digit stands without a point. -/
def DecimalStyle.write (style : DecimalStyle) (d : Decimal) : String :=
  let all := Nat.toDigits 10 d.digits
  let digits := (all.reverse.dropWhile (· == '0')).reverse
  let lead : Int := d.exponent + all.length - 1
  if style.leastPositional ≤ lead && lead ≤ style.greatestPositional then
    if lead < 0 then
      String.ofList ("0.".toList ++ List.replicate (-lead - 1).toNat '0' ++ digits)
    else
      let whole := lead.toNat + 1
      if digits.length ≤ whole then
        String.ofList (digits ++ List.replicate (whole - digits.length) '0' ++ ".0".toList)
      else
        String.ofList (digits.take whole ++ '.' :: digits.drop whole)
  else
    let mark := if lead < 0 then "e-" else "e+"
    let fraction := if digits.length ≤ 1 then [] else '.' :: digits.drop 1
    String.ofList (digits.take 1 ++ fraction ++ mark.toList ++ Nat.toDigits 10 lead.natAbs)

/-- Doubles in messages are positional from `0.00001` up to sixteen digits before the point. -/
def doubleStyle : DecimalStyle := ⟨-5, 15⟩

/-- The bit that tells the sign of a double. -/
def signBit : Nat := 0x8000000000000000

/-- The text of a finite double. -/
def doubleText (f : Float) : String :=
  let bits := f.toBits
  let sign := if bits.toNat < signBit then "" else "-"
  if bits.toNat % signBit = 0 then sign ++ "0.0"
  else sign ++ doubleStyle.write (Binary.ofBits bits).shortest

end GatewayPing.Text
