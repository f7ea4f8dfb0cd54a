import CpeMatch.Number.Rounding

/-!
**Binary floating-point numbers as exact fractions.**

A finite binary64 number is a natural number of at most fifty-three bits times a power of two.
Reading its bits gives that fraction, and rounding a fraction gives the bits back; between the two
every computation is exact.

Main definitions:

* `CpeMatch.Number.Magnitude`, `CpeMatch.Number.Binary` — what the bits of a number say;
* `CpeMatch.Number.binaryOf` — reading them;
* `CpeMatch.Number.nearest` — the number nearest to a fraction;
* `CpeMatch.Number.infinity`, `CpeMatch.Number.notNumber` — the numbers that are no fraction;
* `CpeMatch.Number.floatOfInt?` — an integer as a floating-point number, unless it is too large.
-/

set_option autoImplicit false

namespace CpeMatch.Number

/-- The size of a floating-point number. -/
inductive Magnitude where
  /-- The number `significand * 2 ^ exponent`. -/
  | finite (significand : Nat) (exponent : Int)
  | infinite
  | nan

/-- A floating-point number taken apart. -/
structure Binary where
  negative : Bool
  magnitude : Magnitude

/-- The number of bits of the stored fraction. -/
def fractionBits : Nat := 52

/-- The weight of the leading bit of a significand, which is not stored. -/
def leadingBit : Nat := Nat.pow 2 fractionBits

/-- The exponent of the smallest positive number. -/
def leastExponent : Int := -1074

/-- The bits of infinity. -/
def infinityBits : Nat := 2047 * leadingBit

/-- The bit of the sign. -/
def signBit : Nat := Nat.pow 2 63

/-- Reads sign, exponent and fraction off the bits of a number. -/
def binaryOf (x : Float) : Binary :=
  let bits := x.toBits.toNat
  let fraction := bits % leadingBit
  let biased := bits / leadingBit % 2048
  { negative := signBit ≤ bits
    magnitude :=
      if biased = 2047 then if fraction = 0 then .infinite else .nan
      else if biased = 0 then .finite fraction leastExponent
      else .finite (leadingBit + fraction) (leastExponent + (biased - 1 : Nat)) }

/-- The natural number `2 ^ e`, and one for a negative `e`. -/
def pow2 (e : Int) : Nat := Nat.pow 2 e.toNat

/-- The natural number `10 ^ e`, and one for a negative `e`. -/
def pow10 (e : Int) : Nat := Nat.pow 10 e.toNat

/-- The exponent of the largest power of two that is not above `n / d`. -/
def binaryOrder (n d : Nat) : Int :=
  let guess := (n.log2 : Int) - d.log2
  if n * pow2 (-guess) < d * pow2 guess then guess - 1 else guess

/-- The bits of the positive number nearest to `n / d`; those of infinity if it is out of range. -/
def nearestBits (n d : Nat) : Nat :=
  if n = 0 then 0 else
    let exponent := max (binaryOrder n d - fractionBits) leastExponent
    let significand := roundHalfEven (n * pow2 (-exponent)) (d * pow2 exponent)
    min ((exponent - leastExponent).toNat * leadingBit + significand) infinityBits

/-- The number of the given sign whose other bits are given. -/
def floatOfBits (negative : Bool) (bits : Nat) : Float :=
  Float.ofBits (UInt64.ofNat (bits + if negative then signBit else 0))

/-- The number nearest to `n / d`, ties to even, with the given sign. -/
def nearest (negative : Bool) (n d : Nat) : Float := floatOfBits negative (nearestBits n d)

/-- The infinity of the given sign. -/
def infinity (negative : Bool) : Float := floatOfBits negative infinityBits

/-- The number that is none. -/
def notNumber : Float := Float.ofBits 0x7ff8000000000000

/-- The number nearest to `n * 10 ^ e`.  Far outside the range no power is computed: the result is
infinite from the 400th place on and zero below the 400th decimal. -/
def nearestDecimal (negative : Bool) (n : Nat) (e : Int) : Float :=
  let places : Int := (Nat.toDigits 10 n).length + e
  if n = 0 ∨ places < -400 then nearest negative 0 1
  else if 400 < places then infinity negative
  else nearest negative (n * pow10 e) (pow10 (-e))

/-- An integer as a floating-point number; nothing if it rounds to infinity. -/
def floatOfInt? (n : Int) : Option Float :=
  if nearestBits n.natAbs 1 < infinityBits then some (nearest (n < 0) n.natAbs 1)
  else none

end CpeMatch.Number
