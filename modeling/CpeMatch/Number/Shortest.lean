import CpeMatch.Number.Binary64

/-!
**The shortest decimal that reads back.**

A positive finite number owns an interval of reals that round to it; its ends belong to it when its
significand is even.  The shortest decimal is looked for on the grids of one, two, … seventeen
significant digits: on each grid only the two neighbours of the value can be nearest, the first grid
with a neighbour inside the interval wins, and of two neighbours inside the nearer one, the even one
if both are equally near.

Main definitions:

* `CpeMatch.Number.Interval` — the reals that round to a number, as fractions of one denominator;
* `CpeMatch.Number.shortestDigits` — the digits of the shortest decimal and the place of its point;
* `CpeMatch.Number.floatText` — how a number is written out.
-/

set_option autoImplicit false

namespace CpeMatch.Number

/-- The value of a positive number and the ends of the interval that rounds to it, as numerators
over the same denominator. -/
structure Interval where
  low : Nat
  value : Nat
  high : Nat
  denominator : Nat
  closed : Bool

/-- The interval of the positive number `m * 2 ^ e`.  Below a power of two the next number is only
half as far away as above it. -/
def Interval.of (m : Nat) (e : Int) : Interval :=
  let scale := pow2 (e - 2)
  let below := if m = leadingBit ∧ leastExponent < e then 1 else 2
  { low := (4 * m - below) * scale
    value := 4 * m * scale
    high := (4 * m + 2) * scale
    denominator := pow2 (2 - e)
    closed := m % 2 = 0 }

/-- Whether `n * 10 ^ p` lies in the interval. -/
def Interval.holds (i : Interval) (n : Nat) (p : Int) : Bool :=
  let x := n * pow10 p * i.denominator
  let unit := pow10 (-p)
  if i.closed then i.low * unit ≤ x && x ≤ i.high * unit else i.low * unit < x && x < i.high * unit

/-- The number of decimal digits of a positive natural number. -/
def digitCount (n : Nat) : Nat := (Nat.toDigits 10 n).length

/-- The number of digits before the decimal point of `n / d`; zero or negative when it is below
one tenth of one. -/
def pointPlace (n d : Nat) : Int :=
  if d ≤ n then digitCount (n / d)
  else 1 - (digitCount ((d + n - 1) / n - 1) : Int)

/-- The multiple of `10 ^ p` that is to be written for the value of the interval, if one of the two
next to it lies in the interval. -/
def Interval.onGrid? (i : Interval) (p : Int) : Option Nat :=
  let n := i.value * pow10 (-p)
  let d := i.denominator * pow10 p
  let down := n / d
  match i.holds down p, i.holds (down + 1) p with
  | true, true => some (roundHalfEven n d)
  | true, false => some down
  | false, true => some (down + 1)
  | false, false => none

/-- The shortest decimal `n * 10 ^ p` in the interval, as `n` and `p`. -/
def Interval.shortest (i : Interval) : Nat × Int :=
  let place := pointPlace i.value i.denominator
  let grids := (List.range 17).map fun k => place - (k + 1 : Nat)
  (grids.findSome? fun p => (i.onGrid? p).map (·, p)).getD (0, 0)

/-- The digits of a natural number without those zeros at the end. -/
def significantDigits (n : Nat) : List Char :=
  ((Nat.toDigits 10 n).reverse.dropWhile (· = '0')).reverse

/-- The significant digits of the shortest decimal of `m * 2 ^ e`, and how many digits stand before
its point. -/
def shortestDigits (m : Nat) (e : Int) : List Char × Int :=
  let (n, p) := (Interval.of m e).shortest
  (significantDigits n, (digitCount n : Int) + p)

/-- Where the written form changes from positional to scientific. -/
structure FloatFormat where
  /-- The least number of places before the point written positionally. -/
  leastPlace : Int
  /-- The greatest number of places before the point written positionally. -/
  greatestPlace : Int
  /-- The least number of digits of an exponent. -/
  exponentDigits : Nat

/-- Numbers from `0.0001` up to `10 ^ 16` are written positionally, and an exponent has at least
two digits. -/
def floatFormat : FloatFormat := ⟨-3, 16, 2⟩

/-- An exponent with its sign. -/
def exponentText (e : Int) : List Char :=
  let digits := Nat.toDigits 10 e.natAbs
  (if e < 0 then '-' else '+') ::
    (List.replicate (floatFormat.exponentDigits - digits.length) '0' ++ digits)

/-- Significant digits with the point after the first `place` of them, at least one digit on either
side of it; in scientific form without a point if there is only one digit. -/
def placePoint (digits : List Char) (place : Int) : List Char :=
  if place < floatFormat.leastPlace ∨ floatFormat.greatestPlace < place then
    let fraction := digits.drop 1
    digits.take 1 ++ (if fraction.isEmpty then [] else '.' :: fraction) ++
      'e' :: exponentText (place - 1)
  else if place ≤ 0 then
    '0' :: '.' :: (List.replicate (-place).toNat '0' ++ digits)
  else
    let whole := digits.take place.toNat
    let fraction := digits.drop place.toNat
    whole ++ List.replicate (place.toNat - whole.length) '0' ++
      '.' :: (if fraction.isEmpty then ['0'] else fraction)

/-- The shortest text that reads back as `x`, with `nan`, `inf` and `-inf` for the numbers that are
not finite. -/
def floatText (x : Float) : String :=
  let b := binaryOf x
  match b.magnitude with
  | .nan => "nan"
  | .infinite => if b.negative then "-inf" else "inf"
  | .finite m e =>
    let body := if m = 0 then ['0', '.', '0'] else
      let (digits, place) := shortestDigits m e
      placePoint digits place
    String.ofList (if b.negative then '-' :: body else body)

end CpeMatch.Number
