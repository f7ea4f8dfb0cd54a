import CpeMatch.Number.Shortest
import CpeMatch.Number.Places

/-!
**Numbers of two kinds.**

A number is an integer of any size or a binary floating-point number, and the two are kept apart
when written: `7` is not `7.0`.  They compare by their exact values.

Main definitions:

* `CpeMatch.Number` — the type;
* `CpeMatch.Number.compare?` — the exact order, undefined only for the number that is none;
* `CpeMatch.Number.text` — how a number is written.
-/

set_option autoImplicit false

namespace CpeMatch

/-- An integer or a binary floating-point number. -/
inductive Number where
  | whole (n : Int)
  | binary (x : Float)
  deriving Inhabited

namespace Number

/-- A finite number as a fraction of an integer by a natural number; infinities compare as `1 / 0`
and `-1 / 0`. -/
def fraction? : Number → Option (Int × Nat)
  | .whole n => some (n, 1)
  | .binary x =>
    let b := binaryOf x
    let sign : Int := if b.negative then -1 else 1
    match b.magnitude with
    | .nan => none
    | .infinite => some (sign, 0)
    | .finite m e => some (sign * (m * pow2 e : Nat), pow2 (-e))

/-- The order of two numbers by their exact values. -/
def compare? (a b : Number) : Option Ordering :=
  match a.fraction?, b.fraction? with
  | some (n, 0), some (m, 0) => some (compare n m)
  | some (n, c), some (m, d) => some (compare (n * d) (m * c))
  | _, _ => none

/-- Whether two numbers have the same exact value. -/
def equal (a b : Number) : Bool := a.compare? b == some .eq

/-- Whether `a` is at least `b`. -/
def atLeast (a b : Number) : Bool := ((a.compare? b).map (·.isGE)).getD false

/-- Whether a number is zero. -/
def isZero (a : Number) : Bool := a.equal (.whole 0)

/-- A number as it is written out. -/
def text : Number → String
  | .whole n => toString n
  | .binary x => floatText x

/-- The floating-point number nearest to a number; nothing for an integer that is too large. -/
def toFloat? : Number → Option Float
  | .whole n => floatOfInt? n
  | .binary x => some x

/-- The sum of two numbers, exact for integers.  An integer beyond the range of floating-point numbers
has no sum with one of them. -/
def add? : Number → Number → Option Number
  | .whole n, .whole m => some (.whole (n + m))
  | a, b => do return .binary ((← a.toFloat?) + (← b.toFloat?))

@[simp] theorem isZero_whole (n : Int) : isZero (.whole n) = decide (n = 0) := by
  rw [Bool.eq_iff_iff]
  simp [isZero, equal, compare?, fraction?]

@[simp] theorem add?_whole (n m : Int) : add? (.whole n) (.whole m) = some (.whole (n + m)) := rfl

end Number

end CpeMatch
