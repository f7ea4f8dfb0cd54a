/-!
**Durations.**

Readings of a clock and the times between them need no more than this: a zero, sums, differences, an
order and the division into equal parts.  A running program has floating-point numbers, exact
statements have rational ones.

Main definition: `CpeMatch.Timing.Duration`.
-/

set_option autoImplicit false

namespace CpeMatch.Timing

/-- What is needed of the readings of a clock. -/
class Duration (τ : Type) where
  zero : τ
  add : τ → τ → τ
  sub : τ → τ → τ
  /-- Whether the first is less than the second. -/
  less : τ → τ → Bool
  /-- The part of a duration that falls to one of `n`. -/
  share : τ → Nat → τ

instance : Duration Float where
  zero := 0
  add := (· + ·)
  sub := (· - ·)
  less a b := decide (a < b)
  share a n := a / Float.ofNat n

instance : Duration Rat where
  zero := 0
  add := (· + ·)
  sub := (· - ·)
  less a b := decide (a < b)
  share a n := a / n

/-- The greater of two durations, the first if they are equal. -/
def Duration.greater {τ : Type} [Duration τ] (a b : τ) : τ := if Duration.less a b then b else a

end CpeMatch.Timing
