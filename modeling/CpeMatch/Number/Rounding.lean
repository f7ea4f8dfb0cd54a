/-!
**Rounding a quotient to the nearest integer.**

Every number this library writes or reads in decimal passes through one rounding: a quotient of
natural numbers goes to the nearest integer, and a half to the even neighbour.

Main definition: `CpeMatch.Number.roundHalfEven`.

Main result: `CpeMatch.Number.roundHalfEven_within` — the result is at most half a unit away.
-/

set_option autoImplicit false

namespace CpeMatch.Number

/-- The integer nearest to `n / d`, the even one of two equally near. -/
def roundHalfEven (n d : Nat) : Nat :=
  let quotient := n / d
  let twice := 2 * (n % d)
  if twice < d then quotient
  else if d < twice then quotient + 1
  else if quotient % 2 = 0 then quotient else quotient + 1

/-- The rounded quotient is at most half a unit away from the exact one. -/
theorem roundHalfEven_within (n d : Nat) (hd : 0 < d) :
    2 * n ≤ 2 * (d * roundHalfEven n d) + d ∧ 2 * (d * roundHalfEven n d) ≤ 2 * n + d := by
  have hdiv : d * (n / d) + n % d = n := Nat.div_add_mod n d
  have hmod : n % d < d := Nat.mod_lt n hd
  unfold roundHalfEven
  simp only
  split
  · omega
  · split
    · rw [Nat.mul_add, Nat.mul_one]; omega
    · split
      · omega
      · rw [Nat.mul_add, Nat.mul_one]; omega

end CpeMatch.Number
