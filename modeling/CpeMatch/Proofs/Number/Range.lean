import Mathlib.Algebra.Group.Nat.Defs
import Mathlib.Tactic.SplitIfs
import CpeMatch.Number.Binary64

/-!
**The range of floating-point numbers.**

An integer has a nearest floating-point number unless it is too large.  The greatest finite number is
`2 ^ 1024 - 2 ^ 971`, and half of the distance to `2 ^ 1024` is still rounded down; so the integers that
are too large begin at `2 ^ 1024 - 2 ^ 970`, where the tie goes up.

Main results:

* `CpeMatch.Number.roundHalfEven_lt_iff` — where rounding reaches an even number;
* `CpeMatch.Number.floatOfInt?_eq_none_iff` — **the integers beyond the range**.
-/

set_option autoImplicit false

namespace CpeMatch.Number

/-- A quotient is rounded to less than an even number if it is more than half a unit below it. -/
theorem roundHalfEven_lt_iff {n d q : Nat} (hd : 0 < d) (hq : q % 2 = 0) :
    roundHalfEven n d < q ↔ 2 * n + d < 2 * (d * q) := by
  have hdiv : d * (n / d) + n % d = n := Nat.div_add_mod n d
  have hmod : n % d < d := Nat.mod_lt n hd
  unfold roundHalfEven
  generalize n / d = k at *
  generalize n % d = m at *
  simp only
  rcases Nat.lt_trichotomy (k + 1) q with hlt | rfl | hgt
  · have hmul : d * (k + 2) ≤ d * q := Nat.mul_le_mul_left d hlt
    have hexpand : d * (k + 2) = d * k + d * 2 := Nat.mul_add d k 2
    constructor
    · intro _
      omega
    · intro _
      split_ifs <;> omega
  · -- the quotient is next to the even number, and is odd itself
    have hexpand : d * (k + 1) = d * k + d := Nat.mul_succ d k
    split_ifs <;> omega
  · have hmul : d * q ≤ d * k := Nat.mul_le_mul_left d (by omega)
    constructor
    · intro h
      split_ifs at h <;> omega
    · intro h
      omega

theorem two_pow_eq_mul {a b c : Nat} (h : c = a + b) : 2 ^ c = 2 ^ a * 2 ^ b := by
  rw [h, Nat.pow_add]

theorem two_pow_mul_pos (a b : Nat) : 0 < 2 ^ a * 2 ^ b :=
  Nat.mul_pos (Nat.two_pow_pos a) (Nat.two_pow_pos b)

theorem two_pow_le_mul {a b n : Nat} (h : n ≤ a + b) : 2 ^ n ≤ 2 ^ a * 2 ^ b := by
  rw [← Nat.pow_add]
  exact Nat.pow_le_pow_right Nat.two_pos h

theorem pow2_natCast (n : Nat) : pow2 n = 2 ^ n := rfl

theorem pow2_of_nonpos {e : Int} (he : e ≤ 0) : pow2 e = 1 := by
  rw [pow2, Int.toNat_of_nonpos he]

/-- The leading bit of a positive integer is that of its logarithm. -/
theorem binaryOrder_one {n : Nat} (hn : n ≠ 0) : binaryOrder n 1 = n.log2 := by
  have hlog : Nat.log2 1 = 0 := by decide
  have hguess : (n.log2 : Int) - (Nat.log2 1 : Nat) = (n.log2 : Nat) := by rw [hlog]; simp
  have hle : 2 ^ n.log2 ≤ n := Nat.log2_self_le hn
  unfold binaryOrder
  simp only [hguess]
  rw [if_neg]
  rw [pow2_of_nonpos (by omega), pow2_natCast]
  omega

/-- The significand of a positive integer: it is rounded to fifty-three bits. -/
def wholeSignificand (n : Nat) : Nat :=
  roundHalfEven (n * 2 ^ (52 - n.log2)) (2 ^ (n.log2 - 52))

theorem nearestBits_one {n : Nat} (hn : n ≠ 0) :
    nearestBits n 1 =
      min ((n.log2 + 1022) * leadingBit + wholeSignificand n) infinityBits := by
  have hexponent : max ((n.log2 : Int) - (fractionBits : Nat)) leastExponent = (n.log2 : Int) - 52 := by
    simp only [fractionBits, leastExponent]
    omega
  have hdown : (-((n.log2 : Int) - 52)).toNat = 52 - n.log2 := by omega
  have hup : ((n.log2 : Int) - 52).toNat = n.log2 - 52 := by omega
  have hbiased : ((n.log2 : Int) - 52 - leastExponent).toNat = n.log2 + 1022 := by
    simp only [leastExponent]
    omega
  simp only [nearestBits, if_neg hn, binaryOrder_one hn, hexponent, hbiased, pow2, hdown, hup,
    Nat.one_mul]
  rfl

/-- The significand of an integer has fifty-three bits, or is the next power of two. -/
theorem wholeSignificand_bounds {n : Nat} (hn : n ≠ 0) :
    2 ^ 52 ≤ wholeSignificand n ∧ wholeSignificand n ≤ 2 ^ 53 := by
  have hle : 2 ^ n.log2 ≤ n := Nat.log2_self_le hn
  have hlt : n < 2 ^ (n.log2 + 1) := Nat.lt_log2_self
  have hd : 0 < 2 ^ (n.log2 - 52) := Nat.two_pow_pos _
  have hscale : ∀ b, 52 ≤ b →
      2 ^ (n.log2 + (b - 52)) * 2 ^ (52 - n.log2) = 2 ^ (n.log2 - 52) * 2 ^ b := by
    intro b hb
    rw [← Nat.pow_add, ← Nat.pow_add]
    congr 1
    omega
  have hlow : 2 ^ (n.log2 - 52) * 2 ^ 52 ≤ n * 2 ^ (52 - n.log2) := by
    rw [← hscale 52 (by omega)]
    exact Nat.mul_le_mul_right _ hle
  have hhigh : n * 2 ^ (52 - n.log2) < 2 ^ (n.log2 - 52) * 2 ^ 53 := by
    rw [← hscale 53 (by omega)]
    exact Nat.mul_lt_mul_of_pos_right hlt (Nat.two_pow_pos _)
  obtain ⟨hbelow, habove⟩ := roundHalfEven_within (n * 2 ^ (52 - n.log2)) (2 ^ (n.log2 - 52)) hd
  rw [← wholeSignificand] at hbelow habove
  generalize wholeSignificand n = significand at *
  generalize 2 ^ (n.log2 - 52) = d at *
  constructor
  · refine Nat.le_of_not_lt ?_
    intro hlt
    have hmul : d * (significand + 1) ≤ d * 2 ^ 52 := Nat.mul_le_mul_left d (by omega)
    rw [Nat.mul_succ] at hmul
    omega
  · refine Nat.le_of_not_lt ?_
    intro hgt
    have hmul : d * (2 ^ 53 + 1) ≤ d * significand := Nat.mul_le_mul_left d (by omega)
    rw [Nat.mul_succ] at hmul
    omega

/-- The bits of an integer are those of a finite number up to half a unit above the greatest one. -/
theorem nearestBits_one_lt_iff (n : Nat) :
    nearestBits n 1 < infinityBits ↔ n < 2 ^ 1024 - 2 ^ 970 := by
  have hunit : infinityBits = 2047 * 2 ^ 52 ∧ leadingBit = 2 ^ 52 := ⟨rfl, rfl⟩
  have hgap := two_pow_eq_mul (a := 970) (b := 54) (c := 1024) rfl
  by_cases hn : n = 0
  · subst hn
    decide +kernel
  have hle : 2 ^ n.log2 ≤ n := Nat.log2_self_le hn
  have hlt : n < 2 ^ (n.log2 + 1) := Nat.lt_log2_self
  obtain ⟨hlow, hhigh⟩ := wholeSignificand_bounds hn
  rw [nearestBits_one hn, hunit.1, hunit.2]
  rcases Nat.lt_trichotomy n.log2 1023 with hsmall | hlast | hlarge
  · have hexponent : n.log2 + 1 ≤ 970 + 53 := by omega
    have hpow := two_pow_le_mul (a := 970) (b := 53) hexponent
    have hmul : (n.log2 + 1022) * 2 ^ 52 ≤ 2044 * 2 ^ 52 := Nat.mul_le_mul_right _ (by omega)
    rw [hgap]
    omega
  · -- here the significand decides, which is rounded up from the tie on
    have hunit' := two_pow_eq_mul (a := 970) (b := 1) (c := 1023 - 52) rfl
    have hpos := two_pow_mul_pos 970 1
    have hsignificand : wholeSignificand n < 2 ^ 53 ↔ n < 2 ^ 1024 - 2 ^ 970 := by
      rw [wholeSignificand, hlast, hunit', roundHalfEven_lt_iff hpos (by decide), hgap]
      omega
    rw [← hsignificand, hlast]
    omega
  · have hexponent : 1024 ≤ n.log2 := by omega
    have hpow := Nat.pow_le_pow_right Nat.two_pos hexponent
    have hmul : 2046 * 2 ^ 52 ≤ (n.log2 + 1022) * 2 ^ 52 := Nat.mul_le_mul_right _ (by omega)
    omega

/-- **The integers beyond the range** of floating-point numbers are those from half a unit above the
greatest finite one on. -/
theorem floatOfInt?_eq_none_iff (n : Int) : floatOfInt? n = none ↔ 2 ^ 1024 - 2 ^ 970 ≤ n.natAbs := by
  rw [floatOfInt?, ← Nat.not_lt, ← nearestBits_one_lt_iff]
  simp

end CpeMatch.Number
