import Mathlib.Data.List.Basic
import CpeMatch.Number.Numeral
import CpeMatch.Number.Shortest

/-!
**How floating-point numbers are written.**

A finite number is written with a whole part, which has no zero ahead of other digits, and with a fraction or an
exponent or both.  In scientific form and in positional form above one the first digit is the first significant one,
which is no zero; otherwise a zero stands alone before the point.

Main definitions:

* `CpeMatch.Number.IsWhole` — the digits of a whole part;
* `CpeMatch.Number.Decimal` — a decimal number with its parts.

Main results:

* `CpeMatch.Number.isWhole_toDigits` — natural numbers are written with such digits;
* `CpeMatch.Number.shortestDigits_cases` — the significant digits of a number;
* `CpeMatch.Number.exists_decimal_of_finite` — **a finite number is written as a decimal with a fraction or an
  exponent**.
-/

set_option autoImplicit false

namespace CpeMatch.Number

/-! ### Whole numbers -/

/-- One or more digits, and no zero ahead of others. -/
structure IsWhole (cs : List Char) : Prop where
  ne_nil : cs ≠ []
  isDigit : ∀ c ∈ cs, c.isDigit = true
  eq_zero : cs.head? = some '0' → cs = ['0']

theorem isDigit_of_mem_toDigits {n : Nat} {c : Char} (h : c ∈ Nat.toDigits 10 n) : c.isDigit = true :=
  Nat.isDigit_of_mem_toDigits (by decide) (by decide) h

/-- Only zero is written with a zero ahead. -/
theorem eq_zero_of_head?_toDigits {n : Nat} (h : (Nat.toDigits 10 n).head? = some '0') : n = 0 := by
  induction n using Nat.strongRecOn with
  | ind n ih =>
      rcases Nat.lt_or_ge n 10 with hlt | hge
      · rw [Nat.toDigits_of_lt_base hlt, List.head?_cons, Option.some.injEq] at h
        exact Nat.digitChar_eq_zero.1 h
      · rw [Nat.toDigits_of_base_le (by decide) hge, List.head?_append_of_ne_nil _ Nat.toDigits_ne_nil] at h
        have hquotient := ih (n / 10) (Nat.div_lt_self (by omega) (by decide)) h
        omega

/-- A natural number is written with digits of which only a single one is a zero ahead. -/
theorem isWhole_toDigits (n : Nat) : IsWhole (Nat.toDigits 10 n) where
  ne_nil := Nat.toDigits_ne_nil
  isDigit _ := isDigit_of_mem_toDigits
  eq_zero h := by
    rw [eq_zero_of_head?_toDigits h]
    rfl

/-! ### Significant digits -/

/-- Zeros at the end taken away from digits that do not begin with one. -/
theorem dropZeros_cons {c : Char} (hc : c ≠ '0') (cs : List Char) :
    ∃ ds, ((c :: cs).reverse.dropWhile (· = '0')).reverse = c :: ds ∧ ds ⊆ cs := by
  rw [List.reverse_cons, List.dropWhile_append]
  split
  · refine ⟨[], ?_, List.nil_subset cs⟩
    rw [List.dropWhile_cons_of_neg (by simpa using hc)]
    rfl
  · refine ⟨(cs.reverse.dropWhile (· = '0')).reverse, by simp, ?_⟩
    intro d hd
    exact List.mem_reverse.1 ((List.dropWhile_sublist _).subset (List.mem_reverse.1 hd))

/-- The significant digits of a positive number begin with one that is no zero. -/
theorem exists_significantDigits {n : Nat} (hn : 0 < n) :
    ∃ d ds, significantDigits n = d :: ds ∧ d ≠ '0' ∧ ∀ c ∈ d :: ds, c.isDigit = true := by
  cases hdigits : Nat.toDigits 10 n with
  | nil => exact absurd hdigits Nat.toDigits_ne_nil
  | cons d cs =>
      have hall : ∀ c ∈ d :: cs, c.isDigit = true := hdigits ▸ (isWhole_toDigits n).isDigit
      have hd : d ≠ '0' := by
        rintro rfl
        have hzero := eq_zero_of_head?_toDigits (congrArg List.head? hdigits)
        omega
      obtain ⟨ds, hds, hsub⟩ := dropZeros_cons hd cs
      rw [List.forall_mem_cons] at hall
      refine ⟨d, ds, ?_, hd, List.forall_mem_cons.2 ⟨hall.1, fun c hc => hall.2 c (hsub hc)⟩⟩
      rw [significantDigits, hdigits, hds]

theorem pow2_pos (e : Int) : 0 < pow2 e := Nat.pow_pos (by decide)

theorem pow10_pos (e : Int) : 0 < pow10 e := Nat.pow_pos (by decide)

theorem low_of_pos {m : Nat} (hm : m ≠ 0) (e : Int) : 0 < (Interval.of m e).low := by
  refine Nat.mul_pos ?_ (pow2_pos _)
  split <;> omega

namespace Interval

variable {i : Interval} {n : Nat} {p : Int}

/-- Zero does not round to a positive number. -/
theorem pos_of_holds (hi : 0 < i.low) (h : i.holds n p = true) : 0 < n := by
  rcases Nat.eq_zero_or_pos n with rfl | hn
  · have hlow : 0 < i.low * pow10 (-p) := Nat.mul_pos hi (pow10_pos _)
    rw [holds, Nat.zero_mul, Nat.zero_mul] at h
    split at h
    · rw [Bool.and_eq_true, decide_eq_true_iff] at h
      omega
    · rw [Bool.and_eq_true, decide_eq_true_iff] at h
      omega
  · exact hn

theorem le_roundHalfEven (n d : Nat) : n / d ≤ roundHalfEven n d := by
  simp only [roundHalfEven]
  split
  · exact Nat.le_refl _
  · split
    · exact Nat.le_succ _
    · split
      · exact Nat.le_refl _
      · exact Nat.le_succ _

theorem pos_of_onGrid? (hi : 0 < i.low) (h : i.onGrid? p = some n) : 0 < n := by
  simp only [onGrid?] at h
  split at h
  next hdown _ =>
    obtain rfl := Option.some.inj h
    exact Nat.lt_of_lt_of_le (pos_of_holds hi hdown) (le_roundHalfEven _ _)
  next hdown _ =>
    obtain rfl := Option.some.inj h
    exact pos_of_holds hi hdown
  next =>
    obtain rfl := Option.some.inj h
    exact Nat.succ_pos _
  next => cases h

/-- The shortest decimal of a positive number is none, or positive. -/
theorem shortest_cases (hi : 0 < i.low) : i.shortest = (0, 0) ∨ 0 < i.shortest.1 := by
  cases hgrid : ((List.range 17).map fun k => pointPlace i.value i.denominator - (k + 1 : Nat)).findSome?
      fun p => (i.onGrid? p).map (·, p) with
  | none => exact Or.inl (by simp only [shortest, hgrid, Option.getD_none])
  | some found =>
      obtain ⟨q, -, hq⟩ := List.exists_of_findSome?_eq_some hgrid
      obtain ⟨n, hn, rfl⟩ := Option.map_eq_some_iff.1 hq
      refine Or.inr ?_
      simp only [shortest, hgrid, Option.getD_some]
      exact pos_of_onGrid? hi hn

end Interval

/-- The significant digits of a positive number begin with one that is no zero; if there are none, the number is
written with a zero. -/
theorem shortestDigits_cases {m : Nat} (hm : m ≠ 0) (e : Int) :
    shortestDigits m e = ([], 1) ∨
      ∃ d ds place, shortestDigits m e = (d :: ds, place) ∧ d ≠ '0' ∧ ∀ c ∈ d :: ds, c.isDigit = true := by
  rcases Interval.shortest_cases (low_of_pos hm e) with hnone | hpos
  · rw [shortestDigits, hnone]
    exact Or.inl rfl
  · obtain ⟨d, ds, hdigits, hd, hall⟩ := exists_significantDigits hpos
    exact Or.inr ⟨d, ds, _, Prod.ext hdigits rfl, hd, hall⟩

/-! ### Decimals -/

/-- A decimal number: a whole part, a fraction and an exponent with its sign, of which the last two may be
missing. -/
structure Decimal where
  whole : List Char
  fraction : List Char
  exponent : Option (Bool × List Char)
  isWhole : IsWhole whole
  isDigit_fraction : ∀ c ∈ fraction, c.isDigit = true
  isDigit_exponent : ∀ x ∈ exponent, x.2 ≠ [] ∧ ∀ c ∈ x.2, c.isDigit = true

namespace Decimal

/-- The fraction as it is written. -/
def fractionText (d : Decimal) : List Char := if d.fraction = [] then [] else '.' :: d.fraction

/-- The exponent as it is written. -/
def exponentText (d : Decimal) : List Char :=
  match d.exponent with
  | none => []
  | some (negative, digits) => 'e' :: (if negative then '-' else '+') :: digits

/-- A decimal as it is written. -/
def text (d : Decimal) : List Char := d.whole ++ (d.fractionText ++ d.exponentText)

/-- The power of ten that the exponent says. -/
def power (d : Decimal) : Int :=
  match d.exponent with
  | none => 0
  | some (negative, digits) => if negative then -(natOfAscii digits : Int) else natOfAscii digits

/-- The number of the given sign nearest to the decimal. -/
def nearest (d : Decimal) (negative : Bool) : Float :=
  nearestDecimal negative (natOfAscii (d.whole ++ d.fraction)) (d.power - d.fraction.length)

/-- The decimal has a fraction or an exponent. -/
def IsFloat (d : Decimal) : Prop := d.fraction ≠ [] ∨ d.exponent ≠ none

end Decimal

theorem isDigit_zero : ∀ c ∈ ['0'], c.isDigit = true := List.forall_mem_singleton.2 rfl

/-- Zero and a fraction. -/
def belowOne (fraction : List Char) (h : ∀ c ∈ fraction, c.isDigit = true) : Decimal :=
  ⟨['0'], fraction, none, ⟨List.cons_ne_nil _ _, isDigit_zero, fun _ => rfl⟩, h, nofun⟩

theorem isDigit_replicate_zero (n : Nat) : ∀ c ∈ List.replicate n '0', c.isDigit = true := by
  intro c hc
  rw [List.eq_of_mem_replicate hc]
  rfl

/-- Digits with a point among or beside them make a decimal. -/
theorem exists_decimal_of_placePoint {d : Char} {ds : List Char} (hd : d ≠ '0')
    (hall : ∀ c ∈ d :: ds, c.isDigit = true) (place : Int) :
    ∃ x : Decimal, x.IsFloat ∧ placePoint (d :: ds) place = x.text := by
  have hdigit : d.isDigit = true := hall d (List.mem_cons_self ..)
  have hds : ∀ c ∈ ds, c.isDigit = true := fun c hc => hall c (List.mem_cons_of_mem d hc)
  rw [placePoint]
  split
  · -- scientific form: one digit, the others as a fraction, and an exponent
    have hwhole : IsWhole [d] :=
      ⟨List.cons_ne_nil _ _, fun c hc => List.mem_singleton.1 hc ▸ hdigit, fun h => by
        rw [List.head?_cons, Option.some.injEq] at h
        exact absurd h hd⟩
    let digits := List.replicate (floatFormat.exponentDigits - (Nat.toDigits 10 (place - 1).natAbs).length) '0' ++
      Nat.toDigits 10 (place - 1).natAbs
    have hexponent : ∀ x ∈ some (decide (place - 1 < 0), digits), x.2 ≠ [] ∧ ∀ c ∈ x.2, c.isDigit = true := by
      rintro _ ⟨⟩
      exact ⟨List.append_ne_nil_of_right_ne_nil _ Nat.toDigits_ne_nil,
        List.forall_mem_append.2 ⟨isDigit_replicate_zero _, (isWhole_toDigits _).isDigit⟩⟩
    refine ⟨⟨[d], ds, some (decide (place - 1 < 0), digits), hwhole, hds, hexponent⟩, Or.inr nofun, ?_⟩
    simp [Decimal.text, Decimal.fractionText, Decimal.exponentText, exponentText, digits]
  · split
    · refine ⟨belowOne (List.replicate (-place).toNat '0' ++ d :: ds)
        (List.forall_mem_append.2 ⟨isDigit_replicate_zero _, hall⟩), Or.inl (by simp [belowOne]), ?_⟩
      simp [Decimal.text, Decimal.fractionText, Decimal.exponentText, belowOne]
    next hpositive =>
      obtain ⟨k, hk⟩ : ∃ k : Nat, place.toNat = k + 1 := ⟨place.toNat - 1, by omega⟩
      rw [hk]
      let whole := (d :: ds).take (k + 1)
      have hwhole : IsWhole (whole ++ List.replicate (k + 1 - whole.length) '0') := by
        refine ⟨nofun, List.forall_mem_append.2 ⟨fun c hc => hall c (List.mem_of_mem_take hc),
          isDigit_replicate_zero _⟩, fun h => ?_⟩
        change some d = some '0' at h
        exact absurd (Option.some.inj h) hd
      cases hrest : (d :: ds).drop (k + 1) with
      | nil =>
          refine ⟨⟨_, ['0'], none, hwhole, isDigit_zero, nofun⟩, Or.inl nofun, ?_⟩
          simp [Decimal.text, Decimal.fractionText, Decimal.exponentText, whole]
      | cons c cs =>
          have hfraction : ∀ b ∈ c :: cs, b.isDigit = true := by
            intro b hb
            rw [← hrest] at hb
            exact hall b (List.mem_of_mem_drop hb)
          refine ⟨⟨_, c :: cs, none, hwhole, hfraction, nofun⟩, Or.inl nofun, ?_⟩
          simp [Decimal.text, Decimal.fractionText, Decimal.exponentText, whole]

/-- **A finite number is written as a decimal with a fraction or an exponent.** -/
theorem exists_decimal_of_finite {x : Float} {m : Nat} {e : Int} (h : (binaryOf x).magnitude = .finite m e) :
    ∃ d : Decimal, d.IsFloat ∧
      (floatText x).toList = if (binaryOf x).negative then '-' :: d.text else d.text := by
  have hzero : ∃ d : Decimal, d.IsFloat ∧ ['0', '.', '0'] = d.text :=
    ⟨belowOne ['0'] isDigit_zero, Or.inl nofun, rfl⟩
  obtain ⟨d, hd, hbody⟩ : ∃ d : Decimal, d.IsFloat ∧
      (if m = 0 then ['0', '.', '0'] else placePoint (shortestDigits m e).1 (shortestDigits m e).2) = d.text := by
    split
    next => exact hzero
    next hm =>
      rcases shortestDigits_cases hm e with hnone | ⟨d, ds, place, hdigits, hd, hall⟩
      · rw [hnone]
        exact hzero
      · rw [hdigits]
        exact exists_decimal_of_placePoint hd hall place
  refine ⟨d, hd, ?_⟩
  rw [floatText, h, ← hbody]
  exact String.toList_ofList

end CpeMatch.Number
