import Mathlib.Data.List.Basic
import Mathlib.Order.Defs.LinearOrder
import CpeMatch.Text.Basic

/-!
**The order of texts is linear.**

Texts are compared by the numbers of their code points.  No two code points have the same number, a
surrogate's number being that of no character, so that texts which compare equal are the same text.

* `CpeMatch.CodePoint.toNat_injective`, `CpeMatch.Text.codes_injective` — the numbers tell code points
  and texts apart, and `CpeMatch.CodePoint.ofNat_toNat`;
* the instances `Std.TransOrd Text` and `Std.LawfulEqOrd Text`, and from them `LinearOrder Text`.
-/

set_option autoImplicit false

namespace CpeMatch

namespace CodePoint

/-- The number of a character is that of no surrogate. -/
theorem toNat_char_ne_toNat_surrogate (c : Char) (n : Fin 2048) :
    (char c).toNat ≠ (surrogate n).toNat := by
  have hn := n.isLt
  simp only [toNat, firstSurrogate]
  rcases c.valid with h | ⟨h, _⟩
  · have : c.toNat < 0xD800 := h
    omega
  · have : 0xDFFF < c.toNat := h
    omega

/-- Code points are told apart by their numbers. -/
theorem toNat_injective : Function.Injective toNat := by
  intro a b h
  cases a with
  | char c =>
      cases b with
      | char d => exact congrArg char (Char.toNat_inj.1 h)
      | surrogate n => exact absurd h (toNat_char_ne_toNat_surrogate c n)
  | surrogate m =>
      cases b with
      | char d => exact absurd h.symm (toNat_char_ne_toNat_surrogate d m)
      | surrogate n =>
          have hmn : m.val = n.val := by
            simp only [toNat] at h
            omega
          exact congrArg surrogate (Fin.ext hmn)

/-- A code point is the one of its number. -/
theorem ofNat_toNat (c : CodePoint) : ofNat c.toNat = c := by
  cases c with
  | char c =>
      have hno : ¬ (firstSurrogate ≤ c.toNat ∧ c.toNat < firstSurrogate + 2048) := by
        simp only [firstSurrogate]
        rcases c.valid with h | ⟨h, _⟩
        · have : c.toNat < 0xD800 := h
          omega
        · have : 0xDFFF < c.toNat := h
          omega
      rw [toNat_char, ofNat, dif_neg hno, Char.ofNat_toNat]
  | surrogate n =>
      have hin : firstSurrogate ≤ (surrogate n).toNat ∧ (surrogate n).toNat < firstSurrogate + 2048 :=
        ⟨Nat.le_add_right .., Nat.add_lt_add_left n.isLt _⟩
      rw [ofNat, dif_pos hin]
      exact congrArg surrogate (Fin.ext (Nat.add_sub_cancel_left ..))

end CodePoint

namespace Text

/-- Texts are told apart by the numbers of their code points. -/
theorem codes_injective : Function.Injective codes := by
  intro s t h
  obtain ⟨ps⟩ := s
  obtain ⟨qs⟩ := t
  have hpq : ps = qs := List.map_injective_iff.2 CodePoint.toNat_injective h
  rw [hpq]

theorem compare_eq_compare_codes (s t : Text) : compare s t = compare s.codes t.codes := rfl

instance : Std.TransOrd Text := inferInstanceAs (Std.TransCmp (compareOn codes))

instance : Std.LawfulEqOrd Text where
  compare_self {s} := by
    rw [compare_eq_compare_codes]
    exact Std.ReflCmp.compare_self
  eq_of_compare {s t} h := by
    rw [compare_eq_compare_codes] at h
    exact codes_injective (Std.LawfulEqCmp.eq_of_compare h)

theorem compare_eq_swap (s t : Text) : compare s t = (compare t s).swap := Std.OrientedCmp.eq_swap

theorem lt_iff_compare (s t : Text) : s < t ↔ compare s t = .lt := Iff.rfl

theorem le_iff_isLE_compare (s t : Text) : s ≤ t ↔ (compare s t).isLE = true :=
  Ordering.isLE_iff_ne_gt.symm

/-- One text comes before another exactly when the other does not come at or before it. -/
theorem lt_iff_not_ge (s t : Text) : s < t ↔ ¬ t ≤ s := by
  rw [lt_iff_compare, le_iff_isLE_compare, compare_eq_swap]
  cases compare t s <;> decide

instance : LinearOrder Text where
  le_refl s := by
    rw [le_iff_isLE_compare]
    exact Std.ReflCmp.isLE_rfl
  le_trans s t u hst htu := by
    rw [le_iff_isLE_compare] at hst htu ⊢
    exact Std.TransCmp.isLE_trans hst htu
  lt_iff_le_not_ge s t := by
    rw [lt_iff_not_ge, le_iff_isLE_compare, le_iff_isLE_compare, compare_eq_swap t s]
    cases compare s t <;> decide
  le_antisymm s t hst hts := by
    rw [le_iff_isLE_compare] at hst hts
    exact Std.LawfulEqCmp.eq_of_compare (Std.OrientedCmp.isLE_antisymm hst hts)
  le_total s t := by
    rw [le_iff_isLE_compare, le_iff_isLE_compare, compare_eq_swap s t]
    cases compare t s <;> decide
  toDecidableLE := inferInstance
  toDecidableLT := inferInstance
  toDecidableEq := inferInstance
  compare_eq_compareOfLessAndEq s t := by
    unfold compareOfLessAndEq
    cases h : compare s t with
    | lt => rw [if_pos ((lt_iff_compare s t).2 h)]
    | eq =>
        have hlt : ¬ s < t := by
          rw [lt_iff_compare, h]
          decide
        have hst : s = t := Std.LawfulEqCmp.eq_of_compare h
        rw [if_neg hlt, if_pos hst]
    | gt =>
        have hlt : ¬ s < t := by
          rw [lt_iff_compare, h]
          decide
        have hst : s ≠ t := by
          rintro rfl
          exact absurd (h.symm.trans Std.ReflCmp.compare_self) (by decide)
        rw [if_neg hlt, if_neg hst]

end Text

end CpeMatch
