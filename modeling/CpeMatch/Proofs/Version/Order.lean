import CpeMatch.Proofs.Text.Order
import CpeMatch.Version.Basic

/-!
**The order of versions and their release lines.**

Tokens have a linear order, words before numbers.  Versions are ordered by their tokens, so that of two
versions one comes at or before the other, and versions with the same tokens stand for one another.
To belong to one release line is an equivalence among the versions that are specified.

* the instances `Std.TransOrd Version.Token` and `Std.LawfulEqOrd Version.Token`;
* `CpeMatch.Version.not_lt_iff_le`, `CpeMatch.Version.le_of_beq`, `CpeMatch.Version.le_trans` — the order
  of versions;
* `CpeMatch.Version.beq_iff_tokens_eq` — versions are equal when their tokens are;
* `CpeMatch.Version.sameMajor_iff` — what it is to belong to one release line.
-/

set_option autoImplicit false

namespace CpeMatch.Version

/-! ### Tokens -/

namespace Token

theorem ord_compare_eq_swap (s t : Token) : Ord.compare s t = (Ord.compare t s).swap := by
  cases s <;> cases t
  case number.number m n =>
    rw [compare_number_number, compare_number_number]
    exact Std.OrientedCmp.eq_swap
  case word.word v w =>
    rw [compare_word_word, compare_word_word]
    exact Text.compare_eq_swap v w
  all_goals rfl

theorem isLE_ord_compare_trans {s t u : Token} (hst : (Ord.compare s t).isLE = true)
    (htu : (Ord.compare t u).isLE = true) : (Ord.compare s u).isLE = true := by
  cases s <;> cases t <;> cases u
  case number.number.number l m n =>
    rw [compare_number_number] at hst htu ⊢
    exact Std.TransCmp.isLE_trans hst htu
  case word.word.word v w x =>
    rw [compare_word_word] at hst htu ⊢
    exact Std.TransCmp.isLE_trans hst htu
  all_goals first | rfl | contradiction

instance : Std.TransOrd Token where
  eq_swap := ord_compare_eq_swap _ _
  isLE_trans := isLE_ord_compare_trans

instance : Std.LawfulEqOrd Token where
  compare_self {s} := by
    cases s with
    | number n =>
        rw [compare_number_number]
        exact Std.ReflCmp.compare_self
    | word w =>
        rw [compare_word_word]
        exact Std.ReflCmp.compare_self
  eq_of_compare {s t} h := by
    cases s <;> cases t
    case number.number m n =>
      rw [compare_number_number] at h
      exact congrArg number (Std.LawfulEqCmp.eq_of_compare h)
    case word.word v w =>
      rw [compare_word_word] at h
      exact congrArg word (Std.LawfulEqCmp.eq_of_compare h)
    all_goals cases h

end Token

/-! ### Versions -/

theorem compare_eq_swap (v w : Version) : v.compare w = (w.compare v).swap := by
  unfold compare
  exact Std.OrientedCmp.eq_swap

theorem compare_self (v : Version) : v.compare v = .eq := by
  unfold compare
  exact Std.ReflCmp.compare_self

theorem lt_iff_compare (v w : Version) : v < w ↔ v.compare w = .lt := Iff.rfl

theorem le_iff_compare (v w : Version) : v ≤ w ↔ v.compare w ≠ .gt := Iff.rfl

/-- A version that is not below another is at or above it. -/
theorem not_lt_iff_le (v w : Version) : ¬ w < v ↔ v ≤ w := by
  rw [lt_iff_compare, le_iff_compare, compare_eq_swap v w]
  cases w.compare v <;> decide

/-- Versions are equal when their tokens are. -/
theorem beq_iff_tokens_eq (v w : Version) : (v == w) = true ↔ v.tokens = w.tokens := by
  change (v.tokens == w.tokens) = true ↔ v.tokens = w.tokens
  exact beq_iff_eq

theorem beq_self (v : Version) : (v == v) = true := (beq_iff_tokens_eq v v).2 rfl

/-- Equal versions come at or before one another. -/
theorem le_of_beq {v w : Version} (h : (v == w) = true) : w ≤ v := by
  have hcompare : w.compare v = w.compare w := by
    unfold compare
    rw [(beq_iff_tokens_eq v w).1 h]
  rw [le_iff_compare, hcompare, compare_self]
  decide

theorem le_trans {u v w : Version} (huv : u ≤ v) (hvw : v ≤ w) : u ≤ w := by
  rw [le_iff_compare, compare] at huv hvw ⊢
  have huv' := Ordering.isLE_iff_ne_gt.2 huv
  have hvw' := Ordering.isLE_iff_ne_gt.2 hvw
  exact Ordering.isLE_iff_ne_gt.1 (Std.TransCmp.isLE_trans huv' hvw')

/-! ### Release lines -/

theorem isUnspecified_iff_major (v : Version) : v.isUnspecified = true ↔ v.major = none := by
  rw [isUnspecified, major, List.isEmpty_iff, List.head?_eq_none_iff]

/-- Two versions belong to one release line when the first is specified and both have the same first
token. -/
theorem sameMajor_iff (v w : Version) :
    v.sameMajor w = true ↔ v.isUnspecified = false ∧ v.major = w.major := by
  rw [← Bool.not_eq_true, isUnspecified_iff_major, sameMajor]
  cases v.major <;> cases w.major <;> simp

/-- To belong to the line of a specified version is to have its first token. -/
theorem sameMajor_eq_decide (v : Version) {w : Version} (hw : w.isUnspecified = false) :
    v.sameMajor w = decide (v.major = w.major) := by
  rw [Bool.eq_iff_iff, sameMajor_iff, decide_eq_true_iff]
  refine ⟨fun h => h.2, fun h => ⟨?_, h⟩⟩
  rw [← Bool.not_eq_true, isUnspecified_iff_major] at hw ⊢
  rwa [h]

theorem isUnspecified_eq_of_major_eq {v w : Version} (h : v.major = w.major) :
    v.isUnspecified = w.isUnspecified := by
  rw [Bool.eq_iff_iff, isUnspecified_iff_major, isUnspecified_iff_major, h]

/-- Equal versions have the same first token. -/
theorem major_eq_of_beq {v w : Version} (h : (v == w) = true) : v.major = w.major := by
  rw [major, major, (beq_iff_tokens_eq v w).1 h]

end CpeMatch.Version
