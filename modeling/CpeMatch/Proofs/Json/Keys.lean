import CpeMatch.Json.Key
import CpeMatch.Proofs.Text.Order

/-!
**Keys have a linear order.**

A key is told apart from every other by the row of integers that it is compared by, so that a table with
keys says of each key what was put under it.

* `CpeMatch.Json.Key.code_injective`;
* the instances `Std.TransOrd Json.Key` and `Std.LawfulEqOrd Json.Key`.
-/

set_option autoImplicit false

namespace CpeMatch.Json.Key

/-- Keys are told apart by their codes. -/
theorem code_injective : Function.Injective code := by
  intro a b h
  cases a <;> cases b <;> simp only [code, List.cons.injEq] at h
  case text.text s t =>
    have hst : s.codes = t.codes :=
      List.map_injective_iff.2 (fun m n hmn => Int.ofNat.inj hmn) h.2
    rw [Text.codes_injective hst]
  case number.number m d n e =>
    have hde : d = e := Int.ofNat.inj h.2.2.1
    rw [h.2.1, hde]
  all_goals simp_all

theorem compare_eq_compare_code (a b : Key) : compare a b = compare a.code b.code := rfl

instance : Std.TransOrd Key := inferInstanceAs (Std.TransCmp (compareOn code))

instance : Std.LawfulEqOrd Key where
  compare_self {a} := by
    rw [compare_eq_compare_code]
    exact Std.ReflCmp.compare_self
  eq_of_compare {a b} h := by
    rw [compare_eq_compare_code] at h
    exact code_injective (Std.LawfulEqCmp.eq_of_compare h)

end CpeMatch.Json.Key
