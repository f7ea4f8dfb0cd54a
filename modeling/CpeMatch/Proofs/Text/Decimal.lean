import Mathlib.Data.List.Induction
import Mathlib.Data.List.TakeWhile
import CpeMatch.Proofs.Text.Order
import CpeMatch.Text.DecimalDigit

/-!
**Numbers in decimal.**

A number is written with the ten ASCII digits, the most significant one first.  Digits that write a number need not
be those that it is written with: zeros may stand ahead of them.  These make no difference to the number, and
without them the digits are the ones that it is written with.

Main definition: `CpeMatch.Text.significantDigits` — digits without the zeros ahead of them.

Main results:

* `CpeMatch.Text.natOfDigits_significantDigits` — zeros ahead of digits make no difference to their number;
* `CpeMatch.Text.toDigits_natOfDigits` — **the number that ASCII digits write is written with the significant ones**.
-/

set_option autoImplicit false

namespace CpeMatch.Text

/-! ### Digits without the zeros ahead of them -/

/-- Whether a code point is the digit zero of ASCII. -/
def isZeroDigit (c : CodePoint) : Bool := c = .char '0'

/-- Digits without the zeros ahead of them; the last digit stays even if it is a zero. -/
def significantDigits (ds : List CodePoint) : List CodePoint :=
  ds.dropLast.dropWhile isZeroDigit ++ ds.getLast?.toList

theorem significantDigits_append_singleton (ds : List CodePoint) (d : CodePoint) :
    significantDigits (ds ++ [d]) = ds.dropWhile isZeroDigit ++ [d] := by
  rw [significantDigits, List.dropLast_concat, List.getLast?_concat]
  rfl

theorem significantDigits_sublist (ds : List CodePoint) : (significantDigits ds).Sublist ds := by
  cases ds using List.reverseRecOn with
  | nil => exact List.Sublist.refl []
  | append_singleton ds d =>
      rw [significantDigits_append_singleton]
      exact (List.dropWhile_sublist _).append_right [d]

theorem significantDigits_ne_nil {ds : List CodePoint} (h : ds ≠ []) : significantDigits ds ≠ [] := by
  cases ds using List.reverseRecOn with
  | nil => exact absurd rfl h
  | append_singleton ds d =>
      rw [significantDigits_append_singleton]
      exact List.concat_ne_nil d _

/-- If not all digits are zeros, those from the first other one on are significant. -/
theorem significantDigits_of_dropWhile_ne_nil {ds : List CodePoint} (h : ds.dropWhile isZeroDigit ≠ []) :
    significantDigits ds = ds.dropWhile isZeroDigit := by
  cases ds using List.reverseRecOn with
  | nil => rfl
  | append_singleton ds d =>
      rw [List.dropWhile_append] at h ⊢
      rw [significantDigits_append_singleton]
      cases hds : ds.dropWhile isZeroDigit with
      | nil =>
          rw [hds, List.isEmpty_nil, if_pos rfl] at h
          cases hd : isZeroDigit d with
          | true => exact absurd (List.dropWhile_cons_of_pos hd) h
          | false =>
              rw [List.isEmpty_nil, if_pos rfl, List.dropWhile_cons_of_neg (by simp [hd])]
              rfl
      | cons c cs => rfl

/-! ### The number that digits write -/

theorem natOfDigits_append_singleton (ds : List CodePoint) (d : CodePoint) :
    natOfDigits (ds ++ [d]) = natOfDigits ds * 10 + (digitValue? d).getD 0 := by
  rw [natOfDigits, List.foldl_append]
  rfl

theorem natOfDigits_dropWhile (ds : List CodePoint) : natOfDigits (ds.dropWhile isZeroDigit) = natOfDigits ds := by
  induction ds with
  | nil => rfl
  | cons d ds ih =>
      cases hd : isZeroDigit d with
      | false => rw [List.dropWhile_cons_of_neg (by simp [hd])]
      | true =>
          have hzero : d = .char '0' := of_decide_eq_true hd
          rw [List.dropWhile_cons_of_pos hd, ih, hzero]
          rfl

/-- Zeros ahead of digits make no difference to the number that they write. -/
theorem natOfDigits_significantDigits (ds : List CodePoint) :
    natOfDigits (significantDigits ds) = natOfDigits ds := by
  cases ds using List.reverseRecOn with
  | nil => rfl
  | append_singleton ds d =>
      rw [significantDigits_append_singleton, natOfDigits_append_singleton, natOfDigits_dropWhile,
        natOfDigits_append_singleton]

/-! ### The digits that a number is written with -/

/-- The ASCII digits, each of them with its value. -/
theorem exists_digitChar_of_lt : ∀ n < 128, isDigit (.ofNat n) = true →
    ∃ d < 10, CodePoint.ofNat n = .char (Nat.digitChar d) ∧ digitValue? (.ofNat n) = some d := by
  decide +kernel

theorem exists_digitChar {c : CodePoint} (hascii : c.isAscii = true) (hdigit : isDigit c = true) :
    ∃ d < 10, c = .char (Nat.digitChar d) ∧ digitValue? c = some d := by
  rw [← CodePoint.ofNat_toNat c] at hdigit ⊢
  exact exists_digitChar_of_lt c.toNat (of_decide_eq_true hascii) hdigit

/-- ASCII digits that write zero are zeros. -/
theorem dropWhile_eq_nil_iff {ds : List CodePoint} (h : ∀ d ∈ ds, d.isAscii = true ∧ isDigit d = true) :
    ds.dropWhile isZeroDigit = [] ↔ natOfDigits ds = 0 := by
  rw [List.dropWhile_eq_nil_iff]
  induction ds using List.reverseRecOn with
  | nil => simp
  | append_singleton ds d ih =>
      obtain ⟨hds, hd⟩ := List.forall_mem_append.1 h
      obtain ⟨x, hx, hchar, hvalue⟩ := exists_digitChar (hd d (List.mem_singleton_self d)).1
        (hd d (List.mem_singleton_self d)).2
      have hzero : isZeroDigit d = true ↔ x = 0 := by
        rw [isZeroDigit, decide_eq_true_iff, hchar, CodePoint.char.injEq, Nat.digitChar_eq_zero]
      rw [List.forall_mem_append, ih hds, List.forall_mem_singleton, hzero, natOfDigits_append_singleton, hvalue,
        Option.getD_some]
      omega

/-- **The number that ASCII digits write is written with the significant ones.** -/
theorem toDigits_natOfDigits {ds : List CodePoint} (hne : ds ≠ [])
    (h : ∀ d ∈ ds, d.isAscii = true ∧ isDigit d = true) :
    (Nat.toDigits 10 (natOfDigits ds)).map CodePoint.char = significantDigits ds := by
  induction ds using List.reverseRecOn with
  | nil => exact absurd rfl hne
  | append_singleton ds d ih =>
      obtain ⟨hds, hd⟩ := List.forall_mem_append.1 h
      obtain ⟨x, hx, hchar, hvalue⟩ := exists_digitChar (hd d (List.mem_singleton_self d)).1
        (hd d (List.mem_singleton_self d)).2
      rw [significantDigits_append_singleton, natOfDigits_append_singleton, hvalue, Option.getD_some]
      by_cases hzero : natOfDigits ds = 0
      · rw [(dropWhile_eq_nil_iff hds).2 hzero, hzero, Nat.zero_mul, Nat.zero_add, Nat.toDigits_of_lt_base hx, hchar]
        rfl
      · have hdrop : ds.dropWhile isZeroDigit ≠ [] := mt (dropWhile_eq_nil_iff hds).1 hzero
        have hds_ne : ds ≠ [] := by
          rintro rfl
          exact hzero rfl
        rw [Nat.mul_comm, ← Nat.toDigits_append_toDigits (by decide) (Nat.pos_of_ne_zero hzero) hx, List.map_append,
          ih hds_ne hds, significantDigits_of_dropWhile_ne_nil hdrop, Nat.toDigits_of_lt_base hx, hchar]
        rfl

end CpeMatch.Text
