import Mathlib.Algebra.Group.Nat.Defs
import Mathlib.Data.List.Basic
import CpeMatch.Text.Utf8

/-!
**The octets of a character are read back.**

A character beyond ASCII is written as a first octet with its upper bits and then, six bits at a time, in
continuation octets.  While they are read, the bits of the octets so far are those of the character without
the ones that are still owed.  The bounds of the second octet rule out surrogates and what is written in
more octets than it needs, neither of which a character is.

Main definitions:

* `CpeMatch.Text.continuation` — the continuation octets of a number;
* `CpeMatch.Text.Utf8Pending.Awaits` — what has been read of a character is all but its last octets.

Main results:

* `CpeMatch.Text.Utf8Pending.Awaits.push`, `CpeMatch.Text.Utf8Pending.Awaits.scan` — **one octet more, and
  all the octets that are owed**;
* `CpeMatch.Text.utf8Scan_encodeChar` — the octets of one character;
* `CpeMatch.Text.utf8DecodeReplacing_encode`, `CpeMatch.Text.utf8Decode?_encode` — **the octets of characters are
  read back**.
-/

set_option autoImplicit false

namespace CpeMatch.Text

/-! ### Continuation octets -/

/-- The octet with six bits of `n`, those that have `k` times six below them. -/
def continuationOctet (n k : Nat) : UInt8 := UInt8.ofNat (n / 64 ^ k % 64 + 128)

/-- The last `k` continuation octets of `n`. -/
def continuation (n : Nat) : Nat → List UInt8
  | 0 => []
  | k + 1 => continuationOctet n k :: continuation n k

theorem toNat_continuationOctet (n k : Nat) : (continuationOctet n k).toNat = n / 64 ^ k % 64 + 128 := by
  rw [continuationOctet, UInt8.toNat_ofNat']
  omega

namespace Utf8Pending

/-- The octets read so far are those of the character of number `n`, but for its last `k + 1`. -/
structure Awaits (p : Utf8Pending) (n k : Nat) : Prop where
  owed : p.owed = k + 1
  code : p.code = n / 64 ^ (k + 1)
  admits : p.admits (continuationOctet n k) = true

namespace Awaits

variable {p : Utf8Pending} {n k : Nat}

/-- The octet that comes next adds its six bits. -/
theorem code_push (h : p.Awaits n k) : p.code * 64 + (continuationOctet n k).toNat % 64 = n / 64 ^ k := by
  rw [toNat_continuationOctet, h.code, Nat.pow_succ, ← Nat.div_div_eq_div_mul]
  omega

/-- The last octet completes the character. -/
theorem push_last (h : p.Awaits n 0) : p.push (continuationOctet n 0) = .done (Char.ofNat n) := by
  have hcode := h.code_push
  rw [Nat.pow_zero, Nat.div_one] at hcode
  rw [push, hcode, if_pos (Nat.le_of_eq h.owed)]

/-- **One octet more.** -/
theorem push (h : p.Awaits n (k + 1)) :
    ∃ q : Utf8Pending, p.push (continuationOctet n (k + 1)) = .more q ∧ q.Awaits n k := by
  refine ⟨⟨p.owed - 1, 0x80, 0xBF, p.octets ++ [continuationOctet n (k + 1)], n / 64 ^ (k + 1)⟩, ?_, ?_, rfl,
    ?_⟩
  · rw [Utf8Pending.push, h.code_push, if_neg (by rw [h.owed]; omega)]
  · simp only [h.owed]
    omega
  · simp only [Utf8Pending.admits, toNat_continuationOctet, Bool.and_eq_true, decide_eq_true_eq]
    omega

/-- **All the octets that are owed.** -/
theorem scan (h : p.Awaits n k) (rest : List UInt8) :
    utf8ScanFrom (some p) (continuation n (k + 1) ++ rest) =
      .ok (Char.ofNat n) :: utf8ScanFrom none rest := by
  induction k generalizing p with
  | zero =>
      rw [continuation, continuation, List.singleton_append, utf8ScanFrom]
      simp only [h.admits, if_true, h.push_last, List.nil_append]
  | succ k ih =>
      obtain ⟨q, hq, hawaits⟩ := h.push
      rw [continuation, List.cons_append, utf8ScanFrom]
      simp only [h.admits, if_true, hq, List.nil_append]
      exact ih hawaits

end Awaits

end Utf8Pending

/-! ### First octets -/

/-- The octets of a character whose first octet begins it. -/
theorem utf8Scan_lead {n k : Nat} {lead : UInt8} {p : Utf8Pending} (hlead : utf8Start lead = .more p)
    (h : p.Awaits n k) (rest : List UInt8) :
    utf8Scan (lead :: continuation n (k + 1) ++ rest) = .ok (Char.ofNat n) :: utf8Scan rest := by
  rw [utf8Scan, List.cons_append, utf8ScanFrom]
  simp only [hlead, List.nil_append]
  exact h.scan rest

/-- The first octet of two. -/
theorem utf8Start_two {n : Nat} (hlow : 0x80 ≤ n) (hhigh : n ≤ 0x7FF) :
    ∃ p : Utf8Pending, utf8Start (UInt8.ofNat (n / 64 % 32 + 192)) = .more p ∧ p.Awaits n 0 := by
  have hoctet : (UInt8.ofNat (n / 64 % 32 + 192)).toNat = n / 64 + 192 := by
    rw [UInt8.toNat_ofNat']
    omega
  refine ⟨⟨1, 0x80, 0xBF, [UInt8.ofNat (n / 64 % 32 + 192)], n / 64⟩, ?_, rfl, by simp, ?_⟩
  · simp only [utf8Start, hoctet]
    rw [if_neg (by omega), if_neg (by omega), if_pos (by omega), Nat.add_sub_cancel]
  · simp only [Utf8Pending.admits, toNat_continuationOctet, Bool.and_eq_true, decide_eq_true_eq]
    omega

/-- The first octet of three, which are those of no surrogate. -/
theorem utf8Start_three {n : Nat} (hlow : 0x800 ≤ n) (hhigh : n ≤ 0xFFFF)
    (hchar : n < 0xD800 ∨ 0xDFFF < n) :
    ∃ p : Utf8Pending, utf8Start (UInt8.ofNat (n / 4096 % 16 + 224)) = .more p ∧ p.Awaits n 1 := by
  have hoctet : (UInt8.ofNat (n / 4096 % 16 + 224)).toNat = n / 4096 + 224 := by
    rw [UInt8.toNat_ofNat']
    omega
  have hawaits : ∀ (low high code : Nat) (octets : List UInt8), code = n / 4096 →
      low ≤ n / 64 % 64 + 128 → n / 64 % 64 + 128 ≤ high →
      Utf8Pending.Awaits ⟨2, low, high, octets, code⟩ n 1 := by
    intro low high code octets hcode h h'
    refine ⟨rfl, hcode, ?_⟩
    simp only [Utf8Pending.admits, toNat_continuationOctet, Bool.and_eq_true, decide_eq_true_eq]
    exact ⟨h, h'⟩
  simp only [utf8Start, hoctet]
  rw [if_neg (by omega), if_neg (by omega), if_neg (by omega)]
  by_cases hfirst : n / 4096 = 0
  · -- what is written in three octets needs them
    exact ⟨_, if_pos (by omega), hawaits 0xA0 0xBF 0 _ hfirst.symm (by omega) (by omega)⟩
  · rw [if_neg (by omega)]
    by_cases hlast : n / 4096 = 13
    · exact ⟨_, if_pos (by omega), hawaits 0x80 0x9F 13 _ hlast.symm (by omega) (by omega)⟩
    · rw [if_neg (by omega), if_pos (by omega), Nat.add_sub_cancel]
      exact ⟨_, rfl, hawaits 0x80 0xBF _ _ rfl (by omega) (by omega)⟩

/-- The first octet of four, which are those of a code point. -/
theorem utf8Start_four {n : Nat} (hlow : 0x10000 ≤ n) (hhigh : n < 0x110000) :
    ∃ p : Utf8Pending, utf8Start (UInt8.ofNat (n / 262144 % 8 + 240)) = .more p ∧ p.Awaits n 2 := by
  have hoctet : (UInt8.ofNat (n / 262144 % 8 + 240)).toNat = n / 262144 + 240 := by
    rw [UInt8.toNat_ofNat']
    omega
  have hawaits : ∀ (low high code : Nat) (octets : List UInt8), code = n / 262144 →
      low ≤ n / 4096 % 64 + 128 → n / 4096 % 64 + 128 ≤ high →
      Utf8Pending.Awaits ⟨3, low, high, octets, code⟩ n 2 := by
    intro low high code octets hcode h h'
    refine ⟨rfl, hcode, ?_⟩
    simp only [Utf8Pending.admits, toNat_continuationOctet, Bool.and_eq_true, decide_eq_true_eq]
    exact ⟨h, h'⟩
  simp only [utf8Start, hoctet]
  rw [if_neg (by omega), if_neg (by omega), if_neg (by omega), if_neg (by omega), if_neg (by omega),
    if_neg (by omega)]
  by_cases hfirst : n / 262144 = 0
  · -- what is written in four octets needs them
    exact ⟨_, if_pos (by omega), hawaits 0x90 0xBF 0 _ hfirst.symm (by omega) (by omega)⟩
  · rw [if_neg (by omega)]
    by_cases hlast : n / 262144 = 4
    · rw [if_neg (by omega), if_pos (by omega)]
      exact ⟨_, rfl, hawaits 0x80 0x8F 4 _ hlast.symm (by omega) (by omega)⟩
    · rw [if_pos (by omega), Nat.add_sub_cancel]
      exact ⟨_, rfl, hawaits 0x80 0xBF _ _ rfl (by omega) (by omega)⟩

/-! ### Characters -/

/-- **The octets of one character.** -/
theorem utf8Scan_encodeChar (c : Char) (rest : List UInt8) :
    utf8Scan (String.utf8EncodeChar c ++ rest) = .ok c :: utf8Scan rest := by
  have hchar : c.toNat < 0xD800 ∨ 0xDFFF < c.toNat ∧ c.toNat < 0x110000 := c.valid
  have hself : Char.ofNat c.toNat = c := Char.ofNat_toNat c
  have hvalue : c.val.toNat = c.toNat := rfl
  simp only [String.utf8EncodeChar, hvalue]
  split
  next hone =>
    have hoctet : (UInt8.ofNat c.toNat).toNat = c.toNat := by
      rw [UInt8.toNat_ofNat']
      omega
    rw [List.singleton_append, utf8Scan_ascii _ _ (by omega), hoctet, hself]
  next =>
    split
    next htwo =>
      obtain ⟨p, hlead, hawaits⟩ := utf8Start_two (n := c.toNat) (by omega) htwo
      have h := utf8Scan_lead hlead hawaits rest
      rw [hself] at h
      simpa [continuation, continuationOctet] using h
    next =>
      split
      next hthree =>
        obtain ⟨p, hlead, hawaits⟩ := utf8Start_three (n := c.toNat) (by omega) hthree (by omega)
        have h := utf8Scan_lead hlead hawaits rest
        rw [hself] at h
        simpa [continuation, continuationOctet] using h
      next =>
        obtain ⟨p, hlead, hawaits⟩ := utf8Start_four (n := c.toNat) (by omega) (by omega)
        have h := utf8Scan_lead hlead hawaits rest
        rw [hself] at h
        simpa [continuation, continuationOctet] using h

theorem utf8Scan_encode (cs : List Char) : utf8Scan (cs.flatMap String.utf8EncodeChar) = cs.map .ok := by
  induction cs with
  | nil => rfl
  | cons c cs ih => rw [List.flatMap_cons, utf8Scan_encodeChar, ih, List.map_cons]

/-- **The octets of characters are read back.** -/
theorem utf8DecodeReplacing_encode (cs : List Char) :
    utf8DecodeReplacing (cs.flatMap String.utf8EncodeChar) = cs := by
  rw [utf8DecodeReplacing, utf8Scan_encode, List.map_map]
  exact List.map_id cs

/-- There is no fault in them. -/
theorem utf8Decode?_encode (cs : List Char) : utf8Decode? (cs.flatMap String.utf8EncodeChar) = some cs := by
  rw [utf8Decode?, utf8Scan_encode]
  induction cs with
  | nil => rfl
  | cons c cs ih =>
      rw [List.map_cons, List.mapM_cons, ih]
      rfl

end CpeMatch.Text
