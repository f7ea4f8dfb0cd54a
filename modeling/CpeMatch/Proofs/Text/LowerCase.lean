import CpeMatch.Proofs.Text.Order
import CpeMatch.Text.Lower

/-!
**Lower case is reached in one step.**

The small form of a capital letter is no capital letter itself, so that the lower-case form of a text is
its own lower-case form.  The tables of capital letters are runs of code points, each moved by a fixed
distance; what has to be checked of them is that no run is moved onto another, and this is a finite
comparison of the ends of the runs.

* `CpeMatch.Text.capitals` — the runs of all capital letters but `İ`, and
  `CpeMatch.Text.lowerPoint_eq_shiftBy`;
* `CpeMatch.Text.ShiftRun.avoids` — a run is not moved onto another, and
  `CpeMatch.Text.ShiftRun.covers_image` — what that means for a code point;
* `CpeMatch.Text.isSmall` — a code point is no capital letter;
* `CpeMatch.Text.lower_lower` — **lowering is idempotent**;
* `CpeMatch.Text.length_lowerAfter` — how long a lower-case form is.
-/

set_option autoImplicit false

namespace CpeMatch

namespace CodePoint

/-- The code point of a number in the range of code points has that number. -/
theorem toNat_ofNat {n : Nat} (h : n < 0x110000) : (ofNat n).toNat = n := by
  unfold ofNat
  split
  · simp only [toNat]
    omega
  · rename_i hn
    have hv : n.isValidChar := by
      simp only [firstSurrogate] at hn
      simp only [Nat.isValidChar]
      omega
    rw [toNat_char, Char.ofNat, dif_pos hv]
    rfl

/-- An ASCII code point is the character of its number. -/
theorem eq_char_ofNat_of_isAscii {c : CodePoint} (h : c.isAscii = true) :
    c = char (Char.ofNat c.toNat) := by
  cases c with
  | char c => simp
  | surrogate n =>
      have hn := le_toNat_surrogate n
      simp only [isAscii, decide_eq_true_eq] at h
      omega

end CodePoint

namespace Text

/-! ### Runs of capital letters -/

/-- The code point of a run that the number `n` is moved to. -/
def ShiftRun.image (run : ShiftRun) (n : Nat) : Nat := Int.toNat (n + run.shift)

/-- Whether a run is moved, within the range of code points, to where no code point is covered by
another: they lie apart, or the two go through numbers of different parity. -/
def ShiftRun.avoids (run other : ShiftRun) : Bool :=
  decide (0 ≤ run.first + run.shift) && Nat.blt (run.image run.last) 0x110000 &&
    (Nat.blt (run.image run.last) other.first || Nat.blt other.last (run.image run.first) ||
      (other.step == 2 && (run.step == 2 || run.first == run.last) &&
        Nat.beq ((run.image run.first + other.first) % 2) 1))

/-- A run that does not go below zero moves every number from its first on by the same distance. -/
theorem ShiftRun.image_eq {run : ShiftRun} (hpos : 0 ≤ run.first + run.shift) {n : Nat}
    (hn : run.first ≤ n) : (run.image n : Int) = n + run.shift := by
  simp only [image]
  omega

/-- A code point covered by a run is moved to one that an avoided run does not cover. -/
theorem ShiftRun.covers_image {run other : ShiftRun} (h : run.avoids other = true) {c : CodePoint}
    (hc : run.covers c = true) : other.covers (CodePoint.ofNat (run.image c.toNat)) = false := by
  simp only [avoids, Bool.and_eq_true, Bool.or_eq_true, decide_eq_true_eq, beq_iff_eq,
    Nat.blt_eq, Nat.beq_eq] at h
  simp only [covers, Bool.and_eq_true, decide_eq_true_eq, beq_iff_eq] at hc
  obtain ⟨⟨hpos, hrange⟩, hapart⟩ := h
  obtain ⟨⟨hfirst, hlast⟩, hstep⟩ := hc
  have hc' := image_eq hpos hfirst
  have hfirst' := image_eq hpos (Nat.le_refl run.first)
  have hlast' := image_eq hpos (Nat.le_trans hfirst hlast)
  have himage : (CodePoint.ofNat (run.image c.toNat)).toNat = run.image c.toNat :=
    CodePoint.toNat_ofNat (by omega)
  simp only [covers, himage, Bool.and_eq_false_iff, decide_eq_false_iff_not, beq_eq_false_iff_ne]
  rcases hapart with (hbelow | habove) | ⟨⟨hother, hparity⟩, hodd⟩
  · exact Or.inl (Or.inl (by omega))
  · exact Or.inl (Or.inr (by omega))
  · by_cases hin : other.first ≤ run.image c.toNat
    · refine Or.inr ?_
      rw [hother]
      -- the number moved and the first of its run have the same parity
      rcases hparity with htwo | hone
      · rw [htwo] at hstep
        omega
      · omega
    · exact Or.inl (Or.inl hin)

/-- The runs of all capital letters but `İ`. -/
def capitals : List ShiftRun := ⟨0x41, 0x5a, 1, 32⟩ :: lowerShifts

theorem lowerPoint_ascii (n : Fin 128) :
    lowerPoint (Char.ofNat n) = shiftBy capitals (Char.ofNat n) := by
  revert n
  decide +kernel

/-- Lowering a code point moves it by the run that covers it, among the ASCII letters too. -/
theorem lowerPoint_eq_shiftBy (c : CodePoint) : lowerPoint c = shiftBy capitals c := by
  by_cases h : c.isAscii = true
  · rw [CodePoint.eq_char_ofNat_of_isAscii h]
    have hc : c.toNat < 128 := by simpa [CodePoint.isAscii] using h
    exact lowerPoint_ascii ⟨c.toNat, hc⟩
  · have hc : ¬ c.toNat < 128 := by simpa [CodePoint.isAscii] using h
    have hfirst : ShiftRun.covers ⟨0x41, 0x5a, 1, 32⟩ c = false := by
      simp only [ShiftRun.covers, Bool.and_eq_false_iff, decide_eq_false_iff_not]
      omega
    simp [lowerPoint, h, shiftBy, capitals, hfirst]

/-! ### Small letters -/

/-- Whether a code point is no capital letter. -/
def isSmall (c : CodePoint) : Bool := !(⟨0x130, 0x130, 1, 0⟩ :: capitals).any (·.covers c)

theorem capitals_avoid :
    (capitals.all fun run => (⟨0x130, 0x130, 1, 0⟩ :: capitals).all run.avoids) = true := by
  decide +kernel

/-- A code point other than `İ` has a small form that is no capital letter. -/
theorem isSmall_lowerPoint {c : CodePoint} (hc : c ≠ 'İ') : isSmall (lowerPoint c) = true := by
  rw [lowerPoint_eq_shiftBy, shiftBy]
  cases hf : capitals.find? (·.covers c) with
  | none =>
      have hi : ShiftRun.covers ⟨0x130, 0x130, 1, 0⟩ c = false := by
        by_contra h
        simp only [Bool.not_eq_false, ShiftRun.covers, Bool.and_eq_true, decide_eq_true_eq] at h
        exact hc (CodePoint.toNat_injective (Nat.le_antisymm h.1.2 h.1.1))
      simp only [List.find?_eq_none] at hf
      simp only [isSmall, List.any_cons, hi, Bool.false_or, Bool.not_eq_true', List.any_eq_false]
      exact hf
  | some run =>
      have hmem := List.mem_of_find?_eq_some hf
      have hcov : run.covers c = true := by simpa using List.find?_some hf
      have havoid := List.all_eq_true.1 (List.all_eq_true.1 capitals_avoid run hmem)
      simp only [isSmall, Bool.not_eq_true', List.any_eq_false]
      intro other hother
      rw [Bool.not_eq_true]
      exact ShiftRun.covers_image (havoid other hother) hcov

/-- A code point that is no capital letter is its own small form. -/
theorem lowerPoint_of_isSmall {c : CodePoint} (h : isSmall c = true) : lowerPoint c = c := by
  simp only [isSmall, Bool.not_eq_true', List.any_cons, Bool.or_eq_false_iff, List.any_eq_false] at h
  rw [lowerPoint_eq_shiftBy, shiftBy, List.find?_eq_none.2 h.2]

/-- Every code point of a lower-case form is no capital letter. -/
theorem isSmall_of_mem_lowerAfter {before cs : List CodePoint} {d : CodePoint}
    (hd : d ∈ lowerAfter before cs) : isSmall d = true := by
  induction cs generalizing before with
  | nil => simp [lowerAfter] at hd
  | cons c cs ih =>
      rw [lowerAfter] at hd
      rcases List.mem_append.1 hd with hd | hd
      · by_cases hs : c = 'Σ'
        · rw [if_pos hs, List.mem_singleton] at hd
          subst hd
          split <;> decide +kernel
        · by_cases hi : c = 'İ'
          · rw [if_neg hs, if_pos hi] at hd
            rcases List.mem_cons.1 hd with rfl | hd
            · decide +kernel
            · rw [List.mem_singleton] at hd
              subst hd
              decide +kernel
          · rw [if_neg hs, if_neg hi, List.mem_singleton] at hd
            subst hd
            exact isSmall_lowerPoint hi
      · exact ih hd

/-- A text without capital letters is lowered to itself. -/
theorem lowerAfter_of_isSmall (before : List CodePoint) {cs : List CodePoint}
    (h : ∀ c ∈ cs, isSmall c = true) : lowerAfter before cs = cs := by
  induction cs generalizing before with
  | nil => rfl
  | cons c cs ih =>
      have hc := h c (List.mem_cons_self ..)
      have hs : c ≠ 'Σ' := by
        rintro rfl
        exact absurd hc (by decide +kernel)
      have hi : c ≠ 'İ' := by
        rintro rfl
        exact absurd hc (by decide +kernel)
      rw [lowerAfter, if_neg hs, if_neg hi, lowerPoint_of_isSmall hc,
        ih _ fun d hd => h d (List.mem_cons_of_mem c hd)]
      rfl

/-- **Lowering is idempotent.** -/
@[simp] theorem lower_lower (s : Text) : lower (lower s) = lower s := by
  unfold lower
  rw [lowerAfter_of_isSmall [] fun c hc => isSmall_of_mem_lowerAfter hc]

/-! ### Lengths -/

/-- Lowering makes a text longer by one code point for each `İ`. -/
theorem length_lowerAfter (before cs : List CodePoint) :
    (lowerAfter before cs).length = cs.length + cs.count (CodePoint.char 'İ') := by
  induction cs generalizing before with
  | nil => rfl
  | cons c cs ih =>
      rw [lowerAfter, List.length_append, ih, List.length_cons, List.count_cons]
      by_cases hs : c = 'Σ'
      · subst hs
        simp
        omega
      · by_cases hi : c = 'İ'
        · subst hi
          simp
          omega
        · simp [hs, hi]
          omega

/-- A text with something behind it does not have the lower-case form that it has without. -/
theorem lower_append_ne {s t : Text} (ht : t.points ≠ []) : lower (s ++ t) ≠ lower s := by
  intro h
  have hlength := congrArg (fun u => u.points.length) h
  have hpos := List.length_pos_iff.2 ht
  simp only [points_lower, length_lowerAfter, points_append, List.length_append,
    List.count_append] at hlength
  omega

end Text

end CpeMatch
