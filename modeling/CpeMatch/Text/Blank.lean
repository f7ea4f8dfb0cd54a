import CpeMatch.Text.CodeRange

/-!
**Blank characters.**

The characters that count as blank at the ends of a text are those with bidirectional class
whitespace or a separator, the four information separators `U+001C` to `U+001F` among them.

Main definitions:

* `CpeMatch.Text.isBlank` — whether a character is blank;
* `CpeMatch.Text.strip` — a text without the blanks at its two ends.
-/

set_option autoImplicit false

namespace CpeMatch.Text

/-- The runs of blank characters. -/
def blankRanges : List (Nat × Nat) :=
  [(0x9, 0xd), (0x1c, 0x20), (0x85, 0x85), (0xa0, 0xa0), (0x1680, 0x1680), (0x2000, 0x200a),
   (0x2028, 0x2029), (0x202f, 0x202f), (0x205f, 0x205f), (0x3000, 0x3000)]

/-- Whether `c` is blank. -/
def isBlank (c : CodePoint) : Bool := inRanges blankRanges c

/-- The code points of a text without the blank ones at either end. -/
def stripPoints (cs : List CodePoint) : List CodePoint :=
  ((cs.dropWhile isBlank).reverse.dropWhile isBlank).reverse

/-- The text without the blank characters at either end. -/
def strip (s : Text) : Text := ⟨stripPoints s.points⟩

/-- What neither begins nor ends with a blank stays as it is. -/
theorem stripPoints_eq_self {cs : List CodePoint} (hfirst : ∀ c ∈ cs.head?, isBlank c = false)
    (hlast : ∀ c ∈ cs.getLast?, isBlank c = false) : stripPoints cs = cs := by
  have hdrop : ∀ ds : List CodePoint, (∀ c ∈ ds.head?, isBlank c = false) → ds.dropWhile isBlank = ds := by
    intro ds h
    cases ds with
    | nil => rfl
    | cons d ds => rw [List.dropWhile_cons_of_neg (by simp [h d rfl])]
  rw [stripPoints, hdrop cs hfirst, hdrop cs.reverse (by rwa [List.head?_reverse]), List.reverse_reverse]

/-- What is taken off at the ends is blank. -/
theorem exists_eq_append_stripPoints (cs : List CodePoint) :
    ∃ before after, cs = before ++ stripPoints cs ++ after ∧
      (∀ c ∈ before, isBlank c = true) ∧ ∀ c ∈ after, isBlank c = true := by
  have hblank : ∀ ds : List CodePoint, ∀ c ∈ ds.takeWhile isBlank, isBlank c = true := by
    intro ds
    exact List.all_eq_true.1 List.all_takeWhile
  refine ⟨cs.takeWhile isBlank, ((cs.dropWhile isBlank).reverse.takeWhile isBlank).reverse, ?_,
    hblank cs, ?_⟩
  · rw [List.append_assoc, stripPoints, ← List.reverse_append, List.takeWhile_append_dropWhile,
      List.reverse_reverse, List.takeWhile_append_dropWhile]
  · intro c hc
    exact hblank _ c (List.mem_reverse.1 hc)

/-- What is left neither begins nor ends with a blank. -/
theorem isBlank_of_mem_ends {cs : List CodePoint} {c : CodePoint}
    (h : c ∈ (stripPoints cs).head? ∨ c ∈ (stripPoints cs).getLast?) : isBlank c = false := by
  have hfirst : ∀ ds : List CodePoint, ∀ d ∈ (ds.dropWhile isBlank).head?, isBlank d = false := by
    intro ds d hd
    have hhead := List.head?_dropWhile_not isBlank ds
    rw [Option.mem_def.1 hd] at hhead
    exact hhead
  rcases h with h | h
  · -- what is taken off at the end leaves the first code point as it is
    have hprefix : stripPoints cs <+: cs.dropWhile isBlank := by
      rw [stripPoints, ← List.reverse_suffix, List.reverse_reverse]
      exact List.dropWhile_suffix isBlank
    obtain ⟨blanks, hblanks⟩ := hprefix
    refine hfirst cs c ?_
    rw [← hblanks, List.head?_append, Option.mem_def.1 h]
    rfl
  · rw [stripPoints, List.getLast?_reverse] at h
    exact hfirst _ c h

@[simp] theorem stripPoints_nil : stripPoints [] = [] := rfl

@[simp] theorem points_strip (s : Text) : (strip s).points = stripPoints s.points := rfl

@[simp] theorem strip_strip (s : Text) : strip (strip s) = strip s := by
  rw [strip, points_strip, stripPoints_eq_self]
  · rfl
  · exact fun c hc => isBlank_of_mem_ends (Or.inl hc)
  · exact fun c hc => isBlank_of_mem_ends (Or.inr hc)

end CpeMatch.Text
