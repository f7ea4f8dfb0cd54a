import Mathlib.Data.List.SplitBy
import CpeMatch.Text.Blank
import CpeMatch.Text.CaseFold
import CpeMatch.Text.DecimalDigit
import CpeMatch.Text.Letter
import CpeMatch.Text.Lower
import CpeMatch.Text.Percent

/-!
**The case of letters.**

Two texts differ in nothing but the case of ASCII letters if they are equal once these letters are small.
There are 26 capitals, so that whatever depends on one code point is compared for them and for nothing else.
A text and its small form have blanks, digits and letters at the same places, the same lower-case form and
the same case folding.  Percent-decoding is the one reader that looks at the letters of a text as octets:
there a letter is never part of a character of several octets, and hexadecimal digits have their values in
either case.

Main definitions:

* `CpeMatch.CodePoint.small`, `CpeMatch.Text.smallPoints`, `CpeMatch.Text.smallLetters` — code points and
  texts with small ASCII letters;
* `CpeMatch.CodePoint.capitalLetters` — the code points that this changes;
* `CpeMatch.Text.smallOctet`, `CpeMatch.Text.smallUnit` — the same for octets and for what is read of them.

Main results:

* `CpeMatch.CodePoint.apply_small` — **what depends on a code point is compared for the capitals**;
* `CpeMatch.Text.lower_smallLetters` — the lower-case form;
* `CpeMatch.Text.splitBy_map` — splitting;
* `CpeMatch.Text.utf8Scan_smallOctet` — reading octets;
* `CpeMatch.Text.smallPoints_percentDecode` — percent-decoding.
-/

set_option autoImplicit false

namespace CpeMatch

namespace CodePoint

/-! ### Code points -/

/-- A code point, but for a capital ASCII letter the small one. -/
def small (c : CodePoint) : CodePoint := c.mapChar Char.toLower

/-- The capital ASCII letters. -/
def capitalLetters : List CodePoint := (List.range 26).map fun n => char (Char.ofNat (65 + n))

theorem small_eq_self_or (c : CodePoint) : c.small = c ∨ c ∈ capitalLetters := by
  cases c with
  | surrogate n => exact Or.inl rfl
  | char c =>
      by_cases hc : c.val ≥ 'A'.val ∧ c.val ≤ 'Z'.val
      · have hlow : 65 ≤ c.toNat := hc.1
        have hhigh : c.toNat ≤ 90 := hc.2
        refine Or.inr (List.mem_map.2 ⟨c.toNat - 65, List.mem_range.2 (by omega), ?_⟩)
        rw [Nat.add_sub_cancel' hlow, Char.ofNat_toNat]
      · exact Or.inl (congrArg char (dif_neg hc))

/-- **What depends on a code point** is the same for its small form if this is so for the capitals. -/
theorem apply_small {α : Type} (f : CodePoint → α) (h : ∀ c ∈ capitalLetters, f c.small = f c)
    (c : CodePoint) : f c.small = f c := by
  rcases small_eq_self_or c with hc | hc
  · rw [hc]
  · exact h c hc

@[simp] theorem small_small (c : CodePoint) : c.small.small = c.small :=
  apply_small small (by decide) c

@[simp] theorem isAscii_small (c : CodePoint) : c.small.isAscii = c.isAscii :=
  apply_small isAscii (by decide) c

/-- A code point that is no letter is met in a text and in its small form alike. -/
theorem small_eq_iff {d : CodePoint} (hd : ∀ c ∈ capitalLetters, decide (c.small = d) = decide (c = d))
    (c : CodePoint) : c.small = d ↔ c = d :=
  decide_eq_decide.1 (apply_small (fun c => decide (c = d)) hd c)

theorem small_eq_colon_iff (c : CodePoint) : c.small = ':' ↔ c = ':' := small_eq_iff (by decide) c

theorem small_eq_backslash_iff (c : CodePoint) : c.small = '\\' ↔ c = '\\' := small_eq_iff (by decide) c

theorem small_eq_newline_iff (c : CodePoint) : c.small = '\n' ↔ c = '\n' := small_eq_iff (by decide) c

end CodePoint

namespace Text

open CodePoint (apply_small)

@[simp] theorem isBlank_small (c : CodePoint) : isBlank c.small = isBlank c :=
  apply_small isBlank (by decide) c

@[simp] theorem digitValue?_small (c : CodePoint) : digitValue? c.small = digitValue? c :=
  apply_small digitValue? (by decide) c

@[simp] theorem isDigit_small (c : CodePoint) : isDigit c.small = isDigit c := by
  rw [isDigit, isDigit, digitValue?_small]

@[simp] theorem isLetter_small (c : CodePoint) : isLetter c.small = isLetter c :=
  apply_small isLetter (by decide) c

@[simp] theorem foldPoint_small (c : CodePoint) : foldPoint c.small = foldPoint c :=
  apply_small foldPoint (by decide) c

@[simp] theorem lowerPoint_small (c : CodePoint) : lowerPoint c.small = lowerPoint c :=
  apply_small lowerPoint (by decide) c

/-! ### Texts -/

/-- The code points with small ASCII letters. -/
def smallPoints (cs : List CodePoint) : List CodePoint := cs.map CodePoint.small

/-- The text with small ASCII letters. -/
def smallLetters (t : Text) : Text := ⟨smallPoints t.points⟩

@[simp] theorem points_smallLetters (t : Text) : (smallLetters t).points = smallPoints t.points := rfl

@[simp] theorem smallPoints_nil : smallPoints [] = [] := rfl

@[simp] theorem smallPoints_cons (c : CodePoint) (cs : List CodePoint) :
    smallPoints (c :: cs) = c.small :: smallPoints cs := rfl

@[simp] theorem smallPoints_append (as bs : List CodePoint) :
    smallPoints (as ++ bs) = smallPoints as ++ smallPoints bs := List.map_append

theorem any_smallPoints {p : CodePoint → Bool} (hp : ∀ c : CodePoint, p c.small = p c)
    (cs : List CodePoint) : (smallPoints cs).any p = cs.any p := by
  rw [smallPoints, List.any_map]
  exact congrArg cs.any (funext hp)

theorem dropWhile_smallPoints {p : CodePoint → Bool} (hp : ∀ c : CodePoint, p c.small = p c)
    (cs : List CodePoint) : (smallPoints cs).dropWhile p = smallPoints (cs.dropWhile p) := by
  rw [smallPoints, List.dropWhile_map, show p ∘ CodePoint.small = p from funext hp]
  rfl

theorem stripPoints_smallPoints (cs : List CodePoint) :
    stripPoints (smallPoints cs) = smallPoints (stripPoints cs) := by
  have hreverse : ∀ ds : List CodePoint, (smallPoints ds).reverse = smallPoints ds.reverse := by
    intro ds
    exact List.map_reverse.symm
  simp only [stripPoints, dropWhile_smallPoints isBlank_small, hreverse]

@[simp] theorem strip_smallLetters (t : Text) : strip (smallLetters t) = smallLetters (strip t) :=
  congrArg Text.mk (stripPoints_smallPoints t.points)

/-- A text that has no letter in it is met among small forms only as itself. -/
theorem smallPoints_eq_iff {ds : List CodePoint}
    (hds : ∀ d ∈ ds, ∀ c ∈ CodePoint.capitalLetters, decide (c.small = d) = decide (c = d))
    (cs : List CodePoint) : smallPoints cs = ds ↔ cs = ds := by
  induction cs generalizing ds with
  | nil => rfl
  | cons c cs ih =>
      cases ds with
      | nil => simp
      | cons d ds =>
          have hrest : ∀ e ∈ ds, ∀ c ∈ CodePoint.capitalLetters, decide (c.small = e) = decide (c = e) :=
            fun e he => hds e (List.mem_cons_of_mem d he)
          rw [smallPoints_cons, List.cons.injEq, List.cons.injEq, ih hrest,
            CodePoint.small_eq_iff (hds d (List.mem_cons_self ..))]

theorem foldPoints_smallPoints (cs : List CodePoint) : foldPoints (smallPoints cs) = foldPoints cs := by
  rw [foldPoints, smallPoints, List.flatMap_map]
  exact congrArg (cs.flatMap ·) (funext foldPoint_small)

theorem natOfDigits_smallPoints (cs : List CodePoint) : natOfDigits (smallPoints cs) = natOfDigits cs := by
  rw [natOfDigits, smallPoints, List.foldl_map]
  simp only [digitValue?_small]
  rfl

/-! ### Lower case -/

theorem meetsCased_smallPoints (cs : List CodePoint) : meetsCased (smallPoints cs) = meetsCased cs := by
  rw [meetsCased, dropWhile_smallPoints (apply_small (inRanges caseIgnorableRanges) (by decide +kernel)), meetsCased]
  cases cs.dropWhile (inRanges caseIgnorableRanges) with
  | nil => rfl
  | cons c cs => exact apply_small (inRanges casedRanges) (by decide +kernel) c

theorem lowerAfter_smallPoints (before cs : List CodePoint) :
    lowerAfter (smallPoints before) (smallPoints cs) = lowerAfter before cs := by
  induction cs generalizing before with
  | nil => rfl
  | cons c cs ih =>
      have hsigma : c.small = 'Σ' ↔ c = 'Σ' := CodePoint.small_eq_iff (by decide) c
      have hdotted : c.small = 'İ' ↔ c = 'İ' := CodePoint.small_eq_iff (by decide) c
      have hends : endsWord (smallPoints before) (smallPoints cs) = endsWord before cs := by
        rw [endsWord, meetsCased_smallPoints, meetsCased_smallPoints, endsWord]
      have ih := ih (c :: before)
      rw [smallPoints_cons] at ih
      rw [smallPoints_cons, lowerAfter, lowerAfter, ih, hends, lowerPoint_small]
      simp only [hsigma, hdotted]

/-- The lower-case form does not depend on the case of letters. -/
@[simp] theorem lower_smallLetters (t : Text) : lower (smallLetters t) = lower t :=
  congrArg Text.mk (lowerAfter_smallPoints [] t.points)

/-! ### Splitting -/

/-- What is mapped in such a way that neighbours stay together or apart is split at the same places. -/
theorem splitBy_map {α : Type} (f : α → α) (r : α → α → Bool) (hf : ∀ a b, r (f a) (f b) = r a b)
    (l : List α) : (l.map f).splitBy r = (l.splitBy r).map (List.map f) := by
  rw [List.splitBy_eq_iff]
  refine ⟨?flatten, ?nonempty, ?together, ?apart⟩
  case flatten => rw [← List.map_flatten, List.flatten_splitBy]
  case nonempty =>
    intro hnil
    obtain ⟨run, hrun, hempty⟩ := List.mem_map.1 hnil
    rw [List.map_eq_nil_iff.1 hempty] at hrun
    exact List.nil_notMem_splitBy r l hrun
  case together =>
    intro run' hrun'
    obtain ⟨run, hrun, rfl⟩ := List.mem_map.1 hrun'
    rw [List.isChain_map]
    refine (List.isChain_of_mem_splitBy hrun).imp ?_
    intro a b hab
    rwa [hf]
  case apart =>
    rw [List.isChain_map]
    refine (List.isChain_getLast_head_splitBy r l).imp ?_
    rintro as bs ⟨has, hbs, hab⟩
    refine ⟨by simpa using has, by simpa using hbs, ?_⟩
    rwa [List.getLast_map, List.head_map, hf]

/-! ### Octets -/

/-- An octet, but for a capital ASCII letter the small one. -/
def smallOctet (b : UInt8) : UInt8 := if 65 ≤ b.toNat ∧ b.toNat ≤ 90 then UInt8.ofNat (b.toNat + 32) else b

/-- What is read of octets, with small ASCII letters. -/
def smallUnit : Utf8Unit → Utf8Unit
  | .ok c => .ok c.toLower
  | .error octets => .error octets

/-- An octet is either left alone, or it is a letter and so is what it becomes. -/
theorem smallOctet_eq_self_or (b : UInt8) : smallOctet b = b ∨
    b.toNat < 0x80 ∧ (smallOctet b).toNat < 0x80 ∧
      (Char.ofNat (smallOctet b).toNat).toLower = (Char.ofNat b.toNat).toLower := by
  by_cases hb : 65 ≤ b.toNat ∧ b.toNat ≤ 90
  · have hletters : ∀ n < 91, 65 ≤ n → (UInt8.ofNat (n + 32)).toNat < 0x80 ∧
        (Char.ofNat (UInt8.ofNat (n + 32)).toNat).toLower = (Char.ofNat n).toLower := by decide
    obtain ⟨hascii, hletter⟩ := hletters b.toNat (by omega) hb.1
    rw [smallOctet, if_pos hb]
    exact Or.inr ⟨by omega, hascii, hletter⟩
  · exact Or.inl (if_neg hb)

/-- The sequence goes on with octets beyond ASCII only. -/
def Utf8Pending.BeyondAscii (p : Utf8Pending) : Prop := 0x80 ≤ p.low

theorem beyondAscii_of_utf8Start {b : UInt8} {p : Utf8Pending} (h : utf8Start b = .more p) :
    p.BeyondAscii := by
  simp only [utf8Start] at h
  repeat' split at h
  all_goals cases h
  all_goals simp [Utf8Pending.BeyondAscii]

theorem Utf8Pending.beyondAscii_push {p q : Utf8Pending} {b : UInt8} (h : p.push b = .more q) :
    q.BeyondAscii := by
  rw [push] at h
  split at h
  · cases h
  · cases h
    exact Nat.le_refl 0x80

/-- What is read from an octet on that has the given meaning. -/
def utf8ScanNext (b : UInt8) (bs : List UInt8) : Utf8Start → List Utf8Unit
  | .done c => .ok c :: utf8ScanFrom none bs
  | .more p => utf8ScanFrom (some p) bs
  | .fault => .error [b] :: utf8ScanFrom none bs

theorem utf8ScanFrom_none_cons (b : UInt8) (bs : List UInt8) :
    utf8ScanFrom none (b :: bs) = utf8ScanNext b bs (utf8Start b) := by
  rw [utf8ScanFrom]
  exact List.nil_append _

theorem utf8ScanFrom_some_cons (p : Utf8Pending) (b : UInt8) (bs : List UInt8) :
    utf8ScanFrom (some p) (b :: bs) =
      if p.admits b then utf8ScanNext b bs (p.push b)
      else .error p.octets :: utf8ScanNext b bs (utf8Start b) := by
  rw [utf8ScanFrom]
  cases p.admits b with
  | true => exact List.nil_append _
  | false => rfl

/-- An ASCII octet breaks off a sequence that is not complete, and is a character by itself. -/
theorem utf8ScanFrom_ascii {pending : Option Utf8Pending} (hpending : ∀ p ∈ pending, p.BeyondAscii)
    {b : UInt8} (hb : b.toNat < 0x80) (bs : List UInt8) :
    utf8ScanFrom pending (b :: bs) =
      utf8ScanFrom pending [] ++ .ok (Char.ofNat b.toNat) :: utf8ScanFrom none bs := by
  have hstart : utf8Start b = .done (Char.ofNat b.toNat) := if_pos hb
  cases pending with
  | none =>
      rw [utf8ScanFrom_none_cons, hstart]
      rfl
  | some p =>
      have hadmits : p.admits b = false := by
        have hlow : 0x80 ≤ p.low := hpending p rfl
        rw [Utf8Pending.admits, decide_eq_false (by omega), Bool.false_and]
      rw [utf8ScanFrom_some_cons, hadmits, hstart]
      rfl

/-- **Letters are never part of a character of several octets**: reading does not depend on their case. -/
theorem utf8ScanFrom_smallOctet (pending : Option Utf8Pending) (hpending : ∀ p ∈ pending, p.BeyondAscii)
    (bs : List UInt8) :
    (utf8ScanFrom pending (bs.map smallOctet)).map smallUnit = (utf8ScanFrom pending bs).map smallUnit := by
  induction bs generalizing pending with
  | nil => rfl
  | cons b bs ih =>
      have hnone := ih none (by simp)
      rcases smallOctet_eq_self_or b with hself | ⟨hascii, hsmall, hletter⟩
      · have hnext : ∀ next : Utf8Start, (∀ p, next = .more p → p.BeyondAscii) →
            (utf8ScanNext b (bs.map smallOctet) next).map smallUnit =
              (utf8ScanNext b bs next).map smallUnit := by
          intro next hmore
          cases next with
          | done c => simp only [utf8ScanNext, List.map_cons, hnone]
          | more p => exact ih (some p) (by simpa using hmore p rfl)
          | fault => simp only [utf8ScanNext, List.map_cons, hnone]
        have hstart := hnext (utf8Start b) fun p hp => beyondAscii_of_utf8Start hp
        have hpush : ∀ p : Utf8Pending, _ := fun p =>
          hnext (p.push b) fun q hq => Utf8Pending.beyondAscii_push hq
        rw [List.map_cons, hself]
        cases pending with
        | none => rw [utf8ScanFrom_none_cons, utf8ScanFrom_none_cons, hstart]
        | some p =>
            rw [utf8ScanFrom_some_cons, utf8ScanFrom_some_cons]
            cases p.admits b with
            | true => exact hpush p
            | false => exact congrArg (.error p.octets :: ·) hstart
      · rw [List.map_cons, utf8ScanFrom_ascii hpending hascii, utf8ScanFrom_ascii hpending hsmall,
          List.map_append, List.map_append, List.map_cons, List.map_cons, hnone, smallUnit, smallUnit,
          hletter]

theorem utf8Scan_smallOctet (bs : List UInt8) :
    (utf8Scan (bs.map smallOctet)).map smallUnit = (utf8Scan bs).map smallUnit :=
  utf8ScanFrom_smallOctet none (by simp) bs

/-- The characters that octets encode, with small ASCII letters. -/
theorem utf8DecodeReplacing_smallOctet (bs : List UInt8) :
    (utf8DecodeReplacing (bs.map smallOctet)).map Char.toLower =
      (utf8DecodeReplacing bs).map Char.toLower := by
  have hchars : ∀ octets : List UInt8, (utf8DecodeReplacing octets).map Char.toLower =
      ((utf8Scan octets).map smallUnit).map fun | .ok c => c | .error _ => '\uFFFD' := by
    intro octets
    rw [utf8DecodeReplacing, List.map_map, List.map_map]
    refine List.map_congr_left ?_
    intro u _
    cases u <;> rfl
  rw [hchars, hchars, utf8Scan_smallOctet]

/-! ### Percent-decoding -/

theorem hexValue?_toLower (c : Char) : hexValue? c.toLower = hexValue? c :=
  CodePoint.apply_small (fun p => p.char?.bind hexValue?) (by decide) (.char c)

theorem toLower_eq_percent_iff (c : Char) : c.toLower = '%' ↔ c = '%' := by
  have h := CodePoint.small_eq_iff (d := .char '%') (by decide) (.char c)
  simpa [CodePoint.small] using h

/-- The octet of a letter. -/
theorem smallOctet_toLower (c : Char) :
    smallOctet (UInt8.ofNat c.toLower.toNat) = smallOctet (UInt8.ofNat c.toNat) :=
  CodePoint.apply_small (fun p => smallOctet (UInt8.ofNat p.toNat)) (by decide) (.char c)

theorem hexOctet?_toLower (high low : Char) : hexOctet? high.toLower low.toLower = hexOctet? high low := by
  rw [hexOctet?, hexValue?_toLower, hexValue?_toLower, hexOctet?]

/-- The octets of a stretch do not depend on the case of letters, but for that of the octets that are
letters themselves. -/
theorem percentOctets_toLower (cs : List Char) :
    (percentOctets (cs.map Char.toLower)).map smallOctet = (percentOctets cs).map smallOctet := by
  have hpercent : Char.toLower '%' = '%' := rfl
  fun_induction percentOctets cs with
  | case1 => rfl
  | case2 c => simp only [List.map_cons, List.map_nil, percentOctets, smallOctet_toLower]
  | case3 c d => simp only [List.map_cons, List.map_nil, percentOctets, smallOctet_toLower]
  | case4 high low cs b hb ih =>
      simp only [List.map_cons, percentOctets, hpercent, if_true, hexOctet?_toLower, hb, ih]
  | case5 high low cs hb ih =>
      rw [List.map_cons, List.map_cons] at ih
      simp only [List.map_cons, percentOctets, hpercent, if_true, hexOctet?_toLower, hb, ih]
  | case6 c high low cs hc ih =>
      rw [List.map_cons, List.map_cons] at ih
      have hc : c.toLower ≠ '%' := fun h => hc ((toLower_eq_percent_iff c).1 h)
      simp only [List.map_cons, percentOctets, hc, if_false, smallOctet_toLower, ih]

/-- One stretch, decoded. -/
theorem smallPoints_percentDecodeRun (cs : List CodePoint) :
    smallPoints (percentDecodeRun (smallPoints cs)) = smallPoints (percentDecodeRun cs) := by
  have hall : (smallPoints cs).all CodePoint.isAscii = cs.all CodePoint.isAscii := by
    rw [smallPoints, List.all_map]
    exact congrArg cs.all (funext CodePoint.isAscii_small)
  have hchars : (smallPoints cs).filterMap CodePoint.char? =
      (cs.filterMap CodePoint.char?).map Char.toLower := by
    rw [smallPoints, List.filterMap_map, List.map_filterMap]
    refine List.filterMap_congr ?_
    intro c _
    cases c <;> rfl
  have hsmall : ∀ ds : List Char,
      smallPoints (ds.map CodePoint.char) = (ds.map Char.toLower).map CodePoint.char := by
    intro ds
    rw [smallPoints, List.map_map, List.map_map]
    rfl
  rw [percentDecodeRun, hall, percentDecodeRun]
  split
  · -- octets that are letters are told apart by their case only, before they are read and after
    rw [hchars, hsmall, hsmall, ← utf8DecodeReplacing_smallOctet, percentOctets_toLower,
      utf8DecodeReplacing_smallOctet]
  · rw [smallPoints, smallPoints, List.map_map]
    exact List.map_congr_left fun c _ => CodePoint.small_small c

/-- **Percent-decoding** does not depend on the case of letters, but for that of letters that stand for
themselves. -/
theorem smallPoints_percentDecode (cs : List CodePoint) :
    smallPoints (percentDecode (smallPoints cs)) = smallPoints (percentDecode cs) := by
  have hstretches : (smallPoints cs).splitBy (fun a b => a.isAscii == b.isAscii) =
      (cs.splitBy fun a b => a.isAscii == b.isAscii).map smallPoints := by
    refine splitBy_map CodePoint.small _ ?_ cs
    intro a b
    rw [CodePoint.isAscii_small, CodePoint.isAscii_small]
  rw [percentDecode, hstretches, List.flatMap_map, smallPoints, List.map_flatMap, percentDecode,
    smallPoints, List.map_flatMap]
  exact congrArg (List.flatMap · _) (funext smallPoints_percentDecodeRun)

end Text

end CpeMatch
