import CpeMatch.Cpe
import CpeMatch.Proofs.Text.LetterCase
import CpeMatch.Proofs.Version.Update

/-!
**Names that differ in the case of letters.**

A name is read in steps, and each step takes texts that differ in the case of letters to such texts again:
the scheme is found in any case, fields end at the same places, backslashes are taken away at the same
places, and percent-decoding leaves letters in the case in which they stand.  At the end vendor and product
are lowered and the words of the version are folded, so that the difference is gone.

Main definitions:

* `CpeMatch.Cpe.Alike` — two names say the same vendor and product, and versions with the same tokens.

Main results:

* `CpeMatch.Version.usableTokens_smallPoints`, `CpeMatch.Version.tokens_ofParts_smallLetters` — the tokens of a
  version;
* `CpeMatch.Cpe.splitFields_smallPoints`, `CpeMatch.Cpe.unescape_smallPoints` — the fields of a name;
* `CpeMatch.Cpe.parse_alike` — **what a name says does not depend on the case of letters**.
-/

set_option autoImplicit false

namespace CpeMatch

open Text (smallPoints smallLetters)

/-! ### Versions -/

namespace Version

@[simp] theorem classOf_small (c : CodePoint) : classOf c.small = classOf c := by
  rw [classOf, Text.isDigit_small, Text.isLetter_small, classOf]

theorem runs_smallPoints (cs : List CodePoint) : runs (smallPoints cs) = (runs cs).map smallPoints := by
  refine Text.splitBy_map CodePoint.small sameClass ?_ cs
  intro a b
  rw [sameClass, classOf_small, classOf_small, sameClass]

theorem tokenOf?_smallPoints (run : List CodePoint) : tokenOf? (smallPoints run) = tokenOf? run := by
  cases run with
  | nil => rfl
  | cons c cs =>
      rw [Text.smallPoints_cons, tokenOf?, classOf_small, ← Text.smallPoints_cons,
        Text.natOfDigits_smallPoints, Text.foldPoints_smallPoints]
      rfl

theorem isTooLong_smallPoints (run : List CodePoint) : isTooLong (smallPoints run) = isTooLong run := by
  rw [isTooLong, smallPoints, List.length_map, isTooLong]
  cases run with
  | nil => rfl
  | cons c cs => simp only [List.map_cons, List.head?_cons, Option.any_some, classOf_small]

/-- The tokens of a version do not depend on the case of letters. -/
theorem usableTokens_smallPoints (cs : List CodePoint) : usableTokens (smallPoints cs) = usableTokens cs := by
  have hlong : hasLongRun (smallPoints cs) = hasLongRun cs := by
    rw [hasLongRun, runs_smallPoints, List.any_map, show isTooLong ∘ smallPoints = isTooLong from
      funext isTooLong_smallPoints, hasLongRun]
  have hscan : scan (smallPoints cs) = scan cs := by
    rw [scan, runs_smallPoints, List.filterMap_map, show tokenOf? ∘ smallPoints = tokenOf? from
      funext tokenOf?_smallPoints, scan]
  rw [usableTokens_eq, Text.any_smallPoints Text.isDigit_small, hlong, hscan, usableTokens_eq]

theorem hasValue_smallLetters (t : Text) : hasValue (smallLetters t) = hasValue t := by
  have hpoints : ∀ u : Text, (∀ d ∈ u.points, ∀ c ∈ CodePoint.capitalLetters,
      decide (c.small = d) = decide (c = d)) → (smallLetters t = u ↔ t = u) := by
    intro u hu
    rw [Text.mk.injEq, Text.mk.injEq]
    exact Text.smallPoints_eq_iff hu t.points
  simp only [hasValue, ne_eq, hpoints "" (by decide), hpoints "-" (by decide), hpoints "*" (by decide)]

theorem tokens_ofParts_smallLetters (v u : Text) :
    (ofParts (some (smallLetters v)) (some (smallLetters u))).tokens =
      (ofParts (some v) (some u)).tokens := by
  have hjoined : smallPoints v.points ++ .char '.' :: smallPoints u.points =
      smallPoints (v.points ++ .char '.' :: u.points) := by
    rw [Text.smallPoints_append, Text.smallPoints_cons]
    rfl
  rw [tokens_ofParts, Text.strip_smallLetters, hasValue_smallLetters, Text.points_smallLetters,
    Text.points_smallLetters, hjoined, usableTokens_smallPoints, tokens_ofParts]

end Version

namespace Cpe

/-! ### Fields -/

theorem begins_smallPoints (b : Binding) (cs : List CodePoint) :
    b.begins (smallPoints cs) = b.begins cs := by
  rw [Binding.begins, smallPoints, ← List.map_take, List.map_map, Binding.begins]
  congr 2
  exact funext CodePoint.small_small

/-- Fields end at the same places. -/
theorem splitFields_smallPoints (escapes escaped : Bool) (cs : List CodePoint) :
    splitFields escapes escaped (smallPoints cs) = (splitFields escapes escaped cs).map smallPoints := by
  have hcons : ∀ (c : CodePoint) (fields : List (List CodePoint)),
      consField c.small (fields.map smallPoints) = (consField c fields).map smallPoints := by
    intro c fields
    cases fields <;> rfl
  induction cs generalizing escaped with
  | nil => rfl
  | cons c cs ih =>
      simp only [Text.smallPoints_cons, splitFields, CodePoint.small_eq_colon_iff,
        CodePoint.small_eq_backslash_iff, ih, hcons]
      split <;> rfl

/-- Backslashes are taken away at the same places. -/
theorem unescape_smallPoints (cs : List CodePoint) :
    unescape (smallPoints cs) = smallPoints (unescape cs) := by
  fun_induction unescape cs with
  | case1 => rfl
  | case2 c => rfl
  | case3 c d cs h ih =>
      simp only [Text.smallPoints_cons, unescape, CodePoint.small_eq_backslash_iff, ne_eq,
        CodePoint.small_eq_newline_iff, h, if_true, ih]
  | case4 c d cs h ih =>
      rw [Text.smallPoints_cons] at ih
      simp only [Text.smallPoints_cons, unescape, CodePoint.small_eq_backslash_iff, ne_eq,
        CodePoint.small_eq_newline_iff, h, Bool.false_eq_true, if_false, ih]

/-- The fields of a name are the same but for the case of letters. -/
theorem fields_smallPoints (b : Binding) (cs : List CodePoint) :
    (b.fields (smallPoints cs)).map smallLetters = (b.fields cs).map smallLetters := by
  have hsmall : ∀ ds : List CodePoint, smallPoints (smallPoints ds) = smallPoints ds := by
    intro ds
    rw [smallPoints, smallPoints, List.map_map]
    exact List.map_congr_left fun c _ => CodePoint.small_small c
  cases b with
  | formatted =>
      simp only [Binding.fields, splitFields_smallPoints, List.map_map]
      refine List.map_congr_left ?_
      intro field _
      simp only [Function.comp_apply, smallLetters, unescape_smallPoints, hsmall]
  | uri =>
      simp only [Binding.fields, splitFields_smallPoints, List.map_map]
      refine List.map_congr_left ?_
      intro field _
      simp only [Function.comp_apply, smallLetters, Text.smallPoints_percentDecode]

/-! ### Names -/

/-- Two names say the same vendor and product, and versions with the same tokens. -/
structure Alike (c d : Cpe) : Prop where
  vendor : c.vendor = d.vendor
  product : c.product = d.product
  tokens : c.version.tokens = d.version.tokens

theorem Alike.symm {c d : Cpe} (h : c.Alike d) : d.Alike c :=
  ⟨h.vendor.symm, h.product.symm, h.tokens.symm⟩

theorem Alike.trans {c d e : Cpe} (h : c.Alike d) (h' : d.Alike e) : c.Alike e :=
  ⟨h.vendor.trans h'.vendor, h.product.trans h'.product, h.tokens.trans h'.tokens⟩

/-- Fields that differ in the case of letters make names that are alike. -/
theorem ofFields_alike {fields fields' : List Text} (text text' : Text)
    (h : fields.map smallLetters = fields'.map smallLetters) :
    (ofFields text fields).Alike (ofFields text' fields') := by
  have hfield : ∀ i, smallLetters (fields.getD i Text.empty) = smallLetters (fields'.getD i Text.empty) := by
    intro i
    have hi := congrArg (fun texts => texts[i]?.getD (smallLetters Text.empty)) h
    simpa only [List.getElem?_map, Option.getD_map, List.getD_eq_getElem?_getD] using hi
  have hlower : ∀ i, Text.lower (fields.getD i Text.empty) = Text.lower (fields'.getD i Text.empty) := by
    intro i
    rw [← Text.lower_smallLetters, hfield, Text.lower_smallLetters]
  refine ⟨hlower 1, hlower 2, ?_⟩
  rw [version, version, ← Version.tokens_ofParts_smallLetters, ofFields, ofFields, hfield, hfield,
    Version.tokens_ofParts_smallLetters]

/-- A name is like the one with small letters. -/
theorem parse_smallLetters (s : Text) : (parse (smallLetters s)).Alike (parse s) := by
  have hpoints : (Text.strip (smallLetters s)).points = smallPoints (Text.strip s).points := by
    rw [Text.strip_smallLetters, Text.points_smallLetters]
  have hdrop : ∀ n (cs : List CodePoint), (smallPoints cs).drop n = smallPoints (cs.drop n) := by
    intro n cs
    exact List.map_drop.symm
  simp only [parse, hpoints, begins_smallPoints, hdrop]
  split
  · exact ofFields_alike _ _ (fields_smallPoints _ _)
  · split
    · exact ofFields_alike _ _ (fields_smallPoints _ _)
    · exact ofFields_alike _ _ rfl

/-- **What a name says does not depend on the case of letters.** -/
theorem parse_alike {s t : Text} (h : smallLetters s = smallLetters t) : (parse s).Alike (parse t) := by
  have hs := parse_smallLetters s
  rw [h] at hs
  exact hs.symm.trans (parse_smallLetters t)

end Cpe

end CpeMatch
