import Mathlib.Data.List.SplitBy
import CpeMatch.Text.Blank
import CpeMatch.Text.Percent
import CpeMatch.Proofs.Text.Octets

/-!
**Percent-encoding.**

A percent-encoded text has a percent sign and two hexadecimal digits for each octet of a character that is
escaped.  The percent sign itself, the colon, blanks and all characters beyond ASCII have to be escaped, any
other character may be, and the digits may be of either case.  So one text has many encodings, which are
related to it here, and decoding gives it back from each of them.

Main definitions:

* `CpeMatch.Text.percentEscape` — the escape of an octet;
* `CpeMatch.Text.MustEscape` — the characters that do not stand for themselves;
* `CpeMatch.Text.PercentEncodes` — the encodings of a text.

Main results:

* `CpeMatch.Text.PercentEncodes.isSafe` — an encoding has no colon and no blank in it;
* `CpeMatch.Text.PercentEncodes.percentOctets_eq` — the octets of an encoding are those of the characters;
* `CpeMatch.Text.PercentEncodes.percentDecode_eq` — **every encoding is decoded**.
-/

set_option autoImplicit false

namespace CpeMatch.Text

/-! ### Encodings -/

/-- The hexadecimal digit of a number below sixteen, a capital or a small letter. -/
def hexDigit (capital : Bool) (n : Nat) : Char :=
  if capital then (Nat.digitChar n).toUpper else Nat.digitChar n

/-- The escape of an octet; each of its digits may be a capital. -/
def percentEscape (high low : Bool) (b : UInt8) : List Char :=
  ['%', hexDigit high (b.toNat / 16), hexDigit low (b.toNat % 16)]

/-- The characters that have to be escaped. -/
def MustEscape (c : Char) : Prop := c = '%' ∨ c = ':' ∨ isBlank c = true ∨ 128 ≤ c.toNat

instance (c : Char) : Decidable (MustEscape c) :=
  inferInstanceAs (Decidable (c = '%' ∨ c = ':' ∨ isBlank c = true ∨ 128 ≤ c.toNat))

/-- What is written for octets that are escaped. -/
inductive PercentEscapes : List UInt8 → List Char → Prop
  | nil : PercentEscapes [] []
  | cons (high low : Bool) (b : UInt8) {bs : List UInt8} {w : List Char} (h : PercentEscapes bs w) :
      PercentEscapes (b :: bs) (percentEscape high low b ++ w)

/-- What is written for characters, some of which are escaped. -/
inductive PercentEncodes : List Char → List Char → Prop
  | nil : PercentEncodes [] []
  | literal {c : Char} {cs w : List Char} (hc : ¬ MustEscape c) (h : PercentEncodes cs w) :
      PercentEncodes (c :: cs) (c :: w)
  | escaped {c : Char} {cs e w : List Char} (hc : PercentEscapes (String.utf8EncodeChar c) e)
      (h : PercentEncodes cs w) : PercentEncodes (c :: cs) (e ++ w)

/-! ### What stands in an encoding -/

/-- A character that is ASCII and neither a colon nor a blank. -/
structure IsSafe (c : Char) : Prop where
  ascii : c.toNat < 128
  not_colon : c ≠ ':'
  not_blank : isBlank c = false

theorem isSafe_of_not_mustEscape {c : Char} (h : ¬ MustEscape c) : IsSafe c := by
  simp only [MustEscape, not_or, Bool.not_eq_true, Nat.not_le] at h
  exact ⟨h.2.2.2, h.2.1, h.2.2.1⟩

theorem isSafe_percent : IsSafe '%' := ⟨by decide, by decide, by decide⟩

theorem isSafe_hexDigit (capital : Bool) {n : Nat} (hn : n < 16) : IsSafe (hexDigit capital n) := by
  have hdigits : ∀ capital, ∀ n < 16, (hexDigit capital n).toNat < 128 ∧ hexDigit capital n ≠ ':' ∧
      isBlank (hexDigit capital n) = false := by decide
  obtain ⟨hascii, hcolon, hblank⟩ := hdigits capital n hn
  exact ⟨hascii, hcolon, hblank⟩

theorem isSafe_percentEscape {high low : Bool} {b : UInt8} {d : Char} (hd : d ∈ percentEscape high low b) :
    IsSafe d := by
  have hb : b.toNat < 256 := b.toNat_lt
  simp only [percentEscape, List.mem_cons, List.not_mem_nil, or_false] at hd
  rcases hd with rfl | rfl | rfl
  · exact isSafe_percent
  · exact isSafe_hexDigit high (by omega)
  · exact isSafe_hexDigit low (by omega)

theorem PercentEscapes.isSafe {bs : List UInt8} {w : List Char} (h : PercentEscapes bs w) :
    ∀ d ∈ w, IsSafe d := by
  induction h with
  | nil => simp
  | cons high low b h ih =>
      intro d hd
      rcases List.mem_append.1 hd with hd | hd
      · exact isSafe_percentEscape hd
      · exact ih d hd

/-- An encoding has no colon and no blank in it, and nothing beyond ASCII. -/
theorem PercentEncodes.isSafe {cs w : List Char} (h : PercentEncodes cs w) : ∀ d ∈ w, IsSafe d := by
  induction h with
  | nil => simp
  | literal hc h ih => exact List.forall_mem_cons.2 ⟨isSafe_of_not_mustEscape hc, ih⟩
  | escaped hc h ih =>
      intro d hd
      rcases List.mem_append.1 hd with hd | hd
      · exact hc.isSafe d hd
      · exact ih d hd

/-! ### Octets of an encoding -/

theorem hexValue?_hexDigit (capital : Bool) {n : Nat} (hn : n < 16) :
    hexValue? (hexDigit capital n) = some n := by
  have hdigits : ∀ capital, ∀ n < 16, hexValue? (hexDigit capital n) = some n := by decide
  exact hdigits capital n hn

/-- An escape writes its octet. -/
theorem percentOctets_percentEscape (high low : Bool) (b : UInt8) (rest : List Char) :
    percentOctets (percentEscape high low b ++ rest) = b :: percentOctets rest := by
  have hb : b.toNat < 256 := b.toNat_lt
  have hoctet : hexOctet? (hexDigit high (b.toNat / 16)) (hexDigit low (b.toNat % 16)) = some b := by
    rw [hexOctet?, hexValue?_hexDigit high (by omega), hexValue?_hexDigit low (by omega)]
    simp only [Nat.div_add_mod, UInt8.ofNat_toNat]
  simp only [percentEscape, List.cons_append, List.nil_append, percentOctets, if_true, hoctet]

/-- Any character but a percent sign writes its own octet. -/
theorem percentOctets_cons_of_ne {c : Char} (hc : c ≠ '%') (rest : List Char) :
    percentOctets (c :: rest) = UInt8.ofNat c.toNat :: percentOctets rest := by
  match rest with
  | [] => rfl
  | [_] => rfl
  | _ :: _ :: _ => rw [percentOctets, if_neg hc]

theorem PercentEscapes.percentOctets_append {bs : List UInt8} {w : List Char} (h : PercentEscapes bs w)
    (rest : List Char) : percentOctets (w ++ rest) = bs ++ percentOctets rest := by
  induction h with
  | nil => rfl
  | cons high low b h ih => rw [List.append_assoc, percentOctets_percentEscape, ih, List.cons_append]

/-- The octet of an ASCII character. -/
theorem utf8EncodeChar_of_ascii {c : Char} (hc : c.toNat < 128) :
    String.utf8EncodeChar c = [UInt8.ofNat c.toNat] := by
  have hvalue : c.val.toNat ≤ 127 := Nat.le_of_lt_succ hc
  simp only [String.utf8EncodeChar, if_pos hvalue]
  rfl

/-- The octets of an encoding are those of the characters. -/
theorem PercentEncodes.percentOctets_eq {cs w : List Char} (h : PercentEncodes cs w) :
    percentOctets w = cs.flatMap String.utf8EncodeChar := by
  induction h with
  | nil => rfl
  | @literal c cs w hc h ih =>
      have hpercent : c ≠ '%' := fun hpercent => hc (Or.inl hpercent)
      rw [percentOctets_cons_of_ne hpercent, ih, List.flatMap_cons,
        utf8EncodeChar_of_ascii (isSafe_of_not_mustEscape hc).ascii, List.singleton_append]
  | escaped hc h ih => rw [hc.percentOctets_append, ih, List.flatMap_cons]

/-! ### Decoding -/

/-- ASCII characters are decoded as one stretch. -/
theorem percentDecode_of_ascii {w : List Char} (hw : ∀ d ∈ w, d.toNat < 128) :
    percentDecode (w.map CodePoint.char) = (utf8DecodeReplacing (percentOctets w)).map CodePoint.char := by
  have hascii : ∀ p ∈ w.map CodePoint.char, p.isAscii = true := by
    intro p hp
    obtain ⟨d, hd, rfl⟩ := List.mem_map.1 hp
    exact decide_eq_true (hw d hd)
  by_cases hnil : w = []
  · rw [hnil]
    rfl
  · have hstretch : (w.map CodePoint.char).splitBy (fun a b => a.isAscii == b.isAscii) =
        [w.map CodePoint.char] := by
      refine List.splitBy_of_isChain (by simpa using hnil) (List.Pairwise.isChain ?_)
      refine List.Pairwise.imp_of_mem ?_ (List.pairwise_of_forall fun _ _ => trivial)
      intro a b ha hb _
      rw [hascii a ha, hascii b hb]
      rfl
    have hchars : (w.map CodePoint.char).filterMap CodePoint.char? = w := by
      rw [List.filterMap_map]
      exact List.filterMap_some
    rw [percentDecode, hstretch, List.flatMap_singleton, percentDecodeRun,
      if_pos (List.all_eq_true.2 hascii), hchars]

/-- **Every encoding is decoded.** -/
theorem PercentEncodes.percentDecode_eq {cs w : List Char} (h : PercentEncodes cs w) :
    percentDecode (w.map CodePoint.char) = cs.map CodePoint.char := by
  rw [percentDecode_of_ascii fun d hd => (h.isSafe d hd).ascii, h.percentOctets_eq,
    utf8DecodeReplacing_encode]

end CpeMatch.Text
