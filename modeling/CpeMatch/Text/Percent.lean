import CpeMatch.Text.Utf8

/-!
**Percent-decoding.**

Each stretch of ASCII characters stands for octets: a percent sign with two hexadecimal digits for
the octet they write, any other character for itself.  The octets of a stretch are read as UTF-8,
with `U+FFFD` for what is ill-formed.  Code points beyond ASCII stand for themselves and end a stretch.

Main definitions:

* `CpeMatch.Text.percentOctets` — the octets of an ASCII stretch;
* `CpeMatch.Text.percentDecode` — the text that a percent-encoded text stands for.
-/

set_option autoImplicit false

namespace CpeMatch.Text

/-- The value of a hexadecimal digit of either case. -/
def hexValue? (c : Char) : Option Nat :=
  if '0' ≤ c && c ≤ '9' then some (c.toNat - 48)
  else if 'a' ≤ c && c ≤ 'f' then some (c.toNat - 87)
  else if 'A' ≤ c && c ≤ 'F' then some (c.toNat - 55)
  else none

/-- The octet that two hexadecimal digits write. -/
def hexOctet? (high low : Char) : Option UInt8 :=
  match hexValue? high, hexValue? low with
  | some h, some l => some (UInt8.ofNat (16 * h + l))
  | _, _ => none

/-- The octets of a stretch of ASCII characters.  A percent sign without two hexadecimal digits
after it stands for itself. -/
def percentOctets : List Char → List UInt8
  | [] => []
  | [c] => [UInt8.ofNat c.toNat]
  | [c, d] => [UInt8.ofNat c.toNat, UInt8.ofNat d.toNat]
  | c :: high :: low :: cs =>
    if c = '%' then
      match hexOctet? high low with
      | some b => b :: percentOctets cs
      | none => UInt8.ofNat c.toNat :: percentOctets (high :: low :: cs)
    else UInt8.ofNat c.toNat :: percentOctets (high :: low :: cs)

/-- The text that one stretch stands for, all of it ASCII or none. -/
def percentDecodeRun (cs : List CodePoint) : List CodePoint :=
  if cs.all CodePoint.isAscii then
    (utf8DecodeReplacing (percentOctets (cs.filterMap CodePoint.char?))).map CodePoint.char
  else cs

/-- The text that a percent-encoded text stands for. -/
def percentDecode (cs : List CodePoint) : List CodePoint :=
  (cs.splitBy fun a b => a.isAscii == b.isAscii).flatMap percentDecodeRun

@[simp] theorem percentDecode_nil : percentDecode [] = [] := rfl

end CpeMatch.Text
