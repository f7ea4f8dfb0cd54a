import CpeMatch.Text.CodeRange

/-!
**Decimal digits of every script.**

The characters of general category `Nd` come in blocks of ten consecutive code points, zero first,
so a table of the zeros gives both the set and the value of each digit.  The table is that of
Unicode 14.0.

Main definitions:

* `CpeMatch.Text.digitValue?` — the value of a decimal digit;
* `CpeMatch.Text.isDigit` — whether a character is one;
* `CpeMatch.Text.natOfDigits` — the number that a run of digits writes.
-/

set_option autoImplicit false

namespace CpeMatch.Text

/-- The digit zero of every script. -/
def digitZeros : List Nat := [
  0x30, 0x660, 0x6f0, 0x7c0, 0x966, 0x9e6, 0xa66, 0xae6, 0xb66, 0xbe6, 0xc66, 0xce6, 0xd66, 0xde6,
  0xe50, 0xed0, 0xf20, 0x1040, 0x1090, 0x17e0, 0x1810, 0x1946, 0x19d0, 0x1a80, 0x1a90, 0x1b50,
  0x1bb0, 0x1c40, 0x1c50, 0xa620, 0xa8d0, 0xa900, 0xa9d0, 0xa9f0, 0xaa50, 0xabf0, 0xff10, 0x104a0,
  0x10d30, 0x11066, 0x110f0, 0x11136, 0x111d0, 0x112f0, 0x11450, 0x114d0, 0x11650, 0x116c0,
  0x11730, 0x118e0, 0x11950, 0x11c50, 0x11d50, 0x11da0, 0x16a60, 0x16ac0, 0x16b50, 0x1d7ce,
  0x1d7d8, 0x1d7e2, 0x1d7ec, 0x1d7f6, 0x1e140, 0x1e2f0, 0x1e950, 0x1fbf0]

/-- The value of a decimal digit of any script, and nothing for any other character. -/
def digitValue? (c : CodePoint) : Option Nat :=
  (digitZeros.find? fun first => first ≤ c.toNat && c.toNat < first + 10).map (c.toNat - ·)

/-- Whether `c` is a decimal digit of some script. -/
def isDigit (c : CodePoint) : Bool := (digitValue? c).isSome

/-- The number written by a run of decimal digits, most significant first. -/
def natOfDigits (digits : List CodePoint) : Nat :=
  digits.foldl (fun n c => n * 10 + (digitValue? c).getD 0) 0

@[simp] theorem natOfDigits_nil : natOfDigits [] = 0 := rfl

/-- Every digit of the core library is one here, with the same value. -/
theorem digitValue?_ascii : ∀ d < 10, digitValue? (.ofNat (48 + d)) = some d := by decide

end CpeMatch.Text
