import CpeMatch.Text.Printable

/-!
**Quoted text in messages.**

A quoted text stands between apostrophes, or between double quotes if it holds an apostrophe and no
double quote.  Backslashes, the quote in use, line feeds, carriage returns and tabs are escaped by a
backslash, and any other code point that is not printable by its number in two, four or eight
hexadecimal digits.

Main definitions: `CpeMatch.Text.quotePoint`, `CpeMatch.Text.quoted`.
-/

set_option autoImplicit false

namespace CpeMatch.Text

/-- The hexadecimal digits of `n`, at least `width` of them. -/
def hexDigits (width n : Nat) : List Char :=
  let digits := Nat.toDigits 16 n
  List.replicate (width - digits.length) '0' ++ digits

/-- The number of a code point that is not shown as it is. -/
def codeEscape (n : Nat) : List Char :=
  if n < 0x100 then '\\' :: 'x' :: hexDigits 2 n
  else if n < 0x10000 then '\\' :: 'u' :: hexDigits 4 n
  else '\\' :: 'U' :: hexDigits 8 n

/-- A code point as it stands between the quotes `quote`. -/
def quotePoint (quote c : CodePoint) : List CodePoint :=
  if c = quote || c = '\\' then ['\\', c]
  else if c = '\n' then ['\\', 'n']
  else if c = '\r' then ['\\', 'r']
  else if c = '\t' then ['\\', 't']
  else if isPrintable c then [c]
  else (codeEscape c.toNat).map CodePoint.char

/-- The quote that a text is written between. -/
def quoteFor (cs : List CodePoint) : CodePoint :=
  if cs.contains '\'' && !cs.contains '"' then '"' else '\''

/-- The text between quotes. -/
def quoted (s : Text) : Text :=
  let quote := quoteFor s.points
  ⟨quote :: s.points.flatMap (quotePoint quote) ++ [quote]⟩

end CpeMatch.Text
