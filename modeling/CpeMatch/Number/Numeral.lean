import CpeMatch.Number.Binary64
import CpeMatch.Text.DecimalDigit
import CpeMatch.Text.Blank

/-!
**Reading a number from free text.**

A numeral is a decimal with an optional sign, point and exponent, or a name of infinity or of the
number that is none.  Digits of every script count, a single underscore may stand between two
digits, and blanks may surround the whole.

Main definitions:

* `CpeMatch.Number.asciiForm` — a text with its digits and blanks turned into ASCII ones;
* `CpeMatch.Number.joinDigits?` — a text without the underscores between digits;
* `CpeMatch.Number.readDecimal` — the longest decimal at the start of a text;
* `CpeMatch.Number.readNumeral?` — the number that a whole text writes.
-/

set_option autoImplicit false

namespace CpeMatch.Number

open Text

/-- A code point as it counts in a numeral: a digit of any script as the ASCII digit, a blank above
`U+007F` as a space, any other code point above `U+007F` as a mark that no numeral holds. -/
def asciiForm (c : CodePoint) : Char :=
  if c.isAscii then c.char?.getD '?'
  else if isBlank c then ' '
  else match digitValue? c with
    | some d => Char.ofNat (48 + d)
    | none => '?'

/-- Whether blanks of this kind may surround a numeral. -/
def surrounds (c : Char) : Bool := c = ' ' || (9 ≤ c.toNat && c.toNat ≤ 13)

/-- Leaves out each underscore that stands between two digits; nothing if another one is there.
The flag tells whether a digit has just been read. -/
def joinDigits? (afterDigit : Bool) : List Char → Option (List Char)
  | [] => some []
  | '_' :: c :: cs =>
    if afterDigit && c.isDigit then (joinDigits? true cs).map (c :: ·) else none
  | c :: cs => if c = '_' then none else (joinDigits? c.isDigit cs).map (c :: ·)

/-- The decimal number that a run of ASCII digits writes. -/
def natOfAscii (digits : List Char) : Nat := digits.foldl (fun n c => n * 10 + (c.toNat - 48)) 0

/-- An exponent at the start of a text, and what follows it.  A letter `e` without digits after it
is no exponent. -/
def readExponent (cs : List Char) : Int × List Char :=
  match cs with
  | e :: rest =>
    if e = 'e' || e = 'E' then
      let (negative, digits) := match rest with
        | '-' :: r => (true, r)
        | '+' :: r => (false, r)
        | r => (false, r)
      match digits.takeWhile Char.isDigit with
      | [] => (0, cs)
      | ds => (if negative then -(natOfAscii ds : Int) else natOfAscii ds, digits.dropWhile Char.isDigit)
    else (0, cs)
  | [] => (0, [])

/-- An unsigned decimal at the start of a text and what follows it: digits with at most one point
among, before or after them, and an exponent. -/
def readDecimal (negative : Bool) (cs : List Char) : Option (Float × List Char) :=
  let whole := cs.takeWhile Char.isDigit
  let (fraction, rest) := match cs.dropWhile Char.isDigit with
    | '.' :: r => (r.takeWhile Char.isDigit, r.dropWhile Char.isDigit)
    | r => ([], r)
  if whole.isEmpty && fraction.isEmpty then none else
    let (e, rest) := readExponent rest
    some (nearestDecimal negative (natOfAscii (whole ++ fraction)) (e - fraction.length), rest)

/-- The numbers that have names, in any letter case. -/
def readName (negative : Bool) (cs : List Char) : Option Float :=
  let name := String.ofList (cs.map Char.toLower)
  if name = "inf" || name = "infinity" then some (infinity negative)
  else if name = "nan" then some (notNumber)
  else none

/-- The number that a text without blanks and underscores writes. -/
def readSigned (cs : List Char) : Option Float :=
  let (negative, body) := match cs with
    | '-' :: r => (true, r)
    | '+' :: r => (false, r)
    | r => (false, r)
  match readDecimal negative body with
  | some (x, []) => some x
  | _ => readName negative body

/-- The number that a text writes, if it is a numeral. -/
def readNumeral? (s : Text) : Option Float :=
  match joinDigits? false (s.points.map asciiForm) with
  | none => none
  | some cs =>
    readSigned (((cs.dropWhile surrounds).reverse.dropWhile surrounds).reverse)

end CpeMatch.Number
