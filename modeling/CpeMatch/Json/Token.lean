import CpeMatch.Json.Basic
import CpeMatch.Number.Numeral
import CpeMatch.Text.Percent

/-!
**The tokens of a document.**

A document is a row of brackets, separators and scalars with blanks between them.  Texts may not hold
control characters; a pair of escapes for the two halves of a surrogate pair is one character, and
the escape of a half alone is that half.  Integers are bounded in length, since the time to convert one
grows with the square of its length.

Main definitions:

* `CpeMatch.Json.Token` — the tokens;
* `CpeMatch.Json.tokens` — the tokens of a text, up to and including the first that is none.
-/

set_option autoImplicit false

namespace CpeMatch.Json

/-- A token of a document. -/
inductive Token where
  | openArray
  | closeArray
  | openObject
  | closeObject
  | colon
  | comma
  | scalar (v : Json)
  /-- An integer with more digits than can be converted. -/
  | longInteger (digits : Nat)
  /-- Text that is no token. -/
  | unreadable

/-- The blanks that may stand between tokens. -/
def isGap (c : Char) : Bool := c = ' ' || c = '\t' || c = '\n' || c = '\r'

/-- The number that four hexadecimal digits write. -/
def unitOf? (a b c d : Char) : Option Nat :=
  match Text.hexOctet? a b, Text.hexOctet? c d with
  | some high, some low => some (high.toNat * 256 + low.toNat)
  | _, _ => none

/-- The character that a letter after a backslash stands for. -/
def escaped? (c : Char) : Option Char :=
  if c = '"' || c = '\\' || c = '/' then some c
  else if c = 'b' then some '\x08'
  else if c = 'f' then some '\x0c'
  else if c = 'n' then some '\n'
  else if c = 'r' then some '\r'
  else if c = 't' then some '\t'
  else none

/-- The character of a surrogate pair, if the two units are one. -/
def pointOfPair? (high low : Nat) : Option CodePoint :=
  if 0xD800 ≤ high && high < 0xDC00 && 0xDC00 ≤ low && low < 0xE000 then
    some (CodePoint.ofNat (0x10000 + (high - 0xD800) * 0x400 + (low - 0xDC00)))
  else none

/-- The second half of a surrogate pair at the start of a text, and what follows it. -/
def lowUnit? (high : Nat) : List Char → Option (CodePoint × List Char)
  | '\\' :: 'u' :: a :: b :: c :: d :: rest =>
    ((unitOf? a b c d).bind (pointOfPair? high)).map (·, rest)
  | _ => none

theorem length_of_lowUnit? {high : Nat} {cs rest : List Char} {c : CodePoint}
    (h : lowUnit? high cs = some (c, rest)) : rest.length < cs.length := by
  unfold lowUnit? at h
  split at h
  · simp only [Option.map_eq_some_iff, Prod.mk.injEq] at h
    obtain ⟨_, _, _, rfl⟩ := h
    simp only [List.length_cons]
    omega
  · exact absurd h (by simp)

/-- The text up to its closing quote, and what follows it; `done` are the code points read so far, last
first. -/
def readText (done : List CodePoint) (cs : List Char) : Option (Text × List Char) :=
  match cs with
  | [] => none
  | '"' :: rest => some (⟨done.reverse⟩, rest)
  | '\\' :: 'u' :: a :: b :: c :: d :: rest =>
    match unitOf? a b c d with
    | none => none
    | some n =>
      match h : lowUnit? n rest with
      | some (ch, rest') =>
        have := length_of_lowUnit? h
        readText (ch :: done) rest'
      | none => readText (.ofNat n :: done) rest
  | '\\' :: c :: rest =>
    match escaped? c with
    | some ch => readText (.char ch :: done) rest
    | none => none
  | c :: rest => if c.toNat < 0x20 || c = '\\' then none else readText (.char c :: done) rest
  termination_by cs.length
  decreasing_by all_goals (simp only [List.length_cons]; omega)

/-- The greatest number of digits of an integer. -/
def integerDigits : Nat := 4300

/-- The fraction or exponent at the start of a text, if it is complete. -/
def hasTail (mark : Char → Bool) (signed : Bool) : List Char → Bool
  | [] => false
  | c :: cs => mark c && match cs with
    | s :: d :: _ => s.isDigit || (signed && (s = '+' || s = '-') && d.isDigit)
    | [s] => s.isDigit
    | [] => false

/-- The whole part at the start of a text; it has no leading zeros. -/
def wholeDigits : List Char → List Char
  | '0' :: _ => ['0']
  | cs => cs.takeWhile Char.isDigit

/-- The digits of the fraction at the start of a text. -/
def fractionDigits (cs : List Char) : List Char :=
  if hasTail (· = '.') false cs then (cs.drop 1).takeWhile Char.isDigit else []

/-- A number at the start of a text, after its sign, and what follows it.  A fraction or an exponent makes
the number a floating-point one. -/
def readNumber (limit : Option Nat) (negative : Bool) (cs : List Char) : Token × List Char :=
  let whole := wholeDigits cs
  let rest := cs.drop whole.length
  if whole.isEmpty then (.unreadable, []) else
    let fraction := fractionDigits rest
    let rest := if fraction.isEmpty then rest else rest.drop (1 + fraction.length)
    let isFloat := !fraction.isEmpty || hasTail (fun c => c = 'e' || c = 'E') true rest
    if isFloat then
      let (e, rest) := Number.readExponent rest
      (.scalar (.float (Number.nearestDecimal negative (Number.natOfAscii (whole ++ fraction))
        (e - fraction.length))), rest)
    else if limit.any (· < whole.length) then (.longInteger whole.length, rest)
    else
      let n := Number.natOfAscii whole
      (.scalar (.int (if negative then -n else n)), rest)

/-- The words that are scalars. -/
def words : List (List Char × Json) :=
  [("null".toList, .null), ("true".toList, .bool true), ("false".toList, .bool false),
   ("NaN".toList, .float (Number.notNumber)),
   ("Infinity".toList, .float (Number.infinity false)),
   ("-Infinity".toList, .float (Number.infinity true))]

/-- A token at the start of a text that begins with none of the blanks, and what follows it. -/
def readToken (limit : Option Nat) (cs : List Char) : Token × List Char :=
  match cs with
  | [] => (.unreadable, [])
  | c :: rest =>
    if c = '[' then (.openArray, rest)
    else if c = ']' then (.closeArray, rest)
    else if c = '\x7b' then (.openObject, rest)
    else if c = '\x7d' then (.closeObject, rest)
    else if c = ':' then (.colon, rest)
    else if c = ',' then (.comma, rest)
    else if c = '"' then
      match readText [] rest with
      | some (s, rest') => (.scalar (.string s), rest')
      | none => (.unreadable, [])
    else
      match words.find? fun w => w.1.isPrefixOf cs with
      | some (word, v) => (.scalar v, cs.drop word.length)
      | none => if c = '-' then readNumber limit true rest else readNumber limit false cs

/-- The tokens of a text, up to and including the first that is none. -/
def tokensFrom (limit : Option Nat) : Nat → List Char → List Token
  | 0, _ => []
  | fuel + 1, cs =>
    match cs.dropWhile isGap with
    | [] => []
    | cs' => match readToken limit cs' with
      | (.unreadable, _) => [.unreadable]
      | (t, rest) => t :: tokensFrom limit fuel rest

/-- The tokens of a text, up to and including the first that is none.  Each token takes a character
at least. -/
def tokens (limit : Option Nat) (cs : List Char) : List Token := tokensFrom limit cs.length cs

end CpeMatch.Json
