/-!
**Texts.**

A text is a row of code points.  Nearly all of them are characters; but the escapes of a document can
write half of a surrogate pair without the other half, and such a half is kept and told apart from every
other code point.  Texts are ordered by the numbers of their code points.

Main definitions:

* `CpeMatch.CodePoint` — a character, or half of a surrogate pair;
* `CpeMatch.CodePoint.toNat`, `CpeMatch.CodePoint.ofNat` — the number of a code point;
* `CpeMatch.Text` — the texts, into which every string can be put;
* `CpeMatch.Text.join`, `CpeMatch.Text.intercalate`, `CpeMatch.Text.split` — putting texts together and
  taking them apart.
-/

set_option autoImplicit false

namespace CpeMatch

/-- A code point: a character, or half of a surrogate pair without the other half. -/
inductive CodePoint where
  | char (c : Char)
  | surrogate (n : Fin 2048)
  deriving DecidableEq

namespace CodePoint

instance : Inhabited CodePoint := ⟨.char default⟩

instance : Coe Char CodePoint := ⟨.char⟩

/-- The number of the first surrogate. -/
def firstSurrogate : Nat := 0xD800

/-- The number of a code point. -/
def toNat : CodePoint → Nat
  | char c => c.toNat
  | surrogate n => firstSurrogate + n.val

instance : Hashable CodePoint := ⟨fun c => hash c.toNat⟩

/-- The code point of a number; the character of number zero for a number that has none. -/
def ofNat (n : Nat) : CodePoint :=
  if h : firstSurrogate ≤ n ∧ n < firstSurrogate + 2048 then
    surrogate ⟨n - firstSurrogate, by omega⟩
  else char (Char.ofNat n)

/-- Whether a code point is half of a surrogate pair. -/
def isSurrogate : CodePoint → Bool
  | char _ => false
  | surrogate _ => true

/-- The character that a code point is. -/
def char? : CodePoint → Option Char
  | char c => some c
  | surrogate _ => none

/-- Whether a code point is an ASCII character. -/
def isAscii (c : CodePoint) : Bool := c.toNat < 128

/-- Whether a code point is a character with the given property. -/
def isChar (p : Char → Bool) : CodePoint → Bool
  | char c => p c
  | surrogate _ => false

/-- A character turned into another, and any other code point left alone. -/
def mapChar (f : Char → Char) : CodePoint → CodePoint
  | char c => char (f c)
  | surrogate n => surrogate n

instance : LE CodePoint := ⟨fun a b => a.toNat ≤ b.toNat⟩

instance : DecidableLE CodePoint := fun a b => inferInstanceAs (Decidable (a.toNat ≤ b.toNat))

instance : LT CodePoint := ⟨fun a b => a.toNat < b.toNat⟩

instance : DecidableLT CodePoint := fun a b => inferInstanceAs (Decidable (a.toNat < b.toNat))

@[simp] theorem toNat_char (c : Char) : (char c).toNat = c.toNat := rfl

@[simp] theorem isChar_char (p : Char → Bool) (c : Char) : (char c).isChar p = p c := rfl

@[simp] theorem mapChar_char (f : Char → Char) (c : Char) : (char c).mapChar f = char (f c) := rfl

/-- A surrogate is no ASCII character. -/
theorem le_toNat_surrogate (n : Fin 2048) : 128 ≤ (surrogate n).toNat := by
  simp only [toNat, firstSurrogate]
  omega

end CodePoint

/-- A text. -/
structure Text where
  points : List CodePoint
  deriving DecidableEq, Inhabited, Hashable

namespace Text

/-- The text with nothing in it. -/
def empty : Text := ⟨[]⟩

/-- The text of characters. -/
def ofChars (cs : List Char) : Text := ⟨cs.map CodePoint.char⟩

/-- A string as a text. -/
def ofString (s : String) : Text := ofChars s.toList

instance : Coe String Text := ⟨ofString⟩

/-- A text as a string, with `U+FFFD` for each half of a surrogate pair. -/
def toString (t : Text) : String := String.ofList (t.points.map fun c => c.char?.getD '\uFFFD')

/-- One text after another. -/
def append (s t : Text) : Text := ⟨s.points ++ t.points⟩

instance : Append Text := ⟨append⟩

/-- The number of code points. -/
def length (t : Text) : Nat := t.points.length

/-- The texts one after another. -/
def join (parts : List Text) : Text := ⟨parts.flatMap points⟩

/-- The texts one after another, with `separator` between any two. -/
def intercalate (separator : Text) (parts : List Text) : Text :=
  ⟨separator.points.intercalate (parts.map points)⟩

/-- Splits code points at every `separator`. -/
def splitPoints (separator : CodePoint) : List CodePoint → List (List CodePoint)
  | [] => [[]]
  | c :: cs =>
    if c = separator then [] :: splitPoints separator cs
    else match splitPoints separator cs with
      | [] => [[c]]
      | part :: parts => (c :: part) :: parts

/-- The parts of a text between one `separator` and the next. -/
def split (separator : CodePoint) (t : Text) : List Text :=
  (splitPoints separator t.points).map Text.mk

/-- The numbers of the code points. -/
def codes (t : Text) : List Nat := t.points.map CodePoint.toNat

instance : Ord Text := ⟨compareOn codes⟩

instance : LT Text := ⟨fun s t => compare s t = .lt⟩

instance : DecidableLT Text := fun s t => inferInstanceAs (Decidable (compare s t = .lt))

instance : LE Text := ⟨fun s t => compare s t ≠ .gt⟩

instance : DecidableLE Text := fun s t => inferInstanceAs (Decidable (compare s t ≠ .gt))

theorem append_assoc (s t u : Text) : s ++ t ++ u = s ++ (t ++ u) :=
  congrArg Text.mk (List.append_assoc s.points t.points u.points)

theorem append_empty (s : Text) : s ++ empty = s := congrArg Text.mk (List.append_nil s.points)

theorem empty_append (s : Text) : empty ++ s = s := rfl

theorem join_cons (s : Text) (parts : List Text) : join (s :: parts) = s ++ join parts := rfl

theorem join_append (parts others : List Text) : join (parts ++ others) = join parts ++ join others :=
  congrArg Text.mk List.flatMap_append

@[simp] theorem points_append (s t : Text) : (s ++ t).points = s.points ++ t.points := rfl

@[simp] theorem points_join (parts : List Text) : (join parts).points = parts.flatMap points := rfl

@[simp] theorem points_ofChars (cs : List Char) : (ofChars cs).points = cs.map CodePoint.char := rfl

end Text

end CpeMatch
