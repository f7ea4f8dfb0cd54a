import CpeMatch.Json.Basic
import CpeMatch.Text.Quoted
import CpeMatch.Text.Utf8

/-!
**Writing a document.**

A document is written with two blanks of indentation for each level, one item or member a line, and
empty arrays and objects closed at once.  Texts keep their code points, but for quotes, backslashes and
control characters, which are escaped.  The floating-point numbers that are not finite are written
`NaN`, `Infinity` and `-Infinity`.

A document is written piece by piece.  A piece that has no octets ends the writing, and what has been
written before it stays.

Main definitions:

* `CpeMatch.Json.literal` — a text between quotes;
* `CpeMatch.Json.pieces`, `CpeMatch.Json.document` — a value as an indented document;
* `CpeMatch.Json.octets` — the octets of a document, as far as it can be written;
* `CpeMatch.Json.line` — a value on one line, in ASCII characters only.
-/

set_option autoImplicit false

namespace CpeMatch.Json

/-- A code unit by its four hexadecimal digits. -/
def unitEscape (n : Nat) : List Char := '\\' :: 'u' :: Text.hexDigits 4 n

/-- The escape of a code point that does not stand between quotes as it is. -/
def escapeFor? (c : CodePoint) : Option (List Char) :=
  if c = '"' then some ['\\', '"']
  else if c = '\\' then some ['\\', '\\']
  else if c = '\n' then some ['\\', 'n']
  else if c = '\r' then some ['\\', 'r']
  else if c = '\t' then some ['\\', 't']
  else if c = '\x0c' then some ['\\', 'f']
  else if c = '\x08' then some ['\\', 'b']
  else if c.toNat < 0x20 then some (unitEscape c.toNat)
  else none

/-- A code point as it stands between quotes. -/
def literalPoint (c : CodePoint) : List CodePoint :=
  match escapeFor? c with
  | some cs => cs.map CodePoint.char
  | none => [c]

/-- A code point between quotes in ASCII: beyond it, by one code unit or two. -/
def asciiLiteralPoint (c : CodePoint) : List Char :=
  match escapeFor? c with
  | some cs => cs
  | none =>
    let n := c.toNat
    if n < 0x7f then [Char.ofNat n]
    else if n < 0x10000 then unitEscape n
    else
      unitEscape (0xD800 + (n - 0x10000) / 0x400) ++ unitEscape (0xDC00 + (n - 0x10000) % 0x400)

/-- A text between quotes. -/
def literal (s : Text) : Text := ⟨.char '"' :: s.points.flatMap literalPoint ++ [.char '"']⟩

/-- A text between quotes, in ASCII characters only. -/
def asciiLiteral (s : Text) : String :=
  String.ofList ('"' :: s.points.flatMap asciiLiteralPoint ++ ['"'])

/-- A number as a document holds it. -/
def numberText : Number → String
  | .whole n => toString n
  | .binary x => match (Number.binaryOf x).magnitude with
    | .nan => "NaN"
    | .infinite => if (Number.binaryOf x).negative then "-Infinity" else "Infinity"
    | .finite _ _ => Number.floatText x

/-- A line break and the indentation of a level. -/
def newLine (level : Nat) : Text := .ofChars ('\n' :: List.replicate (2 * level) ' ')

mutual

/-- The pieces of a value at a level of indentation.  The separator `lead` before it is part of the
piece of a scalar, and a piece of its own ahead of an array or object. -/
def pieces (level : Nat) (lead : Text) : Json → List Text
  | .null => [lead ++ "null"]
  | .bool true => [lead ++ "true"]
  | .bool false => [lead ++ "false"]
  | .number n => [lead ++ numberText n]
  | .string s => [lead ++ literal s]
  | .array items =>
    if items.isEmpty then [lead, "[]"] else
      lead :: itemPieces (level + 1) ("[" ++ newLine (level + 1)) items ++ [newLine level, "]"]
  | .object members =>
    if members.isEmpty then [lead, "\x7b\x7d"] else
      lead :: "\x7b" :: memberPieces (level + 1) (newLine (level + 1)) members ++
        [newLine level, "\x7d"]

/-- The pieces of the items of an array at a level of indentation, the first of them after `lead`. -/
def itemPieces (level : Nat) (lead : Text) : List Json → List Text
  | [] => []
  | v :: rest => v.pieces level lead ++ itemPieces level ("," ++ newLine level) rest

/-- The pieces of the members of an object at a level of indentation, the first of them after `lead`.
Separators and names are pieces of their own. -/
def memberPieces (level : Nat) (lead : Text) : List (Text × Json) → List Text
  | [] => []
  | (name, v) :: rest =>
    lead :: literal name :: ": " :: v.pieces level Text.empty ++
      memberPieces level ("," ++ newLine level) rest

end

/-- The pieces of a document. -/
def documentPieces (v : Json) : List Text := v.pieces 0 Text.empty

/-- A value as an indented document. -/
def document (v : Json) : Text := .join v.documentPieces

/-- The octets of pieces up to the first that has none, and what keeps that from being written. -/
def octetsOf : List Text → List UInt8 × Option Text.Unencodable
  | [] => ([], none)
  | piece :: rest =>
    match Text.utf8Encode? piece with
    | .error u => ([], some u)
    | .ok bytes =>
      let (others, u) := octetsOf rest
      (bytes ++ others, u)

/-- The octets of a document as far as it can be written, and what ends it. -/
def octets (v : Json) : List UInt8 × Option Text.Unencodable := octetsOf v.documentPieces

mutual

/-- A value on one line, in ASCII characters only. -/
def line : Json → String
  | .null => "null"
  | .bool true => "true"
  | .bool false => "false"
  | .number n => numberText n
  | .string s => asciiLiteral s
  | .array items => "[" ++ ",".intercalate (lineItems items) ++ "]"
  | .object members => "\x7b" ++ ",".intercalate (lineMembers members) ++ "\x7d"

/-- The items of an array on one line. -/
def lineItems : List Json → List String
  | [] => []
  | v :: rest => v.line :: lineItems rest

/-- The members of an object on one line. -/
def lineMembers : List (Text × Json) → List String
  | [] => []
  | (name, v) :: rest => (asciiLiteral name ++ ":" ++ v.line) :: lineMembers rest

end

@[simp] theorem octetsOf_nil : octetsOf [] = ([], none) := rfl

end CpeMatch.Json
