import CpeMatch.Text.Basic

/-!
**UTF-8.**

Octets are read one at a time.  A first octet says how many continuation octets are owed and within
which bounds the next one must lie; an octet outside those bounds ends the sequence and is looked at
again as a first octet.  So a maximal ill-formed stretch gives exactly one fault, and the readers differ
only in what they make of a fault: one refuses the text, one puts `U+FFFD` there, and one a surrogate for
each octet, from which the octets can be told again.  Only characters have octets, so a text with half of
a surrogate pair in it cannot be written.

Main definitions:

* `CpeMatch.Text.utf8Scan` — the characters of a run of octets, and the octets of each fault;
* `CpeMatch.Text.utf8Decode?` — the text, unless there is a fault;
* `CpeMatch.Text.utf8DecodeReplacing` — the text with each fault replaced;
* `CpeMatch.Text.utf8DecodeEscaping` — the text with the octets of each fault kept as surrogates;
* `CpeMatch.Text.Unencodable`, `CpeMatch.Text.unencodable?` — what keeps a text from being written;
* `CpeMatch.Text.utf8Encode` — the octets of a text.
-/

set_option autoImplicit false

namespace CpeMatch.Text

/-- A character whose octets have been read in part: the number still owed, the bounds of the next
one, and the octets and the bits read so far. -/
structure Utf8Pending where
  owed : Nat
  low : Nat
  high : Nat
  octets : List UInt8
  code : Nat

/-- What a first octet begins. -/
inductive Utf8Start where
  | done (c : Char)
  | more (p : Utf8Pending)
  | fault

/-- The meaning of an octet that stands first. -/
def utf8Start (octet : UInt8) : Utf8Start :=
  let b := octet.toNat
  if b < 0x80 then .done (Char.ofNat b)
  else if b < 0xC2 then .fault
  else if b < 0xE0 then .more ⟨1, 0x80, 0xBF, [octet], b - 0xC0⟩
  else if b = 0xE0 then .more ⟨2, 0xA0, 0xBF, [octet], 0⟩
  else if b = 0xED then .more ⟨2, 0x80, 0x9F, [octet], 0xD⟩
  else if b < 0xF0 then .more ⟨2, 0x80, 0xBF, [octet], b - 0xE0⟩
  else if b = 0xF0 then .more ⟨3, 0x90, 0xBF, [octet], 0⟩
  else if b < 0xF4 then .more ⟨3, 0x80, 0xBF, [octet], b - 0xF0⟩
  else if b = 0xF4 then .more ⟨3, 0x80, 0x8F, [octet], 4⟩
  else .fault

/-- The character with the bits of a complete sequence, or the sequence with one more octet. -/
def Utf8Pending.push (p : Utf8Pending) (octet : UInt8) : Utf8Start :=
  let code := p.code * 64 + octet.toNat % 64
  if p.owed ≤ 1 then .done (Char.ofNat code)
  else .more ⟨p.owed - 1, 0x80, 0xBF, p.octets ++ [octet], code⟩

/-- Whether an octet may continue the sequence. -/
def Utf8Pending.admits (p : Utf8Pending) (octet : UInt8) : Bool :=
  p.low ≤ octet.toNat && octet.toNat ≤ p.high

/-- A character, or the octets of an ill-formed stretch. -/
abbrev Utf8Unit := Except (List UInt8) Char

/-- The characters of a run of octets that follow an unfinished sequence, if there is one. -/
def utf8ScanFrom : Option Utf8Pending → List UInt8 → List Utf8Unit
  | none, [] => []
  | some p, [] => [.error p.octets]
  | pending, b :: bs =>
    let (broken, next) : List Utf8Unit × Utf8Start := match pending with
      | none => ([], utf8Start b)
      | some p => if p.admits b then ([], p.push b) else ([.error p.octets], utf8Start b)
    broken ++ match next with
      | .done c => .ok c :: utf8ScanFrom none bs
      | .more p => utf8ScanFrom (some p) bs
      | .fault => .error [b] :: utf8ScanFrom none bs

/-- The characters of a run of octets, with the octets of each maximal ill-formed stretch. -/
def utf8Scan (bytes : List UInt8) : List Utf8Unit := utf8ScanFrom none bytes

/-- The text that a run of octets encodes, if it is well-formed. -/
def utf8Decode? (bytes : List UInt8) : Option (List Char) := (utf8Scan bytes).mapM (·.toOption)

/-- The text that a run of octets encodes, with `U+FFFD` for each ill-formed stretch. -/
def utf8DecodeReplacing (bytes : List UInt8) : List Char :=
  (utf8Scan bytes).map fun
    | .ok c => c
    | .error _ => '\uFFFD'

/-- The surrogate that stands for an octet. -/
def escapedOctet (b : UInt8) : CodePoint := CodePoint.ofNat (0xDC00 + b.toNat)

/-- The text that a run of octets encodes, with a surrogate for each octet of an ill-formed stretch. -/
def utf8DecodeEscaping (bytes : List UInt8) : List CodePoint :=
  (utf8Scan bytes).flatMap fun
    | .ok c => [.char c]
    | .error octets => octets.map escapedOctet

/-! ### Writing -/

/-- A stretch of surrogates, for which there are no octets: its first code point, the place of that in
the text, and the number of code points. -/
structure Unencodable where
  code : Nat
  first : Nat
  length : Nat
  deriving DecidableEq

/-- The first stretch of surrogates that has no octets, in code points that stand at the place `n`.  The
surrogates for which `spared` holds count only behind others. -/
def unencodableFrom (spared : CodePoint → Bool) (n : Nat) : List CodePoint → Option Unencodable
  | [] => none
  | c :: cs =>
    if c.isSurrogate && !spared c then
      some ⟨c.toNat, n, 1 + (cs.takeWhile CodePoint.isSurrogate).length⟩
    else unencodableFrom spared (n + 1) cs

/-- What keeps a text from being written, if anything does. -/
def unencodable? (s : Text) : Option Unencodable := unencodableFrom (fun _ => false) 0 s.points

/-- The words for what keeps a text from being written. -/
def Unencodable.message (u : Unencodable) : Text :=
  if u.length = 1 then
    "'utf-8' codec can't encode character '\\u" ++ ofChars (Nat.toDigits 16 u.code) ++
      "' in position " ++ Nat.repr u.first ++ ": surrogates not allowed"
  else
    "'utf-8' codec can't encode characters in position " ++ Nat.repr u.first ++ "-" ++
      Nat.repr (u.first + u.length - 1) ++ ": surrogates not allowed"

/-- The octets of a code point; a surrogate has none. -/
def utf8EncodePoint : CodePoint → List UInt8
  | .char c => String.utf8EncodeChar c
  | .surrogate _ => []

/-- The octets of the characters of a text. -/
def utf8Encode (s : Text) : List UInt8 := s.points.flatMap utf8EncodePoint

/-- The octets of a text, if it can be written. -/
def utf8Encode? (s : Text) : Except Unencodable (List UInt8) :=
  match unencodable? s with
  | some u => .error u
  | none => .ok (utf8Encode s)

@[simp] theorem utf8Scan_nil : utf8Scan [] = [] := rfl

/-- An ASCII octet that follows a complete character is itself. -/
theorem utf8Scan_ascii (b : UInt8) (bs : List UInt8) (h : b.toNat < 0x80) :
    utf8Scan (b :: bs) = .ok (Char.ofNat b.toNat) :: utf8Scan bs := by
  simp [utf8Scan, utf8ScanFrom, utf8Start, h]

end CpeMatch.Text
