import CpeMatch.Fault

/-!
**Paths.**

A path is written in its simplest form: repeated slashes and components `.` are left out, while `..`
stays, since it may lead through a link.  To the operating system a path is a row of octets, and names
with the same octets are one name.  A path cannot hold a null character, and of the surrogates only those
that stand for a single octet each; the whole and each of its components are bounded in length.

Main definitions:

* `CpeMatch.Files.Path` — an absolute or relative path;
* `CpeMatch.Files.Path.parse`, `CpeMatch.Files.Path.text` — reading and writing one;
* `CpeMatch.Files.Path.before` — the order of paths, component by component;
* `CpeMatch.Files.Path.listed` — the name that a folder lists for given octets;
* `CpeMatch.Files.Path.flawOf?` — why the operating system does not even look for a path.
-/

set_option autoImplicit false

namespace CpeMatch.Files

/-- A path: the slashes it begins with, none for a relative one, and its components. -/
structure Path where
  root : Text
  components : List Text
  deriving DecidableEq, Inhabited

namespace Path

/-- Whether a code point is a slash. -/
def isSlash (c : CodePoint) : Bool := c = '/'

/-- The root that a text begins with: exactly two slashes are a root of their own. -/
def rootOf (cs : List CodePoint) : Text :=
  match (cs.takeWhile isSlash).length with
  | 0 => Text.empty
  | 2 => "//"
  | _ => "/"

/-- Reads a path. -/
def parse (s : Text) : Path :=
  let parts := Text.split '/' ⟨s.points.dropWhile isSlash⟩
  ⟨rootOf s.points, parts.filter fun p => p ≠ "" && p ≠ "."⟩

/-- Writes a path; the empty one is `.`. -/
def text (p : Path) : Text :=
  if p.root = "" && p.components.isEmpty then "." else p.root ++ Text.intercalate "/" p.components

/-- Whether a text asks for a folder: nothing, or the folder itself, is named behind its last slash. -/
def asksForFolder (s : Text) : Bool :=
  (Text.split '/' s).getLast?.any fun (name : Text) => name = "" || name = "."

/-- The path of a component inside a folder. -/
def child (p : Path) (name : Text) : Path := { p with components := p.components ++ [name] }

/-- The path without its last component. -/
def parent (p : Path) : Path := { p with components := p.components.dropLast }

/-- The components with the root, if there is one, as the first of them. -/
def parts (p : Path) : List Text :=
  if p.root = "" then p.components else p.root :: p.components

/-- The paths on the way to a path, itself as the last of them. -/
def stages (p : Path) : List Path :=
  (List.range p.components.length).map fun n => { p with components := p.components.take (n + 1) }

/-- The path with the given parts. -/
def ofParts : List Text → Path
  | [] => ⟨"", []⟩
  | part :: rest => if part = "/" || part = "//" then ⟨part, rest⟩ else ⟨"", part :: rest⟩

/-- Goes a component further from the components before it, of which the last come first; `..` takes away
the one before it. -/
def resolveStep (absolute : Bool) (before : List Text) (name : Text) : List Text :=
  if name = ".." then
    match before with
    | [] => if absolute then [] else [name]
    | last :: others => if last = ".." then name :: before else others
  else name :: before

/-- The path with `..` taken for the component before it, whatever is there. -/
def resolved (p : Path) : Path :=
  { p with components := (p.components.foldl (resolveStep (p.root ≠ "")) []).reverse }

/-- Whether a path comes before another, compared component by component. -/
def before (p q : Path) : Bool := compare p.parts q.parts = .lt

/-! ### Octets -/

/-- Whether a code point is a surrogate that stands for a single octet. -/
def isOctet (c : CodePoint) : Bool := 0xDC80 ≤ c.toNat && c.toNat ≤ 0xDCFF

/-- The octets of a code point in a path. -/
def octetsOf (c : CodePoint) : List UInt8 :=
  if isOctet c then [UInt8.ofNat (c.toNat - 0xDC00)] else Text.utf8EncodePoint c

/-- The octets of a text in a path. -/
def octets (s : Text) : List UInt8 := s.points.flatMap octetsOf

/-- The number of octets of a text in a path. -/
def octetCount (s : Text) : Nat := (octets s).length

/-- The name as a folder lists it: two names with the same octets are listed alike. -/
def listed (name : Text) : Text := ⟨Text.utf8DecodeEscaping (octets name)⟩

/-- The greatest number of octets of a path. -/
def greatestLength : Nat := 4095

/-- The greatest number of octets of a component. -/
def greatestName : Nat := 255

/-- Whether a component has more octets than a name can have. -/
def isLongName (name : Text) : Bool := greatestName < octetCount name

/-- Why the operating system does not even look for what a text leads to, if it does not: the text has no
octets, or one that is null, or too many. -/
def flawOf? (s : Text) : Option FileFault :=
  match Text.unencodableFrom isOctet 0 s.points with
  | some cause => some (.unencodable cause)
  | none =>
    if s.points.contains (.char '\x00') then some .nullCharacter
    else if greatestLength < octetCount s then some .nameTooLong
    else none

/-- Why the operating system does not even look for a path, if it does not. -/
def flaw? (p : Path) : Option FileFault := flawOf? p.text

end Path

end CpeMatch.Files
