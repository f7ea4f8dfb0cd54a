import CpeMatch.Fault
import CpeMatch.Version.Basic
import CpeMatch.Text.Lower
import CpeMatch.Text.Percent

/-!
**CPE names.**

A CPE name says vendor, product and version of a piece of software, as a formatted string
`cpe:2.3:a:vendor:product:version:update` whose fields are escaped by backslashes, or as a URI
`cpe:/a:vendor:product:version:update` whose fields are percent-encoded.  Text of any other form is
kept, with all its fields empty.

Main definitions:

* `CpeMatch.Cpe` — a name and its fields;
* `CpeMatch.Cpe.splitFields`, `CpeMatch.Cpe.unescape` — the fields of a formatted string;
* `CpeMatch.Cpe.parse`, `CpeMatch.Cpe.ofJson` — reading a name;
* `CpeMatch.Cpe.version` — the version it names, with its update.
-/

set_option autoImplicit false

namespace CpeMatch

/-- A CPE name: the text without surrounding blanks, and its fields. -/
structure Cpe where
  text : Text
  part : Text
  vendor : Text
  product : Text
  versionText : Text
  update : Text
  deriving DecidableEq, Inhabited

namespace Cpe

/-- How the fields of a name are written. -/
inductive Binding where
  /-- The formatted string of version 2.3. -/
  | formatted
  /-- The URI of version 2.2. -/
  | uri

/-- The characters that a name in this binding begins with. -/
def Binding.scheme : Binding → List CodePoint
  | formatted => ['c', 'p', 'e', ':', '2', '.', '3', ':']
  | uri => ['c', 'p', 'e', ':', '/']

/-- Whether a text begins with the scheme of a binding, in any letter case. -/
def Binding.begins (b : Binding) (cs : List CodePoint) : Bool :=
  (cs.take b.scheme.length).map (·.mapChar Char.toLower) == b.scheme

/-- Puts a code point ahead of the first field. -/
def consField (c : CodePoint) : List (List CodePoint) → List (List CodePoint)
  | [] => [[c]]
  | field :: fields => (c :: field) :: fields

/-- Splits a text at its colons.  With `escapes`, a colon right after a backslash is part of its
field; the flag `escaped` tells that the code point before the text is a backslash. -/
def splitFields (escapes escaped : Bool) : List CodePoint → List (List CodePoint)
  | [] => [[]]
  | c :: cs =>
    if c = ':' && !(escapes && escaped) then [] :: splitFields escapes false cs
    else consField c (splitFields escapes (c = '\\') cs)

/-- Takes away each backslash ahead of a code point other than a line feed. -/
def unescape : List CodePoint → List CodePoint
  | [] => []
  | [c] => [c]
  | c :: d :: cs =>
    if c = '\\' && d ≠ '\n' then d :: unescape cs else c :: unescape (d :: cs)

/-- The fields of a text after the scheme of a binding. -/
def Binding.fields (b : Binding) (cs : List CodePoint) : List Text :=
  match b with
  | formatted => (splitFields true false cs).map fun f => ⟨unescape f⟩
  | uri => (splitFields false false cs).map fun f => ⟨Text.percentDecode f⟩

/-- The name with the given text and fields; part, vendor and product are in lower case. -/
def ofFields (text : Text) (fields : List Text) : Cpe :=
  let field (i : Nat) := fields.getD i Text.empty
  { text
    part := Text.lower (field 0)
    vendor := Text.lower (field 1)
    product := Text.lower (field 2)
    versionText := field 3
    update := field 4 }

/-- Reads a name. -/
def parse (s : Text) : Cpe :=
  let text := Text.strip s
  let cs := text.points
  if Binding.formatted.begins cs then
    ofFields text (Binding.formatted.fields (cs.drop Binding.formatted.scheme.length))
  else if Binding.uri.begins cs then
    ofFields text (Binding.uri.fields (cs.drop Binding.uri.scheme.length))
  else ofFields text []

/-- Reads a name from a value, which has to be a text if it is given at all. -/
def ofJson (v : Json) : Except Fault Cpe :=
  match v with
  | .string s => .ok (parse s)
  | v => if v.isTruthy then .error .notText else .ok (parse Text.empty)

/-- The version that the name says, with its update. -/
def version (c : Cpe) : Version := Version.ofParts (some c.versionText) (some c.update)

/-- Whether the name says vendor and product. -/
def isValid (c : Cpe) : Bool := c.vendor ≠ "" && c.product ≠ ""

/-- Vendor and product of the name. -/
def key (c : Cpe) : Text × Text := (c.vendor, c.product)

@[simp] theorem splitFields_nil (escapes escaped : Bool) : splitFields escapes escaped [] = [[]] := rfl

@[simp] theorem unescape_nil : unescape [] = [] := rfl

@[simp] theorem ofJson_string (s : Text) : ofJson (.string s) = .ok (parse s) := rfl

end Cpe

end CpeMatch
