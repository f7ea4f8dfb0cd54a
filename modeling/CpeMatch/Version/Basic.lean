import CpeMatch.Version.Token
import CpeMatch.Text.Blank
import CpeMatch.Json.Basic

/-!
**Versions.**

A version is a text with its tokens.  Reading one never fails: text that says nothing about a version
is the unspecified version, which has no tokens and is shown as `-`.  Versions are compared by their
tokens alone, token by token, and a version that another one continues is the smaller of the two.

Main definitions:

* `CpeMatch.Version` — the type, and `CpeMatch.Version.unspecified`;
* `CpeMatch.Version.parse` — the version that a text writes;
* `CpeMatch.Version.ofParts` — a version with an update behind it;
* `CpeMatch.Version.major`, `CpeMatch.Version.sameMajor` — the release line of a version.
-/

set_option autoImplicit false

namespace CpeMatch

/-- A version: the text it was read from and the tokens of that text. -/
structure Version where
  text : Text
  tokens : List Version.Token
  deriving Inhabited

namespace Version

/-- The version of which nothing is known. -/
def unspecified : Version := ⟨"-", []⟩

/-- Whether nothing is known of the version. -/
def isUnspecified (v : Version) : Bool := v.tokens.isEmpty

/-- Whether a text without surrounding blanks says something about a version. -/
def hasValue (s : Text) : Bool := s ≠ "" && s ≠ "-" && s ≠ "*"

/-- The version that a text writes. -/
def parse (s : Text) : Version :=
  let stripped := Text.strip s
  if hasValue stripped then
    match usableTokens stripped.points with
    | [] => unspecified
    | tokens => ⟨stripped, tokens⟩
  else unspecified

/-- The version that a value writes; only a text writes any. -/
def ofJson : Json → Version
  | .string s => parse s
  | _ => unspecified

/-- A version with an update behind it, which counts only if it has a value and so has the version. -/
def ofParts (version update : Option Text) : Version :=
  match version with
  | none => unspecified
  | some v =>
    if hasValue (Text.strip v) then
      match update with
      | none => parse v
      | some u =>
        if hasValue (Text.strip u) then parse (Text.strip v ++ "." ++ Text.strip u) else parse v
    else unspecified

/-- The first token, which names the release line. -/
def major (v : Version) : Option Token := v.tokens.head?

/-- Whether two versions are specified and belong to the same release line. -/
def sameMajor (v w : Version) : Bool :=
  match v.major, w.major with
  | some s, some t => s = t
  | _, _ => false

/-- The order of versions, which is that of their tokens. -/
def compare (v w : Version) : Ordering := List.compareLex Ord.compare v.tokens w.tokens

/-- Versions with equal tokens are equal. -/
instance : BEq Version := ⟨fun v w => v.tokens == w.tokens⟩

/-- The hash of a version is that of its tokens; its text has no part in it. -/
instance : Hashable Version := ⟨fun v => hash v.tokens⟩

instance : Ord Version := ⟨compare⟩

instance : LT Version := ⟨fun v w => v.compare w = .lt⟩

instance : LE Version := ⟨fun v w => v.compare w ≠ .gt⟩

instance : DecidableLT Version := fun v w => inferInstanceAs (Decidable (v.compare w = .lt))

instance : DecidableLE Version := fun v w => inferInstanceAs (Decidable (v.compare w ≠ .gt))

@[simp] theorem unspecified_isUnspecified : unspecified.isUnspecified = true := rfl

@[simp] theorem major_unspecified : unspecified.major = none := rfl

end Version

end CpeMatch
