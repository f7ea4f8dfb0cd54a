import CpeMatch.Json.Basic
import CpeMatch.Text.Quoted

/-!
**Values as messages show them.**

In a message a value stands in the notation `{'a': [1, 2.5, None, True]}`: texts are quoted, and the
constants are `None`, `True` and `False`.  A text that is a message of its own stands without quotes.
Every value has a text here: that a program may lack the room to write one that is nested very deep, or
digits for a very long integer, is left out.

Main definitions: `CpeMatch.Json.shown`, `CpeMatch.Json.plain`.
-/

set_option autoImplicit false

namespace CpeMatch.Json

mutual

/-- A value as it stands inside a message. -/
def shown : Json → Text
  | .null => "None"
  | .bool true => "True"
  | .bool false => "False"
  | .number n => n.text
  | .string s => Text.quoted s
  | .array items => "[" ++ Text.intercalate ", " (shownItems items) ++ "]"
  | .object members => "\x7b" ++ Text.intercalate ", " (shownMembers members) ++ "\x7d"

/-- The items of an array as they stand inside a message. -/
def shownItems : List Json → List Text
  | [] => []
  | v :: rest => v.shown :: shownItems rest

/-- The members of an object as they stand inside a message. -/
def shownMembers : List (Text × Json) → List Text
  | [] => []
  | (name, v) :: rest => (Text.quoted name ++ ": " ++ v.shown) :: shownMembers rest

end

/-- A value as a text of its own. -/
def plain : Json → Text
  | .string s => s
  | v => v.shown

@[simp] theorem plain_string (s : Text) : (Json.string s).plain = s := rfl

end CpeMatch.Json
