import CpeMatch.Number.Basic
import CpeMatch.Text.Basic

/-!
**JSON values.**

A value keeps integers and floating-point numbers apart and the members of an object in the order
of their first appearance, each name once.

Main definitions:

* `CpeMatch.Json` — the values;
* `CpeMatch.Json.get?`, `CpeMatch.Json.setMember` — the members of an object;
* `CpeMatch.Json.isTruthy` — whether a value counts as given: it is not `null`, `false`, zero or
  empty;
* `CpeMatch.Json.kind` — the name of a value's kind, as messages show it.
-/

set_option autoImplicit false

namespace CpeMatch

/-- A JSON value. -/
inductive Json where
  | null
  | bool (b : Bool)
  | number (n : Number)
  | string (s : Text)
  | array (items : List Json)
  | object (members : List (Text × Json))
  deriving Inhabited

namespace Json

/-- The integer `n` as a value. -/
def int (n : Int) : Json := .number (.whole n)

/-- The floating-point number `x` as a value. -/
def float (x : Float) : Json := .number (.binary x)

/-- A text, or `null` where there is none. -/
def ofText? : Option Text → Json
  | some s => .string s
  | none => .null

/-- Sets the member `name`: in its old place if there is one, else at the end. -/
def setMember (name : Text) (value : Json) : List (Text × Json) → List (Text × Json)
  | [] => [(name, value)]
  | (k, v) :: rest =>
    if k = name then (k, value) :: rest else (k, v) :: setMember name value rest

/-- An object with the given members, of which the last of one name counts. -/
def ofMembers (members : List (Text × Json)) : Json :=
  .object (members.foldl (fun done m => setMember m.1 m.2 done) [])

/-- The member `name` of an object. -/
def get? (name : Text) : Json → Option Json
  | .object members => members.lookup name
  | _ => none

/-- The member `name` of an object, and `null` where there is none. -/
def getD (name : Text) (v : Json) : Json := (v.get? name).getD .null

/-- The items of an array; none for any other value. -/
def items : Json → List Json
  | .array items => items
  | _ => []

/-- The text of a text value. -/
def text? : Json → Option Text
  | .string s => some s
  | _ => none

/-- Whether a value counts as given. -/
def isTruthy : Json → Bool
  | .null => false
  | .bool b => b
  | .number n => !n.isZero
  | .string s => s ≠ Text.empty
  | .array items => !items.isEmpty
  | .object members => !members.isEmpty

/-- The name of the kind of a value. -/
def kind : Json → String
  | .null => "NoneType"
  | .bool _ => "bool"
  | .number (.whole _) => "int"
  | .number (.binary _) => "float"
  | .string _ => "str"
  | .array _ => "list"
  | .object _ => "dict"

/-- The first of two values that is given, the second if neither is. -/
def orElse (v w : Json) : Json := if v.isTruthy then v else w

end Json

end CpeMatch
