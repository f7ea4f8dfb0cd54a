import CpeMatch.Json.Token

/-!
**Reading a document.**

The tokens of a document are taken one after another by a machine that keeps the arrays and objects
still open, innermost first, and what may come next.  The first token that may not come decides how
the document is refused.

Main definitions:

* `CpeMatch.Json.DocumentError` — why a document is refused;
* `CpeMatch.Json.Reading` — a document read in part;
* `CpeMatch.Json.parse` — the value of a text;
* `CpeMatch.Json.ofBytes` — the value of the octets of a file.
-/

set_option autoImplicit false

namespace CpeMatch.Json

/-- Why a document is refused. -/
inductive DocumentError where
  /-- The octets are no text, or the text is no document. -/
  | malformed
  /-- An integer has more digits than can be converted. -/
  | longInteger (digits : Nat)
  /-- Arrays and objects are nested too deep; the flag tells whether it was an object. -/
  | tooDeep (object : Bool)

/-- What bounds a document. -/
structure Limits where
  integerDigits : Option Nat
  depth : Option Nat

/-- The bounds of a document that comes from outside, with at most so many arrays and objects inside one
another. -/
def Limits.ofDepth (depth : Nat) : Limits := ⟨some Json.integerDigits, some depth⟩

/-- An array or object that is still open, its parts last first.  An object knows the name of the
member whose value is being read. -/
inductive Frame where
  | array (items : List Json)
  | object (members : List (Text × Json)) (name : Text)

/-- What may come next. -/
inductive Awaited where
  | value
  | itemOrEnd
  | nameOrEnd
  | name
  | colon
  | commaOrEnd
  | nothing

/-- A document read in part. -/
structure Reading where
  frames : List Frame
  awaited : Awaited
  result : Json

/-- The start of a document. -/
def Reading.start : Reading := ⟨[], .value, .null⟩

/-- Puts a complete value into the innermost open array or object. -/
def Reading.put (r : Reading) (v : Json) : Reading :=
  match r.frames with
  | [] => ⟨[], .nothing, v⟩
  | .array items :: outer => ⟨.array (v :: items) :: outer, .commaOrEnd, r.result⟩
  | .object members name :: outer =>
    ⟨.object ((name, v) :: members) name :: outer, .commaOrEnd, r.result⟩

/-- Opens an array or object, if that is not too deep. -/
def Reading.openFrame (limits : Limits) (r : Reading) (isObject : Bool) :
    Except DocumentError Reading :=
  if limits.depth.any (· ≤ r.frames.length) then .error (.tooDeep isObject)
  else if isObject then .ok ⟨.object [] "" :: r.frames, .nameOrEnd, r.result⟩
  else .ok ⟨.array [] :: r.frames, .itemOrEnd, r.result⟩

/-- Closes the innermost array or object, if it is of the kind that the bracket says. -/
def Reading.closeFrame (r : Reading) (isObject : Bool) : Except DocumentError Reading :=
  match isObject, r.frames with
  | false, .array items :: outer => .ok ({ r with frames := outer }.put (.array items.reverse))
  | true, .object members _ :: outer =>
    .ok ({ r with frames := outer }.put (ofMembers members.reverse))
  | _, _ => .error .malformed

/-- Takes a token that begins a value. -/
def Reading.takeValue (limits : Limits) (r : Reading) : Token → Except DocumentError Reading
  | .openArray => r.openFrame limits false
  | .openObject => r.openFrame limits true
  | .scalar v => .ok (r.put v)
  | .longInteger digits => .error (.longInteger digits)
  | _ => .error .malformed

/-- Takes the name of a member. -/
def Reading.takeName (r : Reading) : Token → Except DocumentError Reading
  | .scalar (.string name) => match r.frames with
    | .object members _ :: outer => .ok ⟨.object members name :: outer, .colon, r.result⟩
    | _ => .error .malformed
  | _ => .error .malformed

/-- Takes the next token. -/
def Reading.take (limits : Limits) (r : Reading) (t : Token) : Except DocumentError Reading :=
  match r.awaited, t with
  | .itemOrEnd, .closeArray => r.closeFrame false
  | .nameOrEnd, .closeObject => r.closeFrame true
  | .commaOrEnd, .closeArray => r.closeFrame false
  | .commaOrEnd, .closeObject => r.closeFrame true
  | .commaOrEnd, .comma => match r.frames with
    | .array _ :: _ => .ok { r with awaited := .value }
    | .object _ _ :: _ => .ok { r with awaited := .name }
    | [] => .error .malformed
  | .colon, .colon => .ok { r with awaited := .value }
  | .value, t => r.takeValue limits t
  | .itemOrEnd, t => r.takeValue limits t
  | .nameOrEnd, t => r.takeName t
  | .name, t => r.takeName t
  | _, _ => .error .malformed

/-- The value that has been read, if nothing is missing. -/
def Reading.finish (r : Reading) : Except DocumentError Json :=
  match r.awaited with
  | .nothing => .ok r.result
  | _ => .error .malformed

/-- The value of a text within the given bounds.  A byte-order mark is not part of a document. -/
def parse (limits : Limits) (cs : List Char) : Except DocumentError Json := do
  if cs.head? = some '\uFEFF' then throw .malformed
  let r ← (tokens limits.integerDigits cs).foldlM (Reading.take limits) Reading.start
  r.finish

/-- The value of the octets of a file within the given bounds. -/
def ofBytes (limits : Limits) (bytes : List UInt8) : Except DocumentError Json :=
  match Text.utf8Decode? bytes with
  | some cs => parse limits cs
  | none => .error .malformed

end CpeMatch.Json
