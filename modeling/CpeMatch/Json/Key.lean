import CpeMatch.Json.Order

/-!
**Keys.**

A value by which something is looked up is a key.  Every value but an array or an object can be one, and
values that are alike are one key: a number is the key of its exact value, whichever way it is written,
and a truth value that of one or zero.

Main definitions:

* `CpeMatch.Json.Key` — the keys, with an order;
* `CpeMatch.Json.key?` — the key that a value is;
* `CpeMatch.Json.firstOfEach` — the first of the values of each key.
-/

set_option autoImplicit false

namespace CpeMatch.Json

/-- A key. -/
inductive Key where
  | null
  | text (s : Text)
  /-- A number in lowest terms; one or minus one over zero is an infinity. -/
  | number (numerator : Int) (denominator : Nat)
  /-- The number that is none. -/
  | notNumber
  deriving DecidableEq

namespace Key

/-- A row of integers that tells keys apart. -/
def code : Key → List Int
  | null => [0]
  | text s => 1 :: s.codes.map Int.ofNat
  | number numerator denominator => [2, numerator, denominator]
  | notNumber => [3]

instance : Ord Key := ⟨compareOn code⟩

/-- The key of a number. -/
def ofNumber (n : Number) : Key :=
  match n.fraction? with
  | none => notNumber
  | some (numerator, denominator) =>
    let divisor := numerator.natAbs.gcd denominator
    number (numerator / divisor) (denominator / divisor)

end Key

/-- The key that a value is; arrays and objects are none. -/
def key? : Json → Option Key
  | .null => some .null
  | .string s => some (.text s)
  | .bool b => some (Key.ofNumber (.whole (if b then 1 else 0)))
  | .number n => some (Key.ofNumber n)
  | .array _ | .object _ => none

/-- The values that are no later value of a key that has come before; `seen` are the keys of those that
have.  Nothing if one of the values is no key. -/
def firstOfEachAfter (seen : List Key) : List Json → Option (List Json)
  | [] => some []
  | v :: rest =>
    match v.key? with
    | none => none
    | some key =>
      if seen.contains key then firstOfEachAfter seen rest
      else (firstOfEachAfter (key :: seen) rest).map (v :: ·)

/-- The first of the values of each key, in the order in which they come. -/
def firstOfEach (values : List Json) : Option (List Json) := firstOfEachAfter [] values

@[simp] theorem key?_string (s : Text) : (Json.string s).key? = some (.text s) := rfl

end CpeMatch.Json
