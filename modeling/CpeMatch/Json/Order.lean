import CpeMatch.Json.Basic

/-!
**Equality and order of values.**

Two values are alike if they have the same content: numbers by their exact values, truth values
counting as one and zero, arrays item by item, objects by their members in any order.  Values are
ordered only within texts, within numbers and truth values, and within arrays, which compare at their
first differing items; all other pairs have no order.

Main definitions:

* `CpeMatch.Json.alike` — equality of content;
* `CpeMatch.Json.precedes?` — whether a value comes before another, where the two have an order.
-/

set_option autoImplicit false

namespace CpeMatch.Json

/-- A number or truth value as a number. -/
def asNumber? : Json → Option Number
  | .bool b => some (.whole (if b then 1 else 0))
  | .number n => some n
  | _ => none

mutual

/-- Whether two values have the same content. -/
def alike : Json → Json → Bool
  | .null, w => match w with | .null => true | _ => false
  | .bool b, w => match w.asNumber? with
    | some m => (Number.whole (if b then 1 else 0)).equal m
    | none => false
  | .number n, w => match w.asNumber? with
    | some m => n.equal m
    | none => false
  | .string s, w => match w with | .string t => s = t | _ => false
  | .array xs, w => match w with | .array ys => alikeItems xs ys | _ => false
  | .object ms, w => match w with
    | .object ns => ms.length = ns.length && alikeMembers ms ns
    | _ => false

/-- Whether two arrays have the same content. -/
def alikeItems : List Json → List Json → Bool
  | [], ys => ys.isEmpty
  | x :: xs, ys => match ys with | [] => false | y :: ys => x.alike y && alikeItems xs ys

/-- Whether every member of the first object is one of the second. -/
def alikeMembers : List (Text × Json) → List (Text × Json) → Bool
  | [], _ => true
  | (name, v) :: rest, ns =>
    (match ns.lookup name with | some w => v.alike w | none => false) && alikeMembers rest ns

end

instance : BEq Json := ⟨alike⟩

mutual

/-- Whether the first value comes before the second; nothing if the two have no order. -/
def precedes? : Json → Json → Option Bool
  | .null, _ => none
  | .object _, _ => none
  | .bool b, w => w.asNumber?.map fun m =>
    (Number.whole (if b then 1 else 0)).compare? m == some .lt
  | .number n, w => w.asNumber?.map fun m => n.compare? m == some .lt
  | .string s, w => match w with | .string t => some (s < t) | _ => none
  | .array xs, w => match w with | .array ys => itemsPrecede? xs ys | _ => none

/-- The order of arrays: that of the first items that differ, else the shorter one comes first. -/
def itemsPrecede? : List Json → List Json → Option Bool
  | [], ys => some !ys.isEmpty
  | x :: xs, ys => match ys with
    | [] => some false
    | y :: ys => if x.alike y then itemsPrecede? xs ys else x.precedes? y

end

end CpeMatch.Json
