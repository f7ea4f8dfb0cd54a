import CpeMatch.Fault
import CpeMatch.Log.Record

/-!
**Thresholds.**

A threshold is the level from which on records pass.  It is a number, and the number zero is no
threshold at all; a threshold can be given by the name of a level.

Main definitions:

* `CpeMatch.Log.Threshold` — the thresholds, and `CpeMatch.Log.Threshold.value`;
* `CpeMatch.Log.Threshold.ofJson` — a threshold from a value;
* `CpeMatch.Log.Threshold.requested` — the threshold that is asked for, if one is.
-/

set_option autoImplicit false

namespace CpeMatch.Log

/-- A threshold, as it was given: a number, or a truth value in the place of zero or one. -/
inductive Threshold where
  | number (n : Int)
  | truth (b : Bool)
  deriving DecidableEq, Inhabited

namespace Threshold

/-- The number that the levels of records are compared with. -/
def value : Threshold → Int
  | number n => n
  | truth b => if b then 1 else 0

/-- The threshold that lets a level pass, and all above it. -/
def ofLevel (level : Level) : Threshold := number level.value

/-- No threshold. -/
def unset : Threshold := number 0

/-- Whether there is a threshold. -/
def isSet (t : Threshold) : Bool := t.value ≠ 0

/-- Whether a level passes. -/
def admits (t : Threshold) (level : Level) : Bool := t.value ≤ level.value

/-- The names that thresholds are given by. -/
def names : List (Text × Threshold) :=
  [("CRITICAL", ofLevel .critical), ("FATAL", ofLevel .critical), ("ERROR", ofLevel .error),
   ("WARN", ofLevel .warning), ("WARNING", ofLevel .warning), ("INFO", ofLevel .info),
   ("DEBUG", ofLevel .debug), ("NOTSET", unset)]

/-- The threshold that a value gives. -/
def ofJson : Json → Except Fault Threshold
  | .number (.whole n) => .ok (number n)
  | .bool b => .ok (truth b)
  | .string name => match names.lookup name with
    | some t => .ok t
    | none => .error (.unknownLevel name)
  | _ => .error .notLevel

/-- The threshold that is asked for by a value: none by `null` or zero. -/
def requested (v : Json) : Except Fault (Option Threshold) :=
  match v with
  | .null => .ok none
  | .number n => if n.isZero then .ok none else (ofJson v).map some
  | .bool b => .ok (if b then some (truth true) else none)
  | v => (ofJson v).map some

/-- A threshold as a value. -/
def toJson : Threshold → Json
  | number n => .int n
  | truth b => .bool b

@[simp] theorem ofJson_toJson (t : Threshold) : ofJson t.toJson = .ok t := by
  cases t <;> rfl

theorem requested_toJson (t : Threshold) : requested t.toJson = .ok (if t.isSet then some t else none) := by
  cases t with
  | number n => by_cases hn : n = 0 <;> simp [toJson, Json.int, requested, isSet, value, ofJson, Except.map, hn]
  | truth b => cases b <;> rfl

end Threshold

end CpeMatch.Log
