import CpeMatch.Fault
import CpeMatch.Timing.Session

/-!
**Timing operations.**

A timed block takes a reading of the clock when it is entered and one when it is left, by its end or by a
fault, and its name, time and number of items are recorded if the monitor is enabled.  The summary
gives totals, and the same for each name in the order in which names were first recorded.  Where numbers
of items have no sum there is no summary.

Main definitions:

* `CpeMatch.Timing.Metric`, `CpeMatch.Timing.Monitor` — a timed block, and the record of them;
* `CpeMatch.Timing.measure` — a timed block;
* `CpeMatch.Timing.announced` — a call whose time is announced in the log;
* `CpeMatch.Timing.Summary`, `CpeMatch.Timing.Monitor.summary` — totals by name.
-/

set_option autoImplicit false

namespace CpeMatch.Timing

/-- A timed block. -/
structure Metric (τ : Type) where
  operation : Text
  time : τ
  items : Number

/-- The record of timed blocks. -/
structure Monitor (τ : Type) where
  enabled : Bool
  metrics : Array (Metric τ)

/-- A monitor with nothing recorded. -/
def Monitor.fresh {τ : Type} (enabled : Bool) : Monitor τ := ⟨enabled, #[]⟩

/-- Records a block, if the monitor is enabled. -/
def Monitor.record {τ : Type} (m : Metric τ) (monitor : Monitor τ) : Monitor τ :=
  if monitor.enabled then { monitor with metrics := monitor.metrics.push m } else monitor

section

variable {τ S ε α : Type} [Duration τ]

/-- Times a block, which gives the number of its items with its result or fault; `record` is told of
the block when it is left.  Gives the block's record and its result. -/
def measure (record : Metric τ → S → S) (operation : Text)
    (block : Task τ S ε (Number × Except ε α)) : Task τ S ε (Metric τ × Except ε α) := do
  let entered ← Task.tick
  let (items, result) ← block
  let left ← Task.tick
  let metric : Metric τ := ⟨operation, Duration.sub left entered, items⟩
  Task.change (record metric)
  return (metric, result)

/-- Turns a result or fault back into one. -/
def settle (result : Except ε α) : Task τ S ε α := fun s => (result, s)

/-- Times a block whose items are counted by its result; a block that fails has none. -/
def measureResult (record : Metric τ → S → S) (operation : Text) (items : α → Nat)
    (block : Task τ S ε α) : Task τ S ε α := do
  let (_, result) ← measure record operation do
    let result ← Task.attempt block
    return ((match result with
      | .ok a => .whole (items a)
      | .error _ => .whole 0), result)
  settle result

/-- The environment variable that, unless it is empty, asks for announcements. -/
def announcingVariable : String := "CPESHIELD_VERBOSE_BENCHMARK"

/-- The announcement of a call's time. -/
def announcement (name elapsed : Text) : Log.Record :=
  Log.Channel.timing.record .info (name ++ " took " ++ elapsed ++ " seconds")

/-- Times a call and announces its time if the session is announcing; a call that fails is not
announced, and leaves the clock after its first reading. -/
def announced (show4 : τ → Text) (name : Text) (call : Task τ S ε α) : Task τ S ε α := do
  let entered ← Task.tick
  let result ← call
  let left ← Task.tick
  if (← get).announcing then
    Task.note (announcement name (show4 (Duration.sub left entered)))
  return result

end

/-- The totals of one operation. -/
structure OperationTotals (τ : Type) where
  calls : Nat
  time : τ
  greatest : τ
  items : Number

/-- The totals of everything recorded, and of each operation in the order of first record. -/
structure Summary (τ : Type) where
  executions : Nat
  time : τ
  average : τ
  operations : List (Text × OperationTotals τ)

section

variable {τ : Type} [Duration τ]

/-- The totals of an operation that has not been recorded. -/
def OperationTotals.zero : OperationTotals τ := ⟨0, Duration.zero, Duration.zero, .whole 0⟩

/-- Counts a block of the operation. -/
def OperationTotals.count (t : OperationTotals τ) (m : Metric τ) :
    Except Fault (OperationTotals τ) :=
  match t.items.add? m.items with
  | some items =>
    .ok ⟨t.calls + 1, Duration.add t.time m.time, Duration.greater t.greatest m.time, items⟩
  | none => .error .beyondFloats

/-- Counts a block under its name. -/
def countOperation (m : Metric τ) :
    List (Text × OperationTotals τ) → Except Fault (List (Text × OperationTotals τ))
  | [] => do return [(m.operation, ← OperationTotals.zero.count m)]
  | (name, t) :: rest =>
    if name = m.operation then do return (name, ← t.count m) :: rest
    else do return (name, t) :: (← countOperation m rest)

/-- The totals of each operation, in the order of first record. -/
def operationTotals (metrics : List (Metric τ)) : Except Fault (List (Text × OperationTotals τ)) :=
  metrics.foldlM (fun done m => countOperation m done) []

/-- The sum of the times. -/
def totalTime (metrics : List (Metric τ)) : τ :=
  metrics.foldl (fun sum m => Duration.add sum m.time) Duration.zero

/-- The summary of recorded blocks; nothing if there are none. -/
def summarise (metrics : List (Metric τ)) : Except Fault (Option (Summary τ)) := do
  if metrics.isEmpty then return none else
    return some
      { executions := metrics.length
        time := totalTime metrics
        average := Duration.share (totalTime metrics) metrics.length
        operations := ← operationTotals metrics }

/-- The summary of a monitor. -/
def Monitor.summary (monitor : Monitor τ) : Except Fault (Option (Summary τ)) :=
  summarise monitor.metrics.toList

end

end CpeMatch.Timing
