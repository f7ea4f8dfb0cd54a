import CpeMatch.Log.Record
import CpeMatch.Timing.Duration

/-!
**Sessions.**

A session is what a run reads and leaves behind besides its result: a clock, which is read one reading
after another, the log, and whatever state the run works on.  A run that fails leaves the session as far
as it has come.

Main definitions:

* `CpeMatch.Timing.Clock` — a sequence of readings and how many have been taken;
* `CpeMatch.Timing.Session`, `CpeMatch.Timing.Task` — the session, and what runs in one;
* `CpeMatch.Timing.Task.tick`, `CpeMatch.Timing.Task.note` — reading the clock, and writing to the log;
* `CpeMatch.Timing.Task.within` — a task on a part of the state.
-/

set_option autoImplicit false

namespace CpeMatch.Timing

/-- A clock: the sequence of its readings, and how many have been taken. -/
structure Clock (τ : Type) where
  reading : Nat → τ
  taken : Nat

namespace Clock

variable {τ : Type}

/-- The clock that gives the listed readings and then the last of them for ever. -/
def ofList [Duration τ] (readings : List τ) : Clock τ :=
  ⟨fun n => readings.getD n (readings.getLastD Duration.zero), 0⟩

/-- Takes the next reading. -/
def take (c : Clock τ) : τ × Clock τ := (c.reading c.taken, { c with taken := c.taken + 1 })

end Clock

/-- What a run reads and leaves behind. -/
structure Session (τ S : Type) where
  clock : Clock τ
  /-- Whether timings are to be announced in the log. -/
  announcing : Bool
  log : Array Log.Record
  state : S

/-- A run in a session, which gives a result or fails. -/
abbrev Task (τ S ε α : Type) := ExceptT ε (StateM (Session τ S)) α

namespace Task

variable {τ S T ε α : Type}

/-- Runs a task. -/
def start (t : Task τ S ε α) (s : Session τ S) : Except ε α × Session τ S := t.run.run s

/-- Takes a reading of the clock. -/
def tick : Task τ S ε τ := do
  let s ← get
  let (reading, clock) := s.clock.take
  set { s with clock }
  return reading

/-- Writes a record to the log. -/
def note (r : Log.Record) : Task τ S ε Unit := modify fun s => { s with log := s.log.push r }

/-- Writes records to the log. -/
def noteAll : List Log.Record → Task τ S ε Unit
  | [] => pure ()
  | r :: rest => do
    note r
    noteAll rest

/-- Reads the state. -/
def state : Task τ S ε S := do return (← get).state

/-- Replaces the state. -/
def setState (state : S) : Task τ S ε Unit := modify fun s => { s with state }

/-- Changes the state. -/
def change (f : S → S) : Task τ S ε Unit := modify fun s => { s with state := f s.state }

/-- Runs a task to its result or fault, without failing. -/
def attempt (t : Task τ S ε α) : Task τ S ε (Except ε α) := fun s =>
  let (result, s) := t.run.run s
  (.ok result, s)

/-- Runs a task on a part of the state. -/
def within (part : S → T) (put : T → S → S) (t : Task τ T ε α) : Task τ S ε α := fun s =>
  let (result, inner) := t.run.run { s with state := part s.state }
  (result, { inner with state := put inner.state s.state })

end Task

end CpeMatch.Timing
