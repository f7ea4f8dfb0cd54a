import CpeMatch.Timing.Monitor

/-!
**Nested timed work.**

Timed blocks and announced calls may hold further blocks, calls and looks at the summary, to any depth.  A
block or a call that fails is handled where it stands, and the work goes on behind it.  A look that fails ends
the block or call that it is made in, and if its fault is not a foreseen one all other work, too.

Main definitions:

* `CpeMatch.Timing.Activity` — a tree of timed work;
* `CpeMatch.Timing.runBlock`, `CpeMatch.Timing.runCall` — doing work in a block, and in a call;
* `CpeMatch.Timing.Activity.run` — running it, with an outcome for each part in the order in which the
  parts end.
-/

set_option autoImplicit false

namespace CpeMatch.Timing

/-- A tree of timed work, in which calls give values and looks show values. -/
inductive Activity (τ β : Type) where
  /-- A timed block with the work inside it, the number of its items and perhaps a failure at its
  end. -/
  | block (name : Text) (inside : List (Activity τ β)) (items : Number) (failure : Option Text)
  /-- An announced call with the work inside it, which at its end gives a value or fails. -/
  | announced (name : Text) (inside : List (Activity τ β)) (value : β) (failure : Option Text)
  /-- A look at the summary, of which something is shown. -/
  | look (view : Option (Summary τ) → Except Fault β)

/-- An announced call with no work inside it. -/
def Activity.call {τ β : Type} (name : Text) (value : β) (failure : Option Text) : Activity τ β :=
  .announced name [] value failure

instance {τ β : Type} [Inhabited β] : Inhabited (Activity τ β) := ⟨.call default default none⟩

/-- What a part of timed work ends with. -/
inductive Outcome (τ β : Type) where
  | timed (time : τ) (items : Number)
  | blockFailed (fault : Fault)
  | returned (value : β) (log : List Log.Record)
  | callFailed (fault : Fault) (log : List Log.Record)
  | shown (value : β)

/-- The outcomes of parts of timed work that have ended, and the fault that has kept it from going on. -/
structure Course (τ β : Type) where
  outcomes : List (Outcome τ β)
  fault : Option Fault

section

variable {τ β : Type} [Duration τ]

/-- The records that have been written to the log since it had the given length. -/
def logSince (n : Nat) (s : Session τ (Monitor τ)) : List Log.Record := s.log.toList.drop n

/-- The number of items of a block in which the given work has been done: none if that was not done to
its end. -/
def itemsAfter (items : Number) (inside : Course τ β) : Number :=
  if inside.fault.isNone then items else .whole 0

/-- The course of a block that holds the given work, with the block's own outcome at the end.  The block
fails with the fault of the work if that is foreseen, and passes it on if not. -/
def Course.close (failure : Option Text) (inside : Course τ β) (m : Metric τ) : Course τ β :=
  match inside.fault, failure with
  | some fault, _ =>
    if fault.isForeseen then ⟨inside.outcomes ++ [.blockFailed fault], none⟩ else inside
  | none, some message => ⟨inside.outcomes ++ [.blockFailed (.step message)], none⟩
  | none, none => ⟨inside.outcomes ++ [.timed m.time m.items], none⟩

/-- What a call that holds the given work ends with: this work, with the fault of it or of the call's own end
if there is one. -/
def Course.ending (failure : Option Text) (inside : Course τ β) :
    Except (Fault × Course τ β) (Course τ β) :=
  match inside.fault, failure with
  | some fault, _ => .error (fault, inside)
  | none, some message => .error (.step message, inside)
  | none, none => .ok inside

/-- The course of a call that holds the given work and fails with the given fault, if that is foreseen; a call
passes on any other. -/
def Course.failCall (inside : Course τ β) (fault : Fault) (log : List Log.Record) : Course τ β :=
  if fault.isForeseen then ⟨inside.outcomes ++ [.callFailed fault log], none⟩ else inside

/-- Work, as it is done in a block. -/
def blockTask (items : Number) (inside : StateM (Session τ (Monitor τ)) (Course τ β)) :
    Task τ (Monitor τ) Fault (Number × Except Fault (Course τ β)) := fun s =>
  let (course, s) := inside s
  (.ok (itemsAfter items course, .ok course), s)

/-- Does work in a timed block, which may fail at its end. -/
def runBlock (name : Text) (items : Number) (failure : Option Text)
    (inside : StateM (Session τ (Monitor τ)) (Course τ β)) : StateM (Session τ (Monitor τ)) (Course τ β) :=
  fun s =>
    match (measure Monitor.record name (blockTask items inside)).start s with
    | (.ok (metric, .ok course), s) => (course.close failure metric, s)
    | (.ok (_, .error fault), s) => (⟨[], some fault⟩, s)
    | (.error fault, s) => (⟨[], some fault⟩, s)

/-- Work, as it is done in a call. -/
def callTask (failure : Option Text) (inside : StateM (Session τ (Monitor τ)) (Course τ β)) :
    Task τ (Monitor τ) (Fault × Course τ β) (Course τ β) := fun s =>
  let (course, s) := inside s
  (course.ending failure, s)

/-- Does work in an announced call, which gives a value or fails at its end. -/
def runCall (show4 : τ → Text) (name : Text) (value : β) (failure : Option Text)
    (inside : StateM (Session τ (Monitor τ)) (Course τ β)) : StateM (Session τ (Monitor τ)) (Course τ β) :=
  fun s =>
    let before := s.log.size
    match (announced show4 name (callTask failure inside)).start s with
    | (.ok course, s) => (⟨course.outcomes ++ [.returned value (logSince before s)], none⟩, s)
    | (.error (fault, course), s) => (course.failCall fault (logSince before s), s)

mutual

/-- Runs a part of timed work and everything inside it. -/
def Activity.run (show4 : τ → Text) : Activity τ β → StateM (Session τ (Monitor τ)) (Course τ β)
  | .block name inside items failure => runBlock name items failure (runAll show4 inside)
  | .announced name inside value failure => runCall show4 name value failure (runAll show4 inside)
  | .look view => fun s =>
    match s.state.summary >>= view with
    | .ok value => (⟨[.shown value], none⟩, s)
    | .error fault => (⟨[], some fault⟩, s)

/-- Runs parts of timed work one after another, up to the first that does not let the others go on. -/
def runAll (show4 : τ → Text) :
    List (Activity τ β) → StateM (Session τ (Monitor τ)) (Course τ β)
  | [] => pure ⟨[], none⟩
  | a :: rest => fun s =>
    let (first, s) := a.run show4 s
    match first.fault with
    | some _ => (first, s)
    | none =>
      let (others, s) := runAll show4 rest s
      (⟨first.outcomes ++ others.outcomes, others.fault⟩, s)

end

end

end CpeMatch.Timing
