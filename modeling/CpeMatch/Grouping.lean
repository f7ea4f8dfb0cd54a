import CpeMatch.Matching

/-!
**Matching a stream of entries, vulnerability by vulnerability.**

Entries arrive as a stream of items, each with the id of its vulnerability.  A group is a maximal run of
items with equal ids: it is complete, and can be matched, as soon as an item with another id arrives or
the stream ends.  A stream that is not ordered by id can be read to its end and sorted first.

What happens is recorded as a list of events, items read and groups completed, in the order in which
they happen.  Everything else is read off it: the results, how far the stream has been read when each is
delivered, the counts of groups, and the messages.

Main definitions:

* `CpeMatch.Stream` — a stream, whose items may fail to be built;
* `CpeMatch.CandidateGroup` — the entries collected for one vulnerability;
* `CpeMatch.Grouping`, `CpeMatch.Grouping.events` — how a stream is matched, and what happens;
* `CpeMatch.History.upTo` — what has happened when the `n`-th result is delivered;
* `CpeMatch.History.results` — the results, each with the number of items read by then;
* `CpeMatch.Tally` — the counts of groups, which go on from stream to stream.
-/

set_option autoImplicit false

namespace CpeMatch

/-- Items of a stream: an id with an entry, or the fault that the item cannot be built. -/
abbrev Stream (ι : Type) := List (Except Fault (ι × Entry))

/-- The entries collected for one vulnerability, the latest first. -/
structure CandidateGroup (ι : Type) where
  id : ι
  latest : List Entry

namespace CandidateGroup

variable {ι : Type}

/-- The group of a vulnerability before its first entry. -/
def start (id : ι) : CandidateGroup ι := ⟨id, []⟩

/-- The group with a further entry. -/
def add (g : CandidateGroup ι) (e : Entry) : CandidateGroup ι := { g with latest := e :: g.latest }

/-- The entries in the order in which they arrived. -/
def entries (g : CandidateGroup ι) : List Entry := g.latest.reverse

@[simp] theorem entries_start (id : ι) : (start id).entries = [] := rfl

@[simp] theorem entries_add (g : CandidateGroup ι) (e : Entry) :
    (g.add e).entries = g.entries ++ [e] := by
  simp [add, entries]

end CandidateGroup

/-- What happens while a stream is matched. -/
inductive Event (ι : Type) where
  /-- An item has been asked for. -/
  | read
  /-- A group is complete, and its entries have been matched. -/
  | completed (id : ι) (decision : Decision)

/-- What has happened, and how it ended: by the end of the stream, or by a fault. -/
structure History (ι : Type) where
  events : List (Event ι)
  fault : Option Fault

namespace History

variable {ι : Type}

/-- The history in which nothing happens. -/
def ended : History ι := ⟨[], none⟩

/-- A history with an event ahead of it. -/
def cons (e : Event ι) (h : History ι) : History ι := ⟨e :: h.events, h.fault⟩

/-- A history with the decision about a group ahead of it; one that could not be made ends it. -/
def afterDecision (id : ι) (d : Decision) (h : History ι) : History ι :=
  match d.fault? with
  | some f => ⟨[.completed id d], some f⟩
  | none => h.cons (.completed id d)

end History

/-- Reads a stream to its end: its items, or those before the first that fails and the fault. -/
def collect {ι : Type} : Stream ι → List (ι × Entry) × Option Fault
  | [] => ([], none)
  | .error f :: _ => ([], some f)
  | .ok item :: rest =>
    let (items, fault) := collect rest
    (item :: items, fault)

/-- How a stream is matched: the rules, the software and whether the stream is ordered by id. -/
structure Grouping where
  engine : Engine
  vendor : Json
  product : Json
  identified : Identified
  presorted : Bool

namespace Grouping

variable {ι : Type}

/-- What is decided about the entries of a group. -/
def decide (g : Grouping) (entries : List Entry) : Decision :=
  g.engine.decide g.identified.toVersion entries g.vendor g.product

/-- A history with the end of a group ahead of it. -/
def close (g : Grouping) (group : CandidateGroup ι) (h : History ι) : History ι :=
  h.afterDecision group.id (g.decide group.entries)

/-- What happens from an open group on. -/
def follow [BEq ι] (g : Grouping) (group : CandidateGroup ι) : Stream ι → History ι
  | [] => g.close group .ended
  | .error f :: _ => ⟨[.read], some f⟩
  | .ok (id, e) :: rest =>
    if id == group.id then (g.follow (group.add e) rest).cons .read
    else (g.close group (g.follow ((CandidateGroup.start id).add e) rest)).cons .read

/-- What happens on a stream whose items of one id are next to each other. -/
def runOrdered [BEq ι] (g : Grouping) : Stream ι → History ι
  | [] => .ended
  | .error f :: _ => ⟨[.read], some f⟩
  | .ok (id, e) :: rest => (g.follow ((CandidateGroup.start id).add e) rest).cons .read

/-- The groups of items that have been read already, without the reading of them. -/
def completedOnly (events : List (Event ι)) : List (Event ι) :=
  events.filter fun
    | .read => false
    | .completed _ _ => true

/-- What happens on a stream in any order: it is read to its end and sorted. -/
def runSorting [BEq ι] [IdOrder ι] (g : Grouping) (stream : Stream ι) : History ι :=
  let (items, fault) := collect stream
  let reads (n : Nat) : List (Event ι) := List.replicate n .read
  match fault with
  | some f => ⟨reads (items.length + 1), some f⟩
  | none => match sortById? (·.1) items with
    | some sorted =>
      let history := g.runOrdered (sorted.map .ok)
      ⟨reads items.length ++ completedOnly history.events, history.fault⟩
    | none => ⟨reads items.length, some .unordered⟩

/-- What happens while a stream is matched. -/
def events [BEq ι] [IdOrder ι] (g : Grouping) (stream : Stream ι) : History ι :=
  if g.presorted then g.runOrdered stream else g.runSorting stream

end Grouping

namespace Event

variable {ι : Type}

/-- The result that an event delivers. -/
def result? : Event ι → Option (ι × Match)
  | read => none
  | completed id d => d.found?.map (id, ·)

end Event

/-- The number of groups completed and of those matched. -/
structure Tally where
  seen : Nat
  matched : Nat
  deriving DecidableEq

namespace Tally

variable {ι : Type}

/-- Before the first stream. -/
def zero : Tally := ⟨0, 0⟩

/-- Counts an event. -/
def count (t : Tally) : Event ι → Tally
  | .read => t
  | .completed _ d => ⟨t.seen + 1, if d.found?.isSome then t.matched + 1 else t.matched⟩

end Tally

namespace History

variable {ι : Type}

/-- The results, each with the number of items read when it is delivered; `n` have been read
before. -/
def resultsFrom (n : Nat) : List (Event ι) → List (ι × Match × Nat)
  | [] => []
  | e :: rest => match e with
    | .read => resultsFrom (n + 1) rest
    | .completed id d => match d.found? with
      | some m => (id, m, n) :: resultsFrom n rest
      | none => resultsFrom n rest

/-- The results, each with the number of items read when it is delivered. -/
def results (h : History ι) : List (ι × Match × Nat) := resultsFrom 0 h.events

/-- The number of items read. -/
def consumed (h : History ι) : Nat :=
  (h.events.filter fun | .read => true | .completed _ _ => false).length

/-- The counts after a history that follows the counts `t`. -/
def tally (t : Tally) (h : History ι) : Tally := h.events.foldl Tally.count t

/-- The events up to the one that delivers the `n`-th result, and whether there is one. -/
def cutAfter : Nat → List (Event ι) → List (Event ι) × Bool
  | 0, _ => ([], true)
  | _ + 1, [] => ([], false)
  | n + 1, e :: rest =>
    let (events, reached) := cutAfter (if e.result?.isSome then n else n + 1) rest
    (e :: events, reached)

/-- What has happened when the `n`-th result is delivered, and whether it is the whole: nothing
happens before the first result is asked for. -/
def upTo (h : History ι) (n : Nat) : History ι × Bool :=
  let (events, reached) := cutAfter n h.events
  if reached then (⟨events, none⟩, false) else (h, true)

end History

namespace Grouping

variable {ι : Type}

/-- The messages of the matching in an event. -/
def messages (g : Grouping) : Event ι → List Text
  | .read => []
  | .completed _ d => d.messages g.identified.toVersion g.vendor g.product

/-- The summary of a stream that has been matched to its end. -/
def summary (g : Grouping) (t : Tally) : Text :=
  g.vendor.plain ++ ":" ++ g.product.plain ++ " " ++ g.identified.label ++ ": " ++
    toString t.matched ++ " of " ++ toString t.seen ++ " vulnerabilities matched"

end Grouping

end CpeMatch
