import CpeMatch.Store.Source

/-!
**Looking up the vulnerabilities of a piece of software.**

A CPE name that says vendor and product is looked up by matching the rows of the product, vulnerability
by vulnerability, against the version it says.  Each match is enriched with the details of its
vulnerability.  Lookups are timed and counted.

Main definitions:

* `CpeMatch.Lookup` — how software is looked up;
* `CpeMatch.Lookup.matchesOf` — the ids that match, with their matches;
* `CpeMatch.Lookup.vulnerabilities` — the vulnerabilities that match;
* `CpeMatch.Lookup.many` — the same for several names, each looked up once.
-/

set_option autoImplicit false

namespace CpeMatch

open Timing

/-- How software is looked up: the rules in force, and whether the rows can be trusted to be ordered
by id. -/
structure Lookup where
  engine : Engine
  presorted : Bool

/-- The data that lookups work on, and the record of their times. -/
structure LookupState (S : Type) where
  data : S
  monitor : Monitor Float

namespace Lookup

variable {S : Type}

/-- A task on the data that lookups work on. -/
def onData {α : Type} (t : Task Float S Fault α) : Task Float (LookupState S) Fault α :=
  t.within (·.data) fun data s => { s with data }

/-- How the rows of the software that a name says are matched. -/
def grouping (l : Lookup) (c : Cpe) : Grouping :=
  ⟨l.engine, .string c.vendor, .string c.product, .version c.version, l.presorted⟩

/-- Goes through the events of matching a stream: writes their messages to the log, and hands each
result over as soon as it is there.  Gives what the results have been made into, and the counts. -/
def follow {β : Type} (g : Grouping) (deliver : Json → Match → Task Float S Fault β) (t : Tally) :
    List (Event Json) → Task Float S Fault (List β × Tally)
  | [] => pure ([], t)
  | e :: rest => do
    Task.noteAll ((g.messages e).map (Log.Channel.matching.record .debug))
    match e.result? with
    | some (id, m) =>
      let b ← deliver id m
      let (others, t) ← follow g deliver (t.count e) rest
      return (b :: others, t)
    | none => follow g deliver (t.count e) rest

/-- Matches a stream to its end, and writes the summary to the log. -/
def followAll {β : Type} (g : Grouping) (deliver : Json → Match → Task Float S Fault β)
    (stream : Stream Json) : Task Float S Fault (List β) := do
  let history := g.events stream
  let (delivered, t) ← follow g deliver Tally.zero history.events
  match history.fault with
  | some f => throw f
  | none =>
    Task.note (Log.Channel.aggregation.record .debug (g.summary t))
    return delivered

/-- Looks a name up, which has to be a text if it is given, and hands each match over. -/
def eachMatch {β : Type} (l : Lookup) (source : Source S)
    (deliver : Json → Match → Task Float S Fault β) (cpe : Json) : Task Float S Fault (List β) := do
  let c ← settle (Cpe.ofJson cpe)
  if c.isValid then
    let stream ← source.rows c.vendor c.product
    followAll (l.grouping c) deliver stream
  else
    Task.note (Log.Channel.lookup.record .warning
      ("Cannot determine vendor and product of " ++ cpe.shown))
    return []

/-- The ids that match a name, with their matches. -/
def matchesOf (l : Lookup) (source : Source S) (cpe : Json) :
    Task Float (LookupState S) Fault (List (Json × Match)) :=
  onData (l.eachMatch source (fun id m => return (id, m)) cpe)

/-- The details of a vulnerability that has been found; a complaint if there are none. -/
def enrich (source : Source S) (cpe id : Json) (m : Match) :
    Task Float S Fault (Option Vulnerability) := do
  match ← source.details id with
  | some v => return some (v.foundBy m)
  | none =>
    Task.note (Log.Channel.lookup.record .warning
      (id.plain ++ " matched " ++ cpe.plain ++ " but has no details in the store"))
    return none

/-- Records a timed block in the monitor of the lookups. -/
def recordMetric (m : Metric Float) (s : LookupState S) : LookupState S :=
  { s with monitor := s.monitor.record m }

/-- The vulnerabilities that match a name, timed under the name of the operation. -/
def vulnerabilities (l : Lookup) (source : Source S) (cpe : Json) :
    Task Float (LookupState S) Fault (List Vulnerability) :=
  announced Store.seconds "get_vulnerabilities" do
    let found ← measureResult recordMetric "get_vulnerabilities" List.length do
      let found ← onData (l.eachMatch source (enrich source cpe) cpe)
      return found.filterMap id
    Task.note (Log.Channel.lookup.record .debug
      (cpe.plain ++ ": " ++ toString found.length ++ " vulnerabilities"))
    return found

/-- Looks names up one after another, each to its result or fault. -/
def each (l : Lookup) (source : Source S) :
    List Json → Task Float (LookupState S) Fault (List (Json × Except Fault (List Vulnerability)))
  | [] => pure []
  | cpe :: rest => do
    let result ← Task.attempt (l.vulnerabilities source cpe)
    let others ← l.each source rest
    return (cpe, result) :: others

/-- The vulnerabilities that match each of several names, each name looked up once, in the order in
which the names first occur.  A lookup that fails does not keep the others from being made, but an array
or object among the names does. -/
def many (l : Lookup) (source : Source S) (cpes : List Json) :
    Task Float (LookupState S) Fault (List (Json × List Vulnerability)) := do
  match Json.firstOfEach cpes with
  | none => throw .noKey
  | some cpes =>
    let outcomes ← l.each source cpes
    settle (outcomes.mapM fun (cpe, result) => result.map (cpe, ·))

end Lookup

end CpeMatch
