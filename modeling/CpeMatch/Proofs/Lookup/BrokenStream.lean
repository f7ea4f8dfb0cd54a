import CpeMatch.Lookup
import CpeMatch.Proofs.Grouping.Streaming
import CpeMatch.Proofs.Timing.Task

/-!
**A stream that breaks off loses its open group only.**

An item that cannot be built ends the matching of a stream with its fault.  The group that is open by then is
given up: what has been matched, delivered and counted are the runs before it.  Nothing of the stream is left
behind but the counts, so the streams after it are matched as if it had not been there.  Of a stream that is to be
sorted first nothing is matched at all.

Main definitions:

* `CpeMatch.brokenStream` — a stream with an item that cannot be built;
* `CpeMatch.Grouping.recordsOf` — what the log says of runs that are matched;
* `CpeMatch.Lookup.keep` — keeping the results that are handed over.

Main results:

* `CpeMatch.Grouping.fst_runAll` — the results of streams do not depend on the counts before them;
* `CpeMatch.Lookup.start_followAll_of_fault` — **what is left of a stream that ends with a fault**;
* `CpeMatch.Lookup.brokenStream_loses_open_group` — **what is matched of a stream that breaks off**.
-/

set_option autoImplicit false

namespace CpeMatch

open Timing

/-! ### Streams that break off -/

section

variable {ι : Type}

/-- A stream in which the item behind the given ones cannot be built. -/
def brokenStream (items : List (ι × Entry)) (f : Fault) (rest : Stream ι) : Stream ι :=
  items.map .ok ++ .error f :: rest

/-- It can be read up to this item. -/
theorem collect_brokenStream (items : List (ι × Entry)) (f : Fault) (rest : Stream ι) :
    collect (brokenStream items f rest) = (items, some f) := by
  induction items with
  | nil => rfl
  | cons item items ih =>
      rw [brokenStream] at ih
      rw [brokenStream, List.map_cons, List.cons_append, collect, ih]

theorem closedRuns_brokenStream [BEq ι] (items : List (ι × Entry)) (f : Fault) (rest : Stream ι) :
    closedRuns (brokenStream items f rest) = (runs items).dropLast := by
  rw [closedRuns, collect_brokenStream]
  rfl

namespace Grouping

variable [BEq ι] [IdOrder ι] (g : Grouping)

/-- The results of streams do not depend on the counts before them. -/
theorem fst_runAll (t t' : Tally) (streams : List (Stream ι)) :
    (g.runAll t streams).1 = (g.runAll t' streams).1 := by
  induction streams generalizing t t' with
  | nil => rfl
  | cons s rest ih =>
      rw [runAll, runAll]
      exact congrArg (_ :: ·) (ih _ _)

/-- What the log says of runs that are matched. -/
def recordsOf (rs : List (ι × List Entry)) : List Log.Record :=
  (rs.flatMap fun r => g.messages (g.completion r)).map (Log.Channel.matching.record .debug)

omit [BEq ι] [IdOrder ι] in
/-- Reading an item is no cause for a message. -/
theorem flatMap_messages_completedOnly (events : List (Event ι)) :
    (completedOnly events).flatMap g.messages = events.flatMap g.messages := by
  induction events with
  | nil => rfl
  | cons e events ih =>
      cases e with
      | read => exact ih
      | completed id d => rw [completedOnly_completed, List.flatMap_cons, List.flatMap_cons, ih]

variable {g}

/-- Of a stream that breaks off each run but the last is matched once, in order. -/
theorem completedOnly_events_brokenStream (hg : g.Answers) (hpre : g.presorted = true)
    (items : List (ι × Entry)) (f : Fault) (rest : Stream ι) :
    completedOnly (g.events (brokenStream items f rest)).events = (runs items).dropLast.map g.completion ∧
      (g.events (brokenStream items f rest)).fault = some f := by
  have hordered := completedOnly_runOrdered hg (brokenStream items f rest)
  rw [closedRuns_brokenStream, collect_brokenStream] at hordered
  rw [events, hpre]
  exact hordered

/-- If it is to be sorted none is. -/
theorem completedOnly_events_brokenStream_of_sorting (hpre : g.presorted = false)
    (items : List (ι × Entry)) (f : Fault) (rest : Stream ι) :
    completedOnly (g.events (brokenStream items f rest)).events = [] ∧
      (g.events (brokenStream items f rest)).fault = some f :=
  completedOnly_events_of_fault hpre (congrArg Prod.snd (collect_brokenStream items f rest))

end Grouping

end

/-! ### Handing results over -/

namespace Lookup

/-- Keeps a result that is handed over. -/
def keep (id : Json) (m : Match) : Task Float (List (Json × Match)) Fault Unit :=
  Task.change (· ++ [(id, m)])

variable (g : Grouping) (session : Session Float (List (Json × Match)))

/-- Following events keeps the results that they deliver, in order, and writes their messages to the log. -/
theorem exists_start_follow (t : Tally) (events : List (Event Json)) :
    ∃ units : List Unit, (follow g keep t events).start session =
      (.ok (units, events.foldl Tally.count t), { session with
        log := session.log ++
          ((events.flatMap g.messages).map (Log.Channel.matching.record .debug)).toArray
        state := session.state ++ events.filterMap Event.result? }) := by
  -- the others go on from the messages of the first event, and from its result if it has one
  induction events generalizing t session with
  | nil =>
      refine ⟨[], ?_⟩
      simp only [List.flatMap_nil, List.map_nil, List.filterMap_nil, List.append_nil, Array.append_empty]
      rfl
  | cons e rest ih =>
      rw [follow, Task.start_bind (Task.start_noteAll _ session)]
      cases hresult : e.result? with
      | none =>
          obtain ⟨units, hrest⟩ := ih { session with
            log := session.log ++
              ((g.messages e).map (Log.Channel.matching.record .debug)).toArray } (t.count e)
          refine ⟨units, hrest.trans ?_⟩
          simp [hresult, Array.append_assoc]
      | some x =>
          obtain ⟨id, m⟩ := x
          obtain ⟨units, hrest⟩ := ih { session with
            log := session.log ++
              ((g.messages e).map (Log.Channel.matching.record .debug)).toArray
            state := session.state ++ [(id, m)] } (t.count e)
          refine ⟨() :: units, ?_⟩
          refine (Task.start_bind (Task.start_change (· ++ [(id, m)]) _)).trans ?_
          refine (Task.start_bind hrest).trans ?_
          simp [hresult, Array.append_assoc]
          rfl

/-- **What is left of a stream that ends with a fault**: the results of its complete runs and their messages,
and no summary. -/
theorem start_followAll_of_fault {stream : Stream Json} {f : Fault} {rs : List (Json × List Entry)}
    (hruns : Grouping.completedOnly (g.events stream).events = rs.map g.completion)
    (hfault : (g.events stream).fault = some f) :
    (followAll g keep stream).start session = (.error f, { session with
      log := session.log ++ (g.recordsOf rs).toArray
      state := session.state ++ rs.filterMap g.matched? }) := by
  obtain ⟨units, hfollow⟩ := exists_start_follow g session Tally.zero (g.events stream).events
  rw [← g.flatMap_messages_completedOnly, ← Grouping.filterMap_result?_completedOnly, hruns,
    Grouping.filterMap_result?_completion, List.flatMap_map] at hfollow
  rw [followAll, Task.start_bind hfollow, hfault]
  rfl

/-- **A stream that breaks off loses its open group only.**  If the item behind `items` cannot be built, then the
runs of `items` but the last are matched, deliver their results and are counted, and the last is not; the fault
comes out, and whatever streams are matched later on, with the same counts going on, have the results that they
would have if they were the first.  If the stream is to be sorted, nothing is matched, delivered or counted.  In a
session the results that are handed over are kept, the log has the messages of these runs and no summary, and the
end is the fault. -/
theorem brokenStream_loses_open_group {ι : Type} [BEq ι] [IdOrder ι] (engine : Engine)
    (vendor product : Option Text) (identified : Identified) :
    let trusting := Grouping.ofProduct engine vendor product identified true
    let sorting := Grouping.ofProduct engine vendor product identified false
    (∀ (items : List (ι × Entry)) (f : Fault) (rest : Stream ι) (t : Tally) (later : List (Stream ι)),
      let broken := brokenStream items f rest
      let closed := (runs items).dropLast
      let results := closed.filterMap trusting.matched?
      Grouping.completedOnly (trusting.events broken).events = closed.map trusting.completion ∧
      (trusting.events broken).results.map (fun r => (r.1, r.2.1)) = results ∧
      (trusting.events broken).fault = some f ∧
      (trusting.events broken).tally t = ⟨t.seen + closed.length, t.matched + results.length⟩ ∧
      (trusting.runAll t (broken :: later)).1 = results :: (trusting.runAll .zero later).1 ∧
      Grouping.completedOnly (sorting.events broken).events = [] ∧
      (sorting.events broken).results = [] ∧
      (sorting.events broken).fault = some f ∧
      (sorting.events broken).tally t = t ∧
      (sorting.runAll t (broken :: later)).1 = [] :: (sorting.runAll .zero later).1) ∧
    ∀ (items : List (Json × Entry)) (f : Fault) (rest : Stream Json)
      (session : Session Float (List (Json × Match))),
      let broken := brokenStream items f rest
      let closed := (runs items).dropLast
      (followAll trusting keep broken).start session = (.error f, { session with
        log := session.log ++ (trusting.recordsOf closed).toArray
        state := session.state ++ closed.filterMap trusting.matched? }) ∧
      (followAll sorting keep broken).start session = (.error f, session) := by
  intro trusting sorting
  have hg : trusting.Answers := Grouping.answers_ofProduct engine vendor product identified true
  refine ⟨?_, ?_⟩
  · intro items f rest t later broken closed results
    obtain ⟨hruns, hfault⟩ := Grouping.completedOnly_events_brokenStream hg rfl items f rest
    obtain ⟨hnone, hfault'⟩ :=
      Grouping.completedOnly_events_brokenStream_of_sorting (g := sorting) rfl items f rest
    have hresults := History.map_results_of_completedOnly hruns
    -- to the facts about runs no event at all is the case of no runs
    have hnoRuns : Grouping.completedOnly (sorting.events broken).events =
        ([] : List (ι × List Entry)).map sorting.completion := hnone
    have hnoResults : (sorting.events broken).results.map (fun r => (r.1, r.2.1)) = [] :=
      History.map_results_of_completedOnly hnoRuns
    refine ⟨hruns, hresults, hfault, History.tally_of_completedOnly t hruns, ?_, hnone,
      List.map_eq_nil_iff.1 hnoResults, hfault', History.tally_of_completedOnly t hnoRuns, ?_⟩
    · rw [Grouping.runAll]
      exact congrArg₂ (· :: ·) hresults (trusting.fst_runAll _ _ later)
    · rw [Grouping.runAll]
      exact congrArg₂ (· :: ·) hnoResults (sorting.fst_runAll _ _ later)
  · intro items f rest session broken closed
    obtain ⟨hruns, hfault⟩ := Grouping.completedOnly_events_brokenStream hg rfl items f rest
    obtain ⟨hnone, hfault'⟩ :=
      Grouping.completedOnly_events_brokenStream_of_sorting (g := sorting) rfl items f rest
    have hnoRuns : Grouping.completedOnly (sorting.events broken).events =
        ([] : List (Json × List Entry)).map sorting.completion := hnone
    refine ⟨start_followAll_of_fault trusting session hruns hfault, ?_⟩
    refine (start_followAll_of_fault sorting session hnoRuns hfault').trans ?_
    simp [Grouping.recordsOf]

/-- Of the rows of `A` and `B`, and one behind them that has no id, only the match of `A` is delivered. -/
example :
    let row (id : Text) : Except Fault (Json × Entry) := do
      (← SoftwareRecord.make (.string id) (.string "cpe:/a:v:p:2.1") (.string "1")).toItem
    let g := Grouping.ofProduct .standard (some "v") (some "p") (.version ⟨"2", [.number 2]⟩) true
    (g.events [row "A", row "B", row "", row "C"]).results.map (·.1) = [.string "A"] ∧
      (g.events [row "A", row "B", row "", row "C"]).fault = some .emptyId := ⟨rfl, rfl⟩

end Lookup

end CpeMatch
