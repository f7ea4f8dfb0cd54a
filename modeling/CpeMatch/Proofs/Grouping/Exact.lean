import Mathlib.Algebra.GroupWithZero.Nat
import CpeMatch.Grouping
import CpeMatch.Proofs.Grouping.Runs
import CpeMatch.Proofs.Matching.Plain

/-!
**Grouping is exact.**

While a stream is matched, the group that is open holds what has been read of its run.  So each run is
matched once, when it is complete, with all its entries and no others; the last run is complete when the
stream ends.  A stream with an item that cannot be built leaves its last run incomplete.

Main definitions:

* `CpeMatch.closedRuns` — the runs of a stream that are complete;
* `CpeMatch.Grouping.completion`, `CpeMatch.Grouping.matched?` — what happens when a run is complete, and
  the result it delivers;
* `CpeMatch.Grouping.runAll` — streams matched one after another, with the counts going on.

Main results:

* `CpeMatch.Grouping.completedOnly_follow` — **the open group and the runs still to come**;
* `CpeMatch.Grouping.completedOnly_events` — each complete run is matched once, in order;
* `CpeMatch.History.completedOnly_upTo` — what is complete when a result is delivered;
* `CpeMatch.Grouping.runAll_eq_runs` — results and counts over any sequence of streams.
-/

set_option autoImplicit false

namespace CpeMatch

variable {ι : Type}

/-- The runs that are complete: all of them at the end of a stream, all but the last before a fault. -/
def complete (fault : Option Fault) (rs : List (ι × List Entry)) : List (ι × List Entry) :=
  match fault with
  | none => rs
  | some _ => rs.dropLast

/-- The runs of a stream that are complete when it has been read as far as it can be. -/
def closedRuns [BEq ι] (stream : Stream ι) : List (ι × List Entry) :=
  complete (collect stream).2 (runs (collect stream).1)

@[simp] theorem complete_none (rs : List (ι × List Entry)) : complete none rs = rs := rfl

theorem complete_cons (fault : Option Fault) (r : ι × List Entry) {rs : List (ι × List Entry)}
    (hrs : rs ≠ []) : complete fault (r :: rs) = r :: complete fault rs := by
  cases fault with
  | none => rfl
  | some f => exact List.dropLast_cons_of_ne_nil hrs

theorem collect_map_ok (items : List (ι × Entry)) : collect (items.map .ok) = (items, none) := by
  induction items with
  | nil => rfl
  | cons item rest ih => rw [List.map_cons, collect, ih]

/-! ### Events -/

@[simp] theorem Event.result?_read : (Event.read : Event ι).result? = none := rfl

theorem Event.result?_completed (id : ι) (d : Decision) :
    (Event.completed id d).result? = d.found?.map (id, ·) := rfl

namespace Grouping

@[simp] theorem completedOnly_nil : completedOnly ([] : List (Event ι)) = [] := rfl

@[simp] theorem completedOnly_read (events : List (Event ι)) :
    completedOnly (.read :: events) = completedOnly events := rfl

@[simp] theorem completedOnly_completed (id : ι) (d : Decision) (events : List (Event ι)) :
    completedOnly (.completed id d :: events) = .completed id d :: completedOnly events := rfl

theorem completedOnly_append (events others : List (Event ι)) :
    completedOnly (events ++ others) = completedOnly events ++ completedOnly others :=
  List.filter_append ..

theorem completedOnly_completedOnly (events : List (Event ι)) :
    completedOnly (completedOnly events) = completedOnly events := by
  simp only [completedOnly, List.filter_filter, Bool.and_self]

theorem completedOnly_reads (n : Nat) : completedOnly (List.replicate n (.read : Event ι)) = [] :=
  List.filter_replicate_of_neg Bool.false_ne_true

/-- Reading an item delivers nothing. -/
theorem filterMap_result?_completedOnly (events : List (Event ι)) :
    (completedOnly events).filterMap Event.result? = events.filterMap Event.result? := by
  induction events with
  | nil => rfl
  | cons e events ih =>
      cases e with
      | read => rw [completedOnly_read, ih, List.filterMap_cons_none Event.result?_read]
      | completed id d => rw [completedOnly_completed, List.filterMap_cons, List.filterMap_cons, ih]

end Grouping

namespace History

/-- The results of a history are those that its events deliver. -/
theorem map_resultsFrom (n : Nat) (events : List (Event ι)) :
    (resultsFrom n events).map (fun r => (r.1, r.2.1)) = events.filterMap Event.result? := by
  induction events generalizing n with
  | nil => rfl
  | cons e events ih =>
      cases e with
      | read => rw [resultsFrom, ih, List.filterMap_cons_none Event.result?_read]
      | completed id d =>
          rw [resultsFrom, List.filterMap_cons, Event.result?_completed]
          cases d.found? with
          | none => exact ih n
          | some m => exact congrArg ((id, m) :: ·) (ih n)

/-- The counts are the groups completed and the results delivered. -/
theorem foldl_count (t : Tally) (events : List (Event ι)) :
    events.foldl Tally.count t =
      ⟨t.seen + (Grouping.completedOnly events).length,
        t.matched + (events.filterMap Event.result?).length⟩ := by
  induction events generalizing t with
  | nil => rfl
  | cons e events ih =>
      rw [List.foldl_cons, ih]
      cases e with
      | read => rfl
      | completed id d =>
          rw [Grouping.completedOnly_completed, List.filterMap_cons, Event.result?_completed, Tally.count]
          cases d.found? with
          | none => simp [Nat.add_assoc, Nat.add_comm 1]
          | some m => simp [Nat.add_assoc, Nat.add_comm 1]

/-- Cutting a history after a result cuts what is completed after it. -/
theorem completedOnly_cutAfter (n : Nat) (events : List (Event ι)) :
    Grouping.completedOnly (cutAfter n events).1 = (cutAfter n (Grouping.completedOnly events)).1 ∧
      (cutAfter n events).2 = (cutAfter n (Grouping.completedOnly events)).2 := by
  induction events generalizing n with
  | nil => cases n <;> exact ⟨rfl, rfl⟩
  | cons e events ih =>
      cases n with
      | zero => exact ⟨by simp only [cutAfter, Grouping.completedOnly_nil], by simp only [cutAfter]⟩
      | succ n =>
          cases e with
          | read => exact ih (n + 1)
          | completed id d =>
              obtain ⟨hevents, hreached⟩ :=
                ih (if (Event.completed id d).result?.isSome then n else n + 1)
              exact ⟨congrArg (Event.completed id d :: ·) hevents, hreached⟩

/-- Cutting after the result that an event delivers keeps the events up to it. -/
theorem cutAfter_append {before after : List (Event ι)} {e : Event ι} (he : e.result?.isSome = true) :
    cutAfter ((before.filterMap Event.result?).length + 1) (before ++ e :: after) =
      (before ++ [e], true) := by
  induction before with
  | nil => simp [cutAfter, he]
  | cons b before ih =>
      cases hb : b.result? with
      | none => simp [cutAfter, hb, ih]
      | some r => simp [cutAfter, hb, ih]

end History

namespace Grouping

/-- Whether every group can be decided. -/
def Answers (g : Grouping) : Prop := ∀ entries, (g.decide entries).fault? = none

theorem answers_ofText? (engine : Engine) (vendor product : Option Text) (identified : Identified)
    (presorted : Bool) :
    Answers ⟨engine, .ofText? vendor, .ofText? product, identified, presorted⟩ := by
  intro entries
  exact Engine.fault?_decide ..

/-- What happens when a run is complete. -/
def completion (g : Grouping) (r : ι × List Entry) : Event ι := .completed r.1 (g.decide r.2)

/-- The result that a run delivers, its match under its id. -/
def matched? (g : Grouping) (r : ι × List Entry) : Option (ι × Match) :=
  (g.engine.match? g.identified.toVersion r.2 g.vendor g.product).map (r.1, ·)

theorem result?_completion (g : Grouping) (r : ι × List Entry) :
    (g.completion r).result? = g.matched? r := rfl

theorem filterMap_result?_completion (g : Grouping) (rs : List (ι × List Entry)) :
    (rs.map g.completion).filterMap Event.result? = rs.filterMap g.matched? :=
  List.filterMap_map ..

/-- The end of a group that can be decided. -/
theorem close_eq {g : Grouping} (hg : g.Answers) (group : CandidateGroup ι) (h : History ι) :
    g.close group h = h.cons (g.completion (group.id, group.entries)) := by
  rw [close, History.afterDecision, hg]
  rfl

/-! ### The open group -/

variable [BEq ι]

/-- The open group holds what has been read of its run, so it and the stream still to be read make up
the open run and those that follow it. -/
theorem completedOnly_follow {g : Grouping} (hg : g.Answers) (group : CandidateGroup ι)
    (stream : Stream ι) :
    completedOnly (g.follow group stream).events =
        (complete (collect stream).2 (runsFrom group.id group.entries (collect stream).1)).map
          g.completion ∧
      (g.follow group stream).fault = (collect stream).2 := by
  induction stream generalizing group with
  | nil =>
      rw [follow, close_eq hg]
      simp [collect, History.cons, History.ended, completion]
  | cons item rest ih =>
      cases item with
      | error f => simp [follow, collect, complete]
      | ok item =>
          obtain ⟨id, e⟩ := item
          rw [follow, collect, runsFrom_cons]
          split
          · -- the item joins the open group
            obtain ⟨hevents, hfault⟩ := ih (group.add e)
            rw [CandidateGroup.entries_add] at hevents
            exact ⟨hevents, hfault⟩
          · -- the item opens the next group, and the open one is complete
            obtain ⟨hevents, hfault⟩ := ih ((CandidateGroup.start id).add e)
            rw [close_eq hg, complete_cons _ _ (runsFrom_ne_nil _ _ _)]
            exact ⟨congrArg (g.completion (group.id, group.entries) :: ·) hevents, hfault⟩

/-- On an ordered stream each complete run is matched once, in order and with all its entries. -/
theorem completedOnly_runOrdered {g : Grouping} (hg : g.Answers) (stream : Stream ι) :
    completedOnly (g.runOrdered stream).events = (closedRuns stream).map g.completion ∧
      (g.runOrdered stream).fault = (collect stream).2 := by
  cases stream with
  | nil => simp [runOrdered, closedRuns, collect, complete, History.ended]
  | cons item rest =>
      cases item with
      | error f => simp [runOrdered, closedRuns, collect, complete]
      | ok item =>
          obtain ⟨id, e⟩ := item
          obtain ⟨hevents, hfault⟩ := completedOnly_follow hg ((CandidateGroup.start id).add e) rest
          rw [runOrdered, closedRuns, collect, runs_cons]
          exact ⟨hevents, hfault⟩

/-! ### A stream to its end, and up to a result -/

end Grouping

namespace History

theorem map_results (h : History ι) :
    h.results.map (fun r => (r.1, r.2.1)) = h.events.filterMap Event.result? :=
  map_resultsFrom 0 h.events

/-- The results of a history whose groups are complete runs are those of the runs. -/
theorem map_results_of_completedOnly {h : History ι} {g : Grouping} {rs : List (ι × List Entry)}
    (hrs : Grouping.completedOnly h.events = rs.map g.completion) :
    h.results.map (fun r => (r.1, r.2.1)) = rs.filterMap g.matched? := by
  rw [map_results, ← Grouping.filterMap_result?_completedOnly, hrs, Grouping.filterMap_result?_completion]

/-- The counts grow by the complete runs and by their results. -/
theorem tally_of_completedOnly {h : History ι} {g : Grouping} {rs : List (ι × List Entry)} (t : Tally)
    (hrs : Grouping.completedOnly h.events = rs.map g.completion) :
    h.tally t = ⟨t.seen + rs.length, t.matched + (rs.filterMap g.matched?).length⟩ := by
  rw [tally, foldl_count, hrs, List.length_map, ← Grouping.filterMap_result?_completedOnly, hrs,
    Grouping.filterMap_result?_completion]

/-- When a run delivers its result, it and the runs before it are complete, and no other. -/
theorem completedOnly_upTo {h : History ι} {g : Grouping} {before after : List (ι × List Entry)}
    {r : ι × List Entry} (hrs : Grouping.completedOnly h.events = (before ++ r :: after).map g.completion)
    (hr : (g.matched? r).isSome = true) :
    Grouping.completedOnly (h.upTo ((before.filterMap g.matched?).length + 1)).1.events =
      (before ++ [r]).map g.completion := by
  have hcut : cutAfter (((before.map g.completion).filterMap Event.result?).length + 1)
      (before.map g.completion ++ g.completion r :: after.map g.completion) =
        (before.map g.completion ++ [g.completion r], true) := cutAfter_append hr
  rw [Grouping.filterMap_result?_completion, ← List.map_cons, ← List.map_append, ← hrs] at hcut
  obtain ⟨hevents, hreached⟩ :=
    completedOnly_cutAfter ((before.filterMap g.matched?).length + 1) h.events
  rw [hcut] at hevents hreached
  rw [upTo]
  simp only [hreached, if_true, hevents, List.map_append, List.map_cons, List.map_nil]

end History

/-- The `n`-th thing that is delivered comes from one of the things there are. -/
theorem exists_split_of_lt_length_filterMap {α β : Type} (f : α → Option β) {xs : List α} {n : Nat}
    (hn : n < (xs.filterMap f).length) :
    ∃ before x after, xs = before ++ x :: after ∧ (f x).isSome = true ∧
      (before.filterMap f).length = n := by
  induction xs generalizing n with
  | nil => simp at hn
  | cons x xs ih =>
      cases hx : f x with
      | none =>
          rw [List.filterMap_cons_none hx] at hn
          obtain ⟨before, y, after, hxs, hy, hlength⟩ := ih hn
          refine ⟨x :: before, y, after, congrArg (x :: ·) hxs, hy, ?_⟩
          rw [List.filterMap_cons_none hx, hlength]
      | some b =>
          cases n with
          | zero => exact ⟨[], x, xs, rfl, Option.isSome_of_eq_some hx, rfl⟩
          | succ n =>
              rw [List.filterMap_cons_some hx, List.length_cons] at hn
              obtain ⟨before, y, after, hxs, hy, hlength⟩ := ih (Nat.lt_of_succ_lt_succ hn)
              refine ⟨x :: before, y, after, congrArg (x :: ·) hxs, hy, ?_⟩
              rw [List.filterMap_cons_some hx, List.length_cons, hlength]

namespace Grouping

section

variable [BEq ι] [IdOrder ι]

/-- Matches streams one after another to their end: the results of each, and the counts at the end. -/
def runAll (g : Grouping) (t : Tally) : List (Stream ι) → List (List (ι × Match)) × Tally
  | [] => ([], t)
  | stream :: rest =>
    let h := g.events stream
    let (results, t') := g.runAll (h.tally t) rest
    (h.results.map (fun r => (r.1, r.2.1)) :: results, t')

/-- **Each complete run is matched once, in order and with all its entries.** -/
theorem completedOnly_events {g : Grouping} (hg : g.Answers) (hpre : g.presorted = true)
    (stream : Stream ι) :
    completedOnly (g.events stream).events = (closedRuns stream).map g.completion := by
  rw [events, hpre]
  exact (completedOnly_runOrdered hg stream).1

/-- Streams deliver the matches of their complete runs, and the counts go on from each to the next. -/
theorem runAll_eq_closedRuns {g : Grouping} (hg : g.Answers) (hpre : g.presorted = true) (t : Tally)
    (streams : List (Stream ι)) :
    g.runAll t streams =
      (streams.map fun s => (closedRuns s).filterMap g.matched?,
        ⟨t.seen + (streams.map fun s => (closedRuns s).length).sum,
          t.matched + (streams.map fun s => ((closedRuns s).filterMap g.matched?).length).sum⟩) := by
  induction streams generalizing t with
  | nil => rfl
  | cons stream rest ih =>
      have hruns := completedOnly_events hg hpre stream
      rw [runAll, History.map_results_of_completedOnly hruns, History.tally_of_completedOnly t hruns, ih]
      simp [Nat.add_assoc]

/-- Streams read to their end deliver the matches of all their runs. -/
theorem runAll_eq {g : Grouping} (hg : g.Answers) (hpre : g.presorted = true) (t : Tally)
    {streams : List (Stream ι)} (hend : ∀ s ∈ streams, (collect s).2 = none) :
    g.runAll t streams =
      (streams.map fun s => (runs (collect s).1).filterMap g.matched?,
        ⟨t.seen + (streams.map fun s => (runs (collect s).1).length).sum,
          t.matched + (streams.map fun s => ((runs (collect s).1).filterMap g.matched?).length).sum⟩) := by
  have hclosed : ∀ s ∈ streams, closedRuns s = runs (collect s).1 := by
    intro s hs
    rw [closedRuns, hend s hs, complete_none]
  rw [runAll_eq_closedRuns hg hpre,
    List.map_congr_left fun s hs => congrArg (List.filterMap g.matched?) (hclosed s hs),
    List.map_congr_left fun s hs => congrArg List.length (hclosed s hs),
    List.map_congr_left fun s hs => congrArg (fun rs => (rs.filterMap g.matched?).length) (hclosed s hs)]

/-- **Grouping is exact over whole runs.**  Streams read to their end, whether their items are given as
pairs or read from rows, deliver in order the match of each of their maximal runs that has one; the counts
grow by the runs and by the results; and what is matched is each run, none of them empty, with all its
entries and no others.  When a stream is left after its `n + 1`-st result, the counts have grown by
`n + 1` and by the runs up to that of the result. -/
theorem runAll_eq_runs (engine : Engine) (vendor product : Option Text) (identified : Identified)
    (t : Tally) (streams : List (Stream ι)) :
    let g : Grouping := ⟨engine, .ofText? vendor, .ofText? product, identified, true⟩
    ((∀ s ∈ streams, (collect s).2 = none) →
      (g.runAll t streams).1 = (streams.map fun s => (runs (collect s).1).filterMap g.matched?) ∧
      (g.runAll t streams).2.seen = t.seen + (streams.map fun s => (runs (collect s).1).length).sum ∧
      (g.runAll t streams).2.matched = t.matched + ((g.runAll t streams).1.map List.length).sum) ∧
    ∀ s : Stream ι,
      completedOnly (g.events s).events = (closedRuns s).map g.completion ∧
      (∀ r ∈ runs (collect s).1, r.2 ≠ []) ∧
      (runs (collect s).1).flatMap (·.2) = (collect s).1.map (·.2) ∧
      ∀ n < (g.events s).results.length, ∃ before r after,
        closedRuns s = before ++ r :: after ∧ (g.matched? r).isSome = true ∧
        ((g.events s).upTo (n + 1)).1.tally t = ⟨t.seen + (before.length + 1), t.matched + (n + 1)⟩ ∧
        ((g.events s).upTo (n + 1)).1.results.map (fun r => (r.1, r.2.1)) =
          (before ++ [r]).filterMap g.matched? := by
  intro g
  have hg : g.Answers := answers_ofText? engine vendor product identified true
  refine ⟨?_, ?_⟩
  · intro hend
    rw [runAll_eq hg rfl t hend]
    refine ⟨rfl, rfl, ?_⟩
    simp [Function.comp_def]
  · intro s
    have hruns := completedOnly_events hg rfl s
    refine ⟨hruns, fun r hr => ne_nil_of_mem_runs hr, flatMap_runs _, ?_⟩
    intro n hn
    rw [← List.length_map (fun r => (r.1, r.2.1)), History.map_results_of_completedOnly hruns] at hn
    obtain ⟨before, r, after, hsplit, hr, hlength⟩ := exists_split_of_lt_length_filterMap g.matched? hn
    rw [hsplit] at hruns
    have hupTo := History.completedOnly_upTo hruns hr
    rw [hlength] at hupTo
    refine ⟨before, r, after, hsplit, hr, ?_, History.map_results_of_completedOnly hupTo⟩
    rw [History.tally_of_completedOnly t hupTo]
    obtain ⟨result, hresult⟩ := Option.isSome_iff_exists.1 hr
    simp [hlength, hresult]

/-- Version 2.0 against two streams, of which the first begins with a run of the id `null` and the second
with a row of a database: each has two runs, and all match but the one of the single version 3.0. -/
theorem runAll_eq_runs_null_first :
    let v : Version := ⟨"2.0", [.number 2, .number 0]⟩
    let single : Entry := ⟨"cpe:/a:v:p:3.0", "v", "p", "3.0", ⟨"3.0", [.number 3, .number 0]⟩, .bool false⟩
    let range : Entry := ⟨"cpe:/a:v:p:2.1", "v", "p", "2.1", ⟨"2.1", [.number 2, .number 1]⟩, .bool true⟩
    let g : Grouping := ⟨.standard, .ofText? (some "v"), .ofText? (some "p"), .version v, true⟩
    let row : SoftwareRecord := ⟨.string "B", .string "cpe:/a:v:p:2.1", .string "1"⟩
    let first : Stream Json := [.ok (.null, single), .ok (.null, range), .ok (.string "B", single)]
    let second : Stream Json := [row.toItem, .ok (.string "A", range)]
    let streams : List (Stream Json) := [first, second]
    (∀ s ∈ streams, (collect s).2 = none) ∧
      (g.runAll .zero streams).1 = [[(.null, .ofEntry range)],
        [(.string "B", .ofEntry range), (.string "A", .ofEntry range)]] ∧
      (g.runAll .zero streams).2 = ⟨4, 3⟩ := by
  intro v single range g row first second streams
  have hrow : row.toItem = .ok (.string "B", range) := rfl
  have hend : ∀ s ∈ streams, (collect s).2 = none := by
    intro s hs
    simp only [streams, List.mem_cons, List.not_mem_nil, or_false] at hs
    rcases hs with rfl | rfl <;> rfl
  have hfirst : runs (collect first).1 = [(.null, [single, range]), (.string "B", [single])] := by
    simp only [first, collect, runs_cons, runsFrom_cons, runsFrom_nil]
    rfl
  have hsecond : runs (collect second).1 = [(.string "B", [range]), (.string "A", [range])] := by
    simp only [second, hrow, collect, runs_cons, runsFrom_cons, runsFrom_nil]
    rfl
  obtain ⟨hresults, hseen, hmatched⟩ :=
    (runAll_eq_runs Engine.standard (some "v") (some "p") (.version v) .zero streams).1 hend
  have hboth : (g.runAll .zero streams).1 = [[(.null, .ofEntry range)],
      [(.string "B", .ofEntry range), (.string "A", .ofEntry range)]] := by
    rw [hresults]
    simp only [streams, List.map_cons, List.map_nil, hfirst, hsecond]
    rfl
  refine ⟨hend, hboth, ?_⟩
  rw [hboth] at hmatched
  simp only [streams, List.map_cons, List.map_nil, hfirst, hsecond] at hseen
  exact congrArg₂ Tally.mk hseen hmatched

end

end Grouping

end CpeMatch
