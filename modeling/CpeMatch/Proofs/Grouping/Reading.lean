import CpeMatch.Proofs.Grouping.Streaming

/-!
**A stream is read no further than it must be.**

That a run is complete shows with the item behind it, or with the end of the stream.  So its result is there
when this one item more has been read, and what has been delivered by then does not depend on anything that is
still to come.  A stream that is sorted first has been read to its end before there is any result.

Main definitions:

* `CpeMatch.endsFrom` — the positions at which runs end;
* `CpeMatch.Grouping.deliveredAt` — the result of a run, and how far the stream has been read by then.

Main results:

* `CpeMatch.History.consumed_upTo` — how far the stream has been read when a result is delivered;
* `CpeMatch.Grouping.resultsFrom_follow` — **the open group and the results still to come**;
* `CpeMatch.Grouping.filter_resultsFrom_follow` — **what is delivered does not depend on what comes later**;
* `CpeMatch.Grouping.reads_just_enough` — results and readings of a stream, sorted first or not.
-/

set_option autoImplicit false

namespace CpeMatch

variable {ι : Type}

/-- Runs that begin behind the first `n` items, each with the position of its last item. -/
def endsFrom (n : Nat) : List (ι × List Entry) → List ((ι × List Entry) × Nat)
  | [] => []
  | r :: rs => (r, n + r.2.length) :: endsFrom (n + r.2.length) rs

namespace History

/-! ### Results and readings -/

section

variable {id : ι} {d : Decision} (n k : Nat) (events : List (Event ι)) (fault : Option Fault)

theorem resultsFrom_read : resultsFrom k (.read :: events) = resultsFrom (k + 1) events := rfl

theorem resultsFrom_unmatched (h : d.found? = none) :
    resultsFrom k (.completed id d :: events) = resultsFrom k events := by
  rw [resultsFrom, h]

theorem resultsFrom_matched {m : Match} (h : d.found? = some m) :
    resultsFrom k (.completed id d :: events) = (id, m, k) :: resultsFrom k events := by
  rw [resultsFrom, h]

theorem cutAfter_read :
    cutAfter (n + 1) (.read :: events) = (.read :: (cutAfter (n + 1) events).1, (cutAfter (n + 1) events).2) :=
  rfl

theorem cutAfter_unmatched (h : d.found? = none) :
    cutAfter (n + 1) (.completed id d :: events) =
      (.completed id d :: (cutAfter (n + 1) events).1, (cutAfter (n + 1) events).2) := by
  simp [cutAfter, Event.result?, h]

theorem cutAfter_matched {m : Match} (h : d.found? = some m) :
    cutAfter (n + 1) (.completed id d :: events) =
      (.completed id d :: (cutAfter n events).1, (cutAfter n events).2) := by
  simp [cutAfter, Event.result?, h]

theorem consumed_read : consumed ⟨.read :: events, fault⟩ = consumed ⟨events, fault⟩ + 1 := rfl

theorem consumed_completed :
    consumed ⟨.completed id d :: events, fault⟩ = consumed ⟨events, fault⟩ := rfl

end

/-- When a result is delivered, what has been read before has been read. -/
theorem le_of_mem_resultsFrom {k : Nat} {events : List (Event ι)} {r : ι × Match × Nat}
    (hr : r ∈ resultsFrom k events) : k ≤ r.2.2 := by
  induction events generalizing k with
  | nil => simp [resultsFrom] at hr
  | cons e events ih =>
      cases e with
      | read => exact Nat.le_of_succ_le (ih hr)
      | completed id d =>
          cases hd : d.found? with
          | none =>
              rw [resultsFrom_unmatched k events hd] at hr
              exact ih hr
          | some m =>
              rw [resultsFrom_matched k events hd] at hr
              rcases List.mem_cons.1 hr with rfl | hr
              · exact Nat.le_refl k
              · exact ih hr

/-- Before the next item is read nothing is delivered. -/
theorem filter_resultsFrom_read (k : Nat) (events : List (Event ι)) :
    (resultsFrom k (.read :: events)).filter (·.2.2 ≤ k) = [] := by
  refine List.filter_eq_nil_iff.2 ?_
  intro r hr
  have hlater : k + 1 ≤ r.2.2 := le_of_mem_resultsFrom hr
  rw [decide_eq_true_iff]
  exact Nat.not_le_of_lt hlater

/-- Cut behind a result, the events have the results up to it, and have read as much as it says. -/
theorem resultsFrom_cutAfter {n k : Nat} {events : List (Event ι)} (fault : Option Fault)
    (hn : n < (resultsFrom k events).length) :
    (cutAfter (n + 1) events).2 = true ∧
      resultsFrom k (cutAfter (n + 1) events).1 = (resultsFrom k events).take (n + 1) ∧
      k + consumed ⟨(cutAfter (n + 1) events).1, fault⟩ = ((resultsFrom k events)[n]).2.2 := by
  induction events generalizing n k with
  | nil => simp [resultsFrom] at hn
  | cons e events ih =>
      cases e with
      | read =>
          obtain ⟨hreached, hresults, hread⟩ := ih (k := k + 1) hn
          rw [cutAfter_read]
          refine ⟨hreached, hresults, ?_⟩
          rw [consumed_read, ← Nat.add_assoc, Nat.add_right_comm]
          exact hread
      | completed id d =>
          cases hd : d.found? with
          | none =>
              simp only [resultsFrom_unmatched k _ hd, cutAfter_unmatched n _ hd, consumed_completed] at hn ⊢
              exact ih hn
          | some m =>
              simp only [resultsFrom_matched k _ hd, cutAfter_matched n _ hd, consumed_completed,
                List.length_cons] at hn ⊢
              cases n with
              | zero => simp [cutAfter, resultsFrom, consumed]
              | succ n =>
                  obtain ⟨hreached, hresults, hread⟩ := ih (k := k) (Nat.lt_of_succ_lt_succ hn)
                  exact ⟨hreached, by rw [hresults, List.take_succ_cons], hread⟩

/-- Nothing is read before a result is asked for. -/
theorem consumed_upTo_zero (h : History ι) : (h.upTo 0).1.consumed = 0 := by
  simp [upTo, cutAfter, consumed]

/-- When a result is delivered, it and those before it are there, and as much has been read as it says. -/
theorem results_upTo {h : History ι} {n : Nat} (hn : n < h.results.length) :
    (h.upTo (n + 1)).1.results = h.results.take (n + 1) ∧
      (h.upTo (n + 1)).1.consumed = (h.results[n]).2.2 := by
  obtain ⟨hreached, hresults, hread⟩ := resultsFrom_cutAfter none hn
  rw [upTo]
  simp only [hreached, if_true]
  exact ⟨hresults, (Nat.zero_add _).symm.trans hread⟩

end History

namespace Grouping

/-! ### The open group and what comes later -/

/-- The result of a run that ends at a position of a stream of `total` items, and how many of them have been
read by then: the item behind the run as well if there is one. -/
def deliveredAt (g : Grouping) (total : Nat) (run : (ι × List Entry) × Nat) : Option (ι × Match × Nat) :=
  (g.matched? run.1).map fun x => (x.1, x.2, if run.2 < total then run.2 + 1 else total)

/-- A group that is complete when `n` items have been read delivers its result then. -/
theorem resultsFrom_completion (g : Grouping) (n : Nat) (r : ι × List Entry) (events : List (Event ι)) :
    History.resultsFrom n (g.completion r :: events) =
      ((g.matched? r).map fun x => (x.1, x.2, n)).toList ++ History.resultsFrom n events := by
  have hmatched : g.matched? r = (g.decide r.2).found?.map (r.1, ·) := rfl
  rw [completion, hmatched]
  cases hd : (g.decide r.2).found? with
  | none => exact History.resultsFrom_unmatched n events hd
  | some m => exact History.resultsFrom_matched n events hd

/-- The first of several runs delivers its result if it has one. -/
theorem filterMap_endsFrom_cons (f : (ι × List Entry) × Nat → Option (ι × Match × Nat)) (n : Nat)
    (r : ι × List Entry) (rs : List (ι × List Entry)) :
    (endsFrom n (r :: rs)).filterMap f =
      (f (r, n + r.2.length)).toList ++ (endsFrom (n + r.2.length) rs).filterMap f := by
  rw [endsFrom, List.filterMap_cons]
  cases f (r, n + r.2.length) <;> rfl

variable [BEq ι] {g : Grouping} (hg : g.Answers)

include hg in
/-- **The open group and the results still to come.**  When a group is open that begins behind `before` items,
the open run and those that follow it deliver their results as soon as the item behind them has been read. -/
theorem resultsFrom_follow (group : CandidateGroup ι) (before : Nat) (stream : Stream ι) :
    let read := before + group.entries.length
    History.resultsFrom read (g.follow group stream).events =
      (endsFrom before (complete (collect stream).2
        (runsFrom group.id group.entries (collect stream).1))).filterMap
          (g.deliveredAt (read + stream.length)) := by
  intro read
  induction stream generalizing group before with
  | nil =>
      rw [follow, close_eq hg, collect, complete_none, runsFrom_nil, filterMap_endsFrom_cons]
      have hlast : g.deliveredAt read ((group.id, group.entries), read) =
          (g.matched? (group.id, group.entries)).map fun x => (x.1, x.2, read) := by
        simp only [deliveredAt, Nat.lt_irrefl, if_false]
      exact (g.resultsFrom_completion read _ _).trans (congrArg (·.toList ++ []) hlast.symm)
  | cons item rest ih =>
      cases item with
      | error f =>
          rw [follow, collect, runsFrom_nil]
          rfl
      | ok item =>
          obtain ⟨id, e⟩ := item
          have htotal : read + (rest.length + 1) = read + 1 + rest.length := by omega
          rw [follow, collect, runsFrom_cons, List.length_cons, htotal]
          split
          · -- the item joins the open group
            have hresults := ih (group.add e) before
            rw [CandidateGroup.entries_add, List.length_append] at hresults
            exact hresults
          · -- the item opens the next group, and the open one is complete
            have hresults := ih ((CandidateGroup.start id).add e) read
            have hopen : g.deliveredAt (read + 1 + rest.length) ((group.id, group.entries), read) =
                (g.matched? (group.id, group.entries)).map fun x => (x.1, x.2, read + 1) := by
              have hmore : read < read + 1 + rest.length := by omega
              simp only [deliveredAt, if_pos hmore]
            rw [close_eq hg, complete_cons _ _ (runsFrom_ne_nil _ _ _), filterMap_endsFrom_cons]
            refine (g.resultsFrom_completion (read + 1) _ _).trans ?_
            exact congrArg₂ (· ++ ·) (congrArg Option.toList hopen.symm) hresults

/-- Behind an open group the first thing that happens is that an item is read. -/
theorem exists_follow_cons (group : CandidateGroup ι) (next : Except Fault (ι × Entry)) (rest : Stream ι) :
    ∃ events, (g.follow group (next :: rest)).events = .read :: events := by
  cases next with
  | error f => exact ⟨[], rfl⟩
  | ok item =>
      rw [follow]
      split <;> exact ⟨_, rfl⟩

include hg in
/-- **What is delivered does not depend on what comes later.**  When a group is open that begins behind `before`
items, and a further item comes behind the next ones, then the results that are delivered before it is read are
those of the runs among the next ones, but for the last. -/
theorem filter_resultsFrom_follow (group : CandidateGroup ι) (before : Nat) (front : Stream ι)
    (next : Except Fault (ι × Entry)) (rest : Stream ι) :
    let read := before + group.entries.length
    (History.resultsFrom read (g.follow group (front ++ next :: rest)).events).filter
        (·.2.2 ≤ read + front.length) =
      (endsFrom before (runsFrom group.id group.entries (collect front).1).dropLast).filterMap
        fun run => (g.matched? run.1).map fun x => (x.1, x.2, run.2 + 1) := by
  intro read
  induction front generalizing group before with
  | nil =>
      obtain ⟨events, hevents⟩ := exists_follow_cons (g := g) group next rest
      rw [List.nil_append, hevents, collect, runsFrom_nil]
      exact History.filter_resultsFrom_read read events
  | cons item front ih =>
      cases item with
      | error f =>
          rw [List.cons_append, follow, collect, runsFrom_nil]
          rfl
      | ok item =>
          obtain ⟨id, e⟩ := item
          have htotal : read + (front.length + 1) = read + 1 + front.length := by omega
          rw [List.cons_append, follow, collect, runsFrom_cons, List.length_cons, htotal]
          split
          · -- the item joins the open group
            have hresults := ih (group.add e) before
            rw [CandidateGroup.entries_add, List.length_append] at hresults
            exact hresults
          · -- the item opens the next group, and the open one is complete
            have hresults := ih ((CandidateGroup.start id).add e) read
            rw [close_eq hg, List.dropLast_cons_of_ne_nil (runsFrom_ne_nil _ _ _), filterMap_endsFrom_cons]
            have hopen : ((g.matched? (group.id, group.entries)).map fun x => (x.1, x.2, read + 1)).toList.filter
                (·.2.2 ≤ read + 1 + front.length) =
                  ((g.matched? (group.id, group.entries)).map fun x => (x.1, x.2, read + 1)).toList := by
              cases g.matched? (group.id, group.entries) <;> simp
            refine (congrArg (List.filter _) (g.resultsFrom_completion (read + 1) _ _)).trans ?_
            rw [List.filter_append, hopen]
            exact congrArg (_ ++ ·) hresults

/-! ### Streams that are matched as they come -/

include hg in
theorem results_runOrdered (stream : Stream ι) :
    (g.runOrdered stream).results =
      (endsFrom 0 (closedRuns stream)).filterMap (g.deliveredAt stream.length) := by
  cases stream with
  | nil =>
      rw [closedRuns, collect, runs_nil]
      rfl
  | cons item rest =>
      cases item with
      | error f =>
          rw [closedRuns, collect, runs_nil]
          rfl
      | ok item =>
          obtain ⟨id, e⟩ := item
          have hresults := resultsFrom_follow hg ((CandidateGroup.start id).add e) 0 rest
          rw [closedRuns, collect, runs_cons, List.length_cons, Nat.add_comm rest.length]
          exact hresults

include hg in
theorem filter_results_runOrdered (front : Stream ι) (next : Except Fault (ι × Entry)) (rest : Stream ι) :
    (g.runOrdered (front ++ next :: rest)).results.filter (·.2.2 ≤ front.length) =
      (endsFrom 0 (runs (collect front).1).dropLast).filterMap fun run =>
        (g.matched? run.1).map fun x => (x.1, x.2, run.2 + 1) := by
  cases front with
  | nil =>
      have hfirst : ∃ events, (g.runOrdered (next :: rest)).events = .read :: events := by
        cases next with
        | error f => exact ⟨[], rfl⟩
        | ok item => exact ⟨_, rfl⟩
      obtain ⟨events, hevents⟩ := hfirst
      rw [List.nil_append, History.results, hevents, collect, runs_nil]
      exact History.filter_resultsFrom_read 0 events
  | cons item front =>
      cases item with
      | error f =>
          rw [collect, runs_nil]
          rfl
      | ok item =>
          obtain ⟨id, e⟩ := item
          have hresults := filter_resultsFrom_follow hg ((CandidateGroup.start id).add e) 0 front next rest
          rw [collect, runs_cons, List.length_cons, Nat.add_comm front.length]
          exact hresults

/-! ### Streams that are sorted first -/

end Grouping

theorem length_collect {stream : Stream ι} (h : (collect stream).2 = none) :
    (collect stream).1.length = stream.length := by
  induction stream with
  | nil => rfl
  | cons item rest ih =>
      cases item with
      | error f => exact absurd h (Option.some_ne_none f)
      | ok item => exact congrArg (· + 1) (ih h)

namespace History

theorem resultsFrom_reads (k n : Nat) (events : List (Event ι)) :
    resultsFrom k (List.replicate n .read ++ events) = resultsFrom (k + n) events := by
  induction n generalizing k with
  | zero => rfl
  | succ n ih => rw [List.replicate_succ, List.cons_append, resultsFrom_read, ih, Nat.add_right_comm, Nat.add_assoc]

/-- If nothing is read any more, all results come after as many items. -/
theorem eq_of_mem_resultsFrom_completedOnly {k : Nat} {events : List (Event ι)} {r : ι × Match × Nat}
    (hr : r ∈ resultsFrom k (Grouping.completedOnly events)) : r.2.2 = k := by
  induction events with
  | nil => simp [resultsFrom] at hr
  | cons e events ih =>
      cases e with
      | read => exact ih hr
      | completed id d =>
          rw [Grouping.completedOnly_completed] at hr
          cases hd : d.found? with
          | none =>
              rw [resultsFrom_unmatched k _ hd] at hr
              exact ih hr
          | some m =>
              rw [resultsFrom_matched k _ hd] at hr
              rcases List.mem_cons.1 hr with rfl | hr
              · rfl
              · exact ih hr

end History

namespace Grouping

variable [BEq ι] [IdOrder ι]

/-- A stream that is sorted first has been read to its end when a result is delivered. -/
theorem eq_length_of_mem_results_runSorting {g : Grouping} {stream : Stream ι} {r : ι × Match × Nat}
    (hr : r ∈ (g.runSorting stream).results) : r.2.2 = stream.length := by
  rw [runSorting] at hr
  cases hend : (collect stream).2 with
  | some f =>
      simp only [hend] at hr
      rw [History.results, ← List.append_nil (List.replicate _ _), History.resultsFrom_reads] at hr
      cases hr
  | none =>
      rw [← length_collect hend]
      simp only [hend] at hr
      cases hsorted : sortById? (·.1) (collect stream).1 with
      | none =>
          simp only [hsorted] at hr
          rw [History.results, ← List.append_nil (List.replicate _ _), History.resultsFrom_reads] at hr
          cases hr
      | some sorted =>
          simp only [hsorted] at hr
          rw [History.results, History.resultsFrom_reads, Nat.zero_add] at hr
          exact History.eq_of_mem_resultsFrom_completedOnly hr

/-- **A stream is read no further than it must be.**  Nothing is read before a result is asked for.  Of a stream
that is matched as it comes, each run that is complete and matches delivers its result when the item behind it
has been read, or else all items; this is how far the stream has been read when the result is there, with the
results before it and no others.  So if any items come behind those of `s`, the results delivered before the
first of them is read are those of the runs of `s` but the last.  Of a stream that is sorted first all items have
been read when a result is there. -/
theorem reads_just_enough (engine : Engine) (vendor product : Option Text) (identified : Identified) :
    let trusting := ofProduct engine vendor product identified true
    let sorting := ofProduct engine vendor product identified false
    (∀ s : Stream ι,
      let h := trusting.events s
      (h.upTo 0).1.consumed = 0 ∧
      h.results = (endsFrom 0 (closedRuns s)).filterMap (trusting.deliveredAt s.length) ∧
      (∀ n (hn : n < h.results.length),
        (h.upTo (n + 1)).1.results = h.results.take (n + 1) ∧
        (h.upTo (n + 1)).1.consumed = (h.results[n]).2.2) ∧
      ∀ next rest, (trusting.events (s ++ next :: rest)).results.filter (·.2.2 ≤ s.length) =
        (endsFrom 0 (runs (collect s).1).dropLast).filterMap fun run =>
          (trusting.matched? run.1).map fun x => (x.1, x.2, run.2 + 1)) ∧
    ∀ s : Stream ι,
      let h := sorting.events s
      (h.upTo 0).1.consumed = 0 ∧
      ∀ n < h.results.length, (h.upTo (n + 1)).1.consumed = s.length := by
  intro trusting sorting
  have hg : trusting.Answers := answers_ofProduct engine vendor product identified true
  refine ⟨?_, ?_⟩
  · intro s h
    refine ⟨h.consumed_upTo_zero, results_runOrdered hg s, fun n hn => History.results_upTo hn, ?_⟩
    intro next rest
    exact filter_results_runOrdered hg s next rest
  · intro s h
    refine ⟨h.consumed_upTo_zero, ?_⟩
    intro n hn
    rw [(History.results_upTo hn).2]
    exact eq_length_of_mem_results_runSorting (List.getElem_mem hn)

/-- Version 2.0 against two items of `A`, one of `B` that does not match and one of `C`: the result of `A` is there
when the item of `B` has been read, and that of `C` with the end of the stream.  Sorted first, all four items
have been read for that of `A`. -/
theorem reads_just_enough_fourItems :
    let single : Entry := ⟨"cpe:/a:v:p:3.0", "v", "p", "3.0", ⟨"3.0", [.number 3, .number 0]⟩, .bool false⟩
    let range : Entry := ⟨"cpe:/a:v:p:2.1", "v", "p", "2.1", ⟨"2.1", [.number 2, .number 1]⟩, .bool true⟩
    let identified : Identified := .version ⟨"2.0", [.number 2, .number 0]⟩
    let trusting := ofProduct .standard (some "v") (some "p") identified true
    let sorting := ofProduct .standard (some "v") (some "p") identified false
    let items : List (Text × Entry) := [("A", single), ("A", range), ("B", single), ("C", range)]
    let stream := streamOf items
    (trusting.events stream).results =
        [(.string "A", .ofEntry range, 3), (.string "C", .ofEntry range, 4)] ∧
      0 < (trusting.events stream).results.length ∧
      ((trusting.events stream).upTo 1).1.consumed = 3 ∧
      0 < (sorting.events stream).results.length ∧
      ((sorting.events stream).upTo 1).1.consumed = 4 := by
  intro single range identified trusting sorting items stream
  obtain ⟨htrusting, hsorting⟩ :=
    reads_just_enough (ι := Json) .standard (some "v") (some "p") identified
  have hresults : (trusting.events stream).results =
      [(.string "A", .ofEntry range, 3), (.string "C", .ofEntry range, 4)] := rfl
  have hsome : 0 < (trusting.events stream).results.length := by
    rw [hresults]
    exact Nat.zero_lt_succ _
  -- the ids ascend, so the stream delivers the same when it is sorted first
  have hascending : items.Pairwise (·.1 ≤ ·.1) := by decide
  have hsame : trusting.delivered stream = sorting.delivered stream :=
    delivered_of_ascending .standard (some "v") (some "p") identified hascending
  have hsorted : 0 < (sorting.events stream).results.length := by
    rw [← List.length_map (fun r => (r.1, r.2.1)), ← delivered, ← hsame, delivered, List.length_map]
    exact hsome
  refine ⟨hresults, hsome, ?_, hsorted, ?_⟩
  · rw [((htrusting stream).2.2.1 0 hsome).2]
    rfl
  · exact (hsorting stream).2 0 hsorted

end Grouping

end CpeMatch
