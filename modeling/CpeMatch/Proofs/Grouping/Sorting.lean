import CpeMatch.Proofs.Grouping.Exact
import CpeMatch.Proofs.Matching.Kinds
import CpeMatch.Proofs.StableSort

/-!
**Sorting a stream first makes its order irrelevant.**

A stream that is sorted by id before it is matched has one run for each id, with all that its items of
this id hold, in the order in which they come.  So the results come in ascending order of ids, and only
the order of the items of one id can matter: it may change which of its entries is found, but not whether
one is.

Main definitions:

* `CpeMatch.heldUnder`, `CpeMatch.ascendingIds` — what items hold under an id, and their ids;
* `CpeMatch.streamOf`, `CpeMatch.entriesUnder` — a stream whose ids are texts, and what its items hold
  under an id;
* `CpeMatch.Grouping.delivered` — the results of a stream.

Main results:

* `CpeMatch.runs_sortedBy` — the runs of sorted items;
* `CpeMatch.Grouping.completedOnly_events_streamOf` — what is matched of a stream, sorted first or not;
* `CpeMatch.Grouping.exists_names` — **what is matched of a stream that is sorted first**;
* `CpeMatch.Grouping.delivered_of_perm` — **its order makes no difference**.
-/

set_option autoImplicit false

namespace CpeMatch

/-! ### The runs of sorted items -/

section

variable {ι α : Type} [BEq ι] [LawfulBEq ι] [LinearOrder ι]

/-- What the items with an id hold, in their order. -/
def heldUnder (id : ι) (items : List (ι × α)) : List α := (items.filter (·.1 == id)).map (·.2)

/-- The ids of items in ascending order, each once. -/
def ascendingIds (items : List (ι × α)) : List ι := (runs (sortedBy Prod.fst items)).map (·.1)

/-- Sorting by ids keeps the order of what items hold under each of them. -/
theorem heldUnder_sortedBy (id : ι) (items : List (ι × α)) :
    heldUnder id (sortedBy Prod.fst items) = heldUnder id items := by
  have hbeq : (fun x : ι × α => x.1 == id) = fun x => decide (x.1 = id) := by
    funext x
    rw [Bool.eq_iff_iff, beq_iff_eq, decide_eq_true_iff]
  rw [heldUnder, heldUnder, hbeq, filter_sortedBy]

theorem mem_runs_sortedBy_iff (items : List (ι × α)) (r : ι × List α) :
    r ∈ runs (sortedBy Prod.fst items) ↔ r.2 ≠ [] ∧ r.2 = heldUnder r.1 items := by
  rw [(Adjacent.of_ascending (pairwise_sortedBy _ _)).mem_runs_iff, ← heldUnder_sortedBy r.1 items]
  rfl

theorem pairwise_ascendingIds (items : List (ι × α)) : (ascendingIds items).Pairwise (· < ·) :=
  List.pairwise_map.2 (pairwise_runs (pairwise_sortedBy _ _))

theorem mem_ascendingIds_iff {items : List (ι × α)} {id : ι} :
    id ∈ ascendingIds items ↔ heldUnder id items ≠ [] := by
  rw [ascendingIds, List.mem_map]
  constructor
  · rintro ⟨r, hr, rfl⟩
    obtain ⟨hne, hheld⟩ := (mem_runs_sortedBy_iff items r).1 hr
    rwa [← hheld]
  · intro hne
    exact ⟨(id, heldUnder id items), (mem_runs_sortedBy_iff items _).2 ⟨hne, rfl⟩, rfl⟩

/-- The runs of sorted items are their ids, each with all that the items hold under it. -/
theorem runs_sortedBy (items : List (ι × α)) :
    runs (sortedBy Prod.fst items) = (ascendingIds items).map fun id => (id, heldUnder id items) := by
  rw [ascendingIds, List.map_map]
  have hself : ∀ r ∈ runs (sortedBy Prod.fst items),
      ((fun id => (id, heldUnder id items)) ∘ fun r : ι × List α => r.1) r = r := by
    intro r hr
    rw [Function.comp_apply, ← ((mem_runs_sortedBy_iff items r).1 hr).2]
  exact (List.map_congr_left hself).symm ▸ (List.map_id' _).symm

end

/-! ### Streams whose ids are texts -/

/-- A stream of items whose ids are texts. -/
def streamOf (items : List (Text × Entry)) : Stream Json := items.map fun x => .ok (.string x.1, x.2)

/-- The items of the stream that can be built have texts as their ids. -/
def HasTextIds (stream : Stream Json) : Prop := ∀ id e, .ok (id, e) ∈ stream → ∃ s, id = .string s

theorem hasTextIds_streamOf (items : List (Text × Entry)) : HasTextIds (streamOf items) := by
  intro id e he
  obtain ⟨x, _, hx⟩ := List.mem_map.1 he
  exact ⟨x.1, (congrArg Prod.fst (Except.ok.inj hx)).symm⟩

/-- What the items of a stream hold under an id, in their order. -/
def entriesUnder (id : Text) (stream : Stream Json) : List Entry :=
  stream.filterMap fun
    | .ok (id', e) => if id' == .string id then some e else none
    | .error _ => none

theorem streamOf_eq (items : List (Text × Entry)) :
    streamOf items = (items.map (Prod.map Json.string id)).map .ok := by
  rw [streamOf, List.map_map]
  rfl

/-- The runs of a stream are those of what it says of texts. -/
theorem runs_map_string (items : List (Text × Entry)) :
    runs (items.map (Prod.map Json.string id)) = (runs items).map (Prod.map Json.string id) := by
  rw [runs_map fun s t => Json.beq_string s t]
  refine List.map_congr_left ?_
  intro r _
  rw [Prod.map_apply, List.map_id, Prod.map_apply, id_eq]

theorem entriesUnder_streamOf (id : Text) (items : List (Text × Entry)) :
    entriesUnder id (streamOf items) = heldUnder id items := by
  induction items with
  | nil => rfl
  | cons x items ih =>
      rw [streamOf] at ih
      by_cases hx : x.1 = id
      · simpa [entriesUnder, streamOf, heldUnder, hx, Json.beq_string] using ih
      · simpa [entriesUnder, streamOf, heldUnder, hx, Json.beq_string] using ih

/-- A stream can be read to its end if each of its items can be built. -/
theorem collect_eq_none_iff {ι : Type} {stream : Stream ι} :
    (collect stream).2 = none ↔ ∀ f, .error f ∉ stream := by
  induction stream with
  | nil => simp [collect]
  | cons x rest ih =>
      cases x with
      | error f => exact iff_of_false (Option.some_ne_none f) fun h => h f (List.mem_cons_self ..)
      | ok item => simp [collect, ih]

/-- A stream whose ids are texts and which can be read to its end. -/
theorem exists_streamOf {stream : Stream Json} (hids : HasTextIds stream)
    (hend : (collect stream).2 = none) : ∃ items, stream = streamOf items := by
  induction stream with
  | nil => exact ⟨[], rfl⟩
  | cons x rest ih =>
      rw [collect_eq_none_iff] at hend ih
      obtain ⟨items, hrest⟩ := ih (fun id e he => hids id e (List.mem_cons_of_mem x he))
        fun f hf => hend f (List.mem_cons_of_mem x hf)
      cases x with
      | error f => exact absurd (List.mem_cons_self ..) (hend f)
      | ok item =>
          obtain ⟨s, hs⟩ := hids item.1 item.2 (List.mem_cons_self ..)
          refine ⟨(s, item.2) :: items, ?_⟩
          rw [hrest, streamOf, streamOf, List.map_cons, ← hs]

/-- Sorting a stream sorts what it says of texts. -/
theorem sortById?_streamOf (items : List (Text × Entry)) :
    sortById? (·.1) (items.map (Prod.map Json.string id)) =
      some ((sortedBy Prod.fst items).map (Prod.map Json.string id)) := by
  have hids : ∀ x ∈ items.map (Prod.map Json.string (id : Entry → Entry)),
      x.1 = .string (x.1.text?.getD Text.empty) := by
    intro x hx
    obtain ⟨y, _, rfl⟩ := List.mem_map.1 hx
    rfl
  have hsort := List.map_mergeSort (l := items) (f := Prod.map Json.string (id : Entry → Entry))
    (r := fun x y => decide (x.1 ≤ y.1))
    (s := fun x y => decide (x.1.text?.getD Text.empty ≤ y.1.text?.getD Text.empty))
    fun _ _ _ _ => rfl
  rw [sortById?_eq_sortedBy hids, sortedBy, ← hsort]
  rfl

namespace Grouping

/-! ### What is matched -/

section

variable {ι : Type} [BEq ι] [IdOrder ι] {g : Grouping}

/-- A stream that is sorted first has the runs of the sorted items. -/
theorem completedOnly_events_of_sortById? (hg : g.Answers) (hpre : g.presorted = false)
    {items sorted : List (ι × Entry)} (hsorted : sortById? (·.1) items = some sorted) :
    completedOnly (g.events (items.map .ok)).events = (runs sorted).map g.completion ∧
      (g.events (items.map .ok)).fault = none := by
  have hordered := completedOnly_runOrdered hg (sorted.map .ok)
  rw [closedRuns, collect_map_ok, complete_none] at hordered
  rw [events, hpre, if_neg Bool.false_ne_true, runSorting, collect_map_ok]
  simp only [hsorted]
  rw [completedOnly_append, completedOnly_reads, completedOnly_completedOnly]
  exact hordered

/-- Of a stream that is to be sorted nothing is matched if an item cannot be built. -/
theorem completedOnly_events_of_fault (hpre : g.presorted = false) {stream : Stream ι} {f : Fault}
    (hf : (collect stream).2 = some f) :
    completedOnly (g.events stream).events = [] ∧ (g.events stream).fault = some f := by
  rw [events, hpre, if_neg Bool.false_ne_true, runSorting]
  simp only [hf]
  exact ⟨completedOnly_reads _, trivial⟩

end

variable {g : Grouping} (hg : g.Answers)

include hg in
/-- What is matched of a stream, which is sorted first unless it is said to be ordered. -/
theorem completedOnly_events_streamOf (items : List (Text × Entry)) :
    completedOnly (g.events (streamOf items)).events =
        ((runs (if g.presorted then items else sortedBy Prod.fst items)).map
          (Prod.map Json.string id)).map g.completion ∧
      (g.events (streamOf items)).fault = none := by
  cases hpre : g.presorted with
  | true =>
      have hordered := completedOnly_runOrdered hg (streamOf items)
      rw [closedRuns, streamOf_eq, collect_map_ok, complete_none, runs_map_string] at hordered
      rw [events, hpre, streamOf_eq]
      exact hordered
  | false =>
      have hsorting := completedOnly_events_of_sortById? hg hpre (sortById?_streamOf items)
      rw [runs_map_string] at hsorting
      rw [streamOf_eq]
      exact hsorting

variable (hpre : g.presorted = false)

include hg hpre in
/-- **What is matched of a stream that is sorted first**: in ascending order of ids, what its items hold
under each. -/
theorem exists_names {stream : Stream Json} (hids : HasTextIds stream) :
    ∃ names : List Text, names.Pairwise (· < ·) ∧
      (∀ s, s ∈ names ↔ (collect stream).2 = none ∧ entriesUnder s stream ≠ []) ∧
      completedOnly (g.events stream).events =
        (names.map fun s => (Json.string s, entriesUnder s stream)).map g.completion ∧
      (g.events stream).fault = (collect stream).2 := by
  cases hend : (collect stream).2 with
  | some f =>
      obtain ⟨hevents, hfault⟩ := completedOnly_events_of_fault hpre hend
      exact ⟨[], List.Pairwise.nil, by simp, hevents, hfault⟩
  | none =>
      obtain ⟨items, rfl⟩ := exists_streamOf hids hend
      obtain ⟨hevents, hfault⟩ := completedOnly_events_streamOf hg items
      rw [hpre, if_neg Bool.false_ne_true, runs_sortedBy] at hevents
      refine ⟨ascendingIds items, pairwise_ascendingIds items, ?_, ?_, hfault⟩
      · intro s
        rw [mem_ascendingIds_iff, entriesUnder_streamOf]
        simp
      · rw [hevents]
        simp only [List.map_map, entriesUnder_streamOf]
        rfl

/-! ### Permutations -/

/-- What a stream delivers: the ids that match, each with its match. -/
def delivered (g : Grouping) (stream : Stream Json) : List (Json × Match) :=
  (g.events stream).results.map fun r => (r.1, r.2.1)

theorem tally_events {g : Grouping} {stream : Stream Json} {rs : List (Json × List Entry)} (t : Tally)
    (hrs : completedOnly (g.events stream).events = rs.map g.completion) :
    (g.events stream).tally t = ⟨t.seen + rs.length, t.matched + (g.delivered stream).length⟩ := by
  rw [History.tally_of_completedOnly t hrs, delivered, History.map_results_of_completedOnly hrs]

/-- The ids that match, of those there are. -/
theorem map_fst_filterMap_matched? (g : Grouping) (names : List Text) (held : Text → List Entry) :
    ((names.map fun s => (Json.string s, held s)).filterMap g.matched?).map (·.1) =
      (names.filter fun s =>
        (g.engine.match? g.identified.toVersion (held s) g.vendor g.product).isSome).map .string := by
  rw [List.filterMap_map]
  induction names with
  | nil => rfl
  | cons s names ih =>
      rw [List.filterMap_cons, Function.comp_apply, matched?]
      cases hs : g.engine.match? g.identified.toVersion (held s) g.vendor g.product with
      | none => simpa [hs] using ih
      | some m => simpa [hs] using ih

theorem mem_filterMap_matched?_iff (g : Grouping) {names : List Text} {held : Text → List Entry}
    {s : Text} {m : Match} :
    (Json.string s, m) ∈ (names.map fun s => (Json.string s, held s)).filterMap g.matched? ↔
      s ∈ names ∧ g.engine.match? g.identified.toVersion (held s) g.vendor g.product = some m := by
  rw [List.filterMap_map, List.mem_filterMap]
  constructor
  · rintro ⟨s', hs', hm⟩
    obtain ⟨m', hm', hpair⟩ := Option.map_eq_some_iff.1 hm
    obtain ⟨hs, rfl⟩ := Prod.mk.inj hpair
    obtain rfl := Json.string.inj hs
    exact ⟨hs', hm'⟩
  · rintro ⟨hs, hm⟩
    exact ⟨s, hs, by rw [Function.comp_apply, matched?, hm]; rfl⟩

/-- **The order of a stream that is sorted first makes no difference.**  Its results come in strictly
ascending order of ids, each id with the match of all that the stream's items hold under it; and the stream
is matched to its end unless one of its items cannot be built.  A permutation of it has the same ids that
match and the same counts; and if it keeps the items of each id in their order, it has the same
results. -/
theorem delivered_of_perm (engine : Engine) (vendor product : Option Text) (identified : Identified)
    (t : Tally) {stream : Stream Json} (hids : HasTextIds stream) :
    let g : Grouping := ⟨engine, .ofText? vendor, .ofText? product, identified, false⟩
    (∃ names : List Text, names.Pairwise (· < ·) ∧
      (g.delivered stream).map (·.1) = names.map .string) ∧
    (g.events stream).fault = (collect stream).2 ∧
    (∀ s m, (.string s, m) ∈ g.delivered stream ↔ (collect stream).2 = none ∧
      engine.match? identified.toVersion (entriesUnder s stream) (.ofText? vendor) (.ofText? product) =
        some m) ∧
    ∀ other, stream.Perm other →
      (g.delivered other).map (·.1) = (g.delivered stream).map (·.1) ∧
      (g.events other).tally t = (g.events stream).tally t ∧
      ((∀ s, entriesUnder s other = entriesUnder s stream) →
        g.delivered other = g.delivered stream) := by
  intro g
  have hg : g.Answers := answers_ofText? engine vendor product identified false
  obtain ⟨names, hnames, hmem, hevents, hfault⟩ := exists_names hg rfl hids
  have hdelivered := History.map_results_of_completedOnly hevents
  refine ⟨?_, hfault, ?_, ?_⟩
  · rw [delivered, hdelivered, map_fst_filterMap_matched?]
    exact ⟨_, hnames.filter _, rfl⟩
  · intro s m
    rw [delivered, hdelivered, mem_filterMap_matched?_iff, hmem, and_assoc]
    refine and_congr_right fun _ => and_iff_right_of_imp ?_
    intro hm hnil
    rw [hnil, engine.match?_nil] at hm
    exact Option.some_ne_none m hm.symm
  · intro other hperm
    have hids' : HasTextIds other := fun id e he => hids id e (hperm.mem_iff.2 he)
    obtain ⟨names', hnames', hmem', hevents', -⟩ := exists_names hg rfl hids'
    have hunder : ∀ s, (entriesUnder s stream).Perm (entriesUnder s other) := fun s => hperm.filterMap _
    -- the ids are known by what there is, so they are the same
    obtain rfl : names = names' := by
      refine eq_of_mem_iff (fun _ _ hlt => hlt.asymm) hnames hnames' ?_
      intro s
      rw [hmem, hmem', collect_eq_none_iff, collect_eq_none_iff]
      simp only [hperm.mem_iff, ne_eq, ← List.length_eq_zero_iff, (hunder s).length_eq]
    have hids : (g.delivered other).map (·.1) = (g.delivered stream).map (·.1) := by
      rw [delivered, delivered, hdelivered, History.map_results_of_completedOnly hevents',
        map_fst_filterMap_matched?, map_fst_filterMap_matched?]
      refine congrArg (List.map Json.string) (List.filter_congr ?_)
      intro s _
      exact engine.isSome_match?_congr vendor product _ (SameEntries.of_perm (hunder s).symm)
    refine ⟨hids, ?_, ?_⟩
    · have hlength : (g.delivered other).length = (g.delivered stream).length := by
        rw [← List.length_map (·.1), hids, List.length_map]
      rw [tally_events t hevents, tally_events t hevents', hlength, List.length_map, List.length_map]
    · intro hsame
      rw [delivered, delivered, hdelivered, History.map_results_of_completedOnly hevents']
      simp only [hsame]

/-- Version 2.0 against a stream in which the entries for `B` are apart.  Where they stay in their order,
the lower range is found as before; where they are exchanged, the higher is, under the same id. -/
theorem delivered_of_perm_exchanged :
    let v : Version := ⟨"2.0", [.number 2, .number 0]⟩
    let single : Entry := ⟨"cpe:/a:v:p:2.0", "v", "p", "2.0", ⟨"2.0", [.number 2, .number 0]⟩, .bool false⟩
    let low : Entry := ⟨"cpe:/a:v:p:2.1", "v", "p", "2.1", ⟨"2.1", [.number 2, .number 1]⟩, .bool true⟩
    let high : Entry := ⟨"cpe:/a:v:p:2.5", "v", "p", "2.5", ⟨"2.5", [.number 2, .number 5]⟩, .bool true⟩
    let g : Grouping := ⟨.standard, .ofText? (some "v"), .ofText? (some "p"), .version v, false⟩
    let stream := streamOf [("B", low), ("A", single), ("B", high)]
    let kept := streamOf [("A", single), ("B", low), ("B", high)]
    let exchanged := streamOf [("A", single), ("B", high), ("B", low)]
    HasTextIds stream ∧ stream.Perm kept ∧ stream.Perm exchanged ∧
      (.string "B", .ofEntry low) ∈ g.delivered stream ∧ g.delivered kept = g.delivered stream ∧
      (.string "B", .ofEntry high) ∈ g.delivered exchanged ∧
      (g.delivered exchanged).map (·.1) = (g.delivered stream).map (·.1) := by
  intro v single low high g stream kept exchanged
  have hids : HasTextIds stream := hasTextIds_streamOf _
  have hkept : stream.Perm kept := (List.Perm.swap ..).map _
  have hexchanged : stream.Perm exchanged := hkept.trans (((List.Perm.swap ..).cons _).map _)
  have hunder : ∀ s, entriesUnder s kept = entriesUnder s stream := by
    intro s
    have hne : ("A" : Text) ≠ "B" := by decide
    rw [entriesUnder_streamOf, entriesUnder_streamOf, heldUnder, heldUnder]
    by_cases hs : s = "A"
    · simp [hs, hne.symm]
    · simp [Ne.symm hs, List.filter_cons]
  obtain ⟨_, _, hmem, hperm⟩ := delivered_of_perm .standard (some "v") (some "p") (.version v) .zero hids
  obtain ⟨_, _, hmem', _⟩ := delivered_of_perm .standard (some "v") (some "p") (.version v) .zero
    (hasTextIds_streamOf [("A", single), ("B", high), ("B", low)])
  exact ⟨hids, hkept, hexchanged, (hmem _ _).2 ⟨rfl, rfl⟩, (hperm kept hkept).2.2 hunder,
    (hmem' _ _).2 ⟨rfl, rfl⟩, (hperm exchanged hexchanged).1⟩

end Grouping

end CpeMatch
