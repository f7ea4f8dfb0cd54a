import CpeMatch.Lookup
import CpeMatch.Proofs.Grouping.Sorting
import CpeMatch.Proofs.Store.Taking
import CpeMatch.Proofs.Text.LowerCase

/-!
**The rows of a product, vulnerability by vulnerability.**

The rows that a store gives for a product are in ascending order of their ids, so each vulnerability is one
run of them.  Its entries are those of the rows that it lists for the product, in the order in which it
lists them.

Main definitions:

* `CpeMatch.Vulnerability.entriesFor` — the entries that a vulnerability lists for a product;
* `CpeMatch.Store.items` — the rows of a product as ids and entries;
* `CpeMatch.Lookup.resultsOn` — the ids that match, with their matches.

Main results:

* `CpeMatch.Store.Legible.records_eq` — the rows of a product can be sorted;
* `CpeMatch.Store.Coherent.filter_items` — **what the rows of a product say of one id**;
* `CpeMatch.Lookup.completedOnly_events` — each run is matched once, whether the rows are sorted again or
  not;
* `CpeMatch.Lookup.mem_resultsOn_iff`, `CpeMatch.Lookup.pairwise_resultsOn` — the results.
-/

set_option autoImplicit false

namespace CpeMatch

/-! ### Entries for a product -/

/-- The entry that a row lists, if its own CPE name says the given vendor and product. -/
def SoftwareRecord.entryFor? (key : Text × Text) (r : SoftwareRecord) : Option Entry :=
  match r.cpe with
  | .string name =>
    let c := Cpe.parse name
    if c.isValid && c.key = key then some (Entry.ofCpe c (.bool r.allPrior)) else none
  | _ => none

/-- The entries that a vulnerability lists for a product. -/
def Vulnerability.entriesFor (v : Vulnerability) (key : Text × Text) : List Entry :=
  v.software.filterMap (·.entryFor? key)

/-- The entry that a row lists, whichever product it is for. -/
def SoftwareRecord.entry (r : SoftwareRecord) : Entry :=
  match r.toEntry with
  | .ok e => e
  | .error _ => default

theorem SoftwareRecord.toEntry_of_string {r : SoftwareRecord} {name : Text} (h : r.cpe = .string name) :
    r.toEntry = .ok (Entry.ofCpe (Cpe.parse name) (.bool r.allPrior)) := by
  rw [toEntry, h, Entry.ofJson_string]

theorem SoftwareRecord.entry_of_string {r : SoftwareRecord} {name : Text} (h : r.cpe = .string name) :
    r.entry = Entry.ofCpe (Cpe.parse name) (.bool r.allPrior) := by
  rw [entry, toEntry_of_string h]

/-- Vendor and product of a name are in lower case. -/
theorem Cpe.lower_key (name : Text) :
    (Text.lower (Cpe.parse name).vendor, Text.lower (Cpe.parse name).product) = (Cpe.parse name).key := by
  rw [Cpe.parse]
  split
  · simp [Cpe.ofFields, Cpe.key]
  · split <;> simp [Cpe.ofFields, Cpe.key]

theorem SoftwareRecord.entryFor?_eq_some_iff {r : SoftwareRecord} {key : Text × Text} {e : Entry} :
    r.entryFor? key = some e ↔ ∃ name, r.cpe = .string name ∧ (Cpe.parse name).isValid = true ∧
      (Cpe.parse name).key = key ∧ e = Entry.ofCpe (Cpe.parse name) (.bool r.allPrior) := by
  unfold entryFor?
  split
  next name hname =>
    simp only [hname, Option.ite_none_right_eq_some, Bool.and_eq_true, decide_eq_true_eq,
      Option.some.injEq, Json.string.injEq]
    constructor
    · rintro ⟨⟨hvalid, hkey⟩, rfl⟩
      exact ⟨name, rfl, hvalid, hkey, rfl⟩
    · rintro ⟨_, rfl, hvalid, hkey, rfl⟩
      exact ⟨⟨hvalid, hkey⟩, rfl⟩
  next hnone =>
    constructor
    · intro h
      cases h
    · rintro ⟨name, hname, _⟩
      exact absurd hname (hnone name)

/-- The entry for a product is that of the row of the index, if this is a row of the product. -/
theorem SoftwareRecord.entryFor?_eq (key : Text × Text) (r : SoftwareRecord) :
    r.entryFor? key =
      ((Store.postingOf? r).filter fun p => p.key = key).map fun p => p.record.entry := by
  refine Option.ext ?_
  intro e
  rw [entryFor?_eq_some_iff, Option.map_eq_some_iff]
  simp only [Option.filter_eq_some_iff, Store.postingOf?_eq_some_iff, decide_eq_true_eq]
  constructor
  · rintro ⟨name, hname, hvalid, hkey, rfl⟩
    exact ⟨_, ⟨⟨name, hname, hvalid, rfl⟩, hkey⟩, entry_of_string hname⟩
  · rintro ⟨p, ⟨⟨name, hname, hvalid, rfl⟩, hkey⟩, rfl⟩
    exact ⟨name, hname, hvalid, hkey, entry_of_string hname⟩

theorem Vulnerability.entriesFor_eq (v : Vulnerability) (key : Text × Text) :
    v.entriesFor key =
      ((Store.rowsOf (some v)).filter fun p => p.key = key).map fun p => p.record.entry := by
  rw [entriesFor, Store.rowsOf, List.filter_filterMap, List.map_filterMap]
  refine List.filterMap_congr ?_
  intro r _
  exact r.entryFor?_eq key

/-! ### The rows of a product -/

namespace Store

/-- The rows of a product in ascending order of ids, as ids and entries. -/
def items (s : Store) (vendor product : Text) : List (Text × Entry) :=
  (sortedBy (·.idText) (s.postings vendor product)).map fun r => (r.idText, r.entry)

theorem pairwise_items (s : Store) (vendor product : Text) :
    (s.items vendor product).Pairwise (·.1 ≤ ·.1) :=
  List.pairwise_map.2 (pairwise_sortedBy _ _)

namespace Legible

variable {s : Store}

/-- Each row of a product has a text as its id and can be read. -/
theorem toItem_of_mem_postings (hs : s.Legible) {vendor product : Text} {r : SoftwareRecord}
    (hr : r ∈ s.postings vendor product) : r.toItem = .ok (.string r.idText, r.entry) := by
  have hidText := hs.id_of_mem_postings hr
  obtain ⟨p, hp, rfl⟩ := List.mem_map.1 hr
  obtain ⟨name, hname⟩ := hs.names p (List.mem_filter.1 hp).1
  rw [SoftwareRecord.toItem, SoftwareRecord.toEntry_of_string hname, ← hidText,
    SoftwareRecord.entry_of_string hname]
  rfl

/-- The rows of a product can be sorted and read. -/
theorem records_eq (hs : s.Legible) (vendor product : Text) :
    (s.records vendor product).map (fun rows => rows.map (·.toItem)) =
      .ok (streamOf (s.items vendor product)) := by
  have hitems : (sortedBy (·.idText) (s.postings vendor product)).map (·.toItem) =
      streamOf (s.items vendor product) := by
    rw [streamOf, items, List.map_map]
    refine List.map_congr_left ?_
    intro r hr
    exact hs.toItem_of_mem_postings ((perm_sortedBy _ _).mem_iff.1 hr)
  rw [hs.records_eq_sortedBy]
  exact congrArg Except.ok hitems

end Legible

namespace Coherent

variable {s : Store}

/-- **What the rows of a product say of one id** are the entries that the vulnerability held under it
lists for the product. -/
theorem filter_items (hs : s.Coherent) (vendor product id : Text) :
    ((s.items vendor product).filter (·.1 == id)).map (·.2) =
      ((s.held[Json.Key.text id]?).map
        (·.entriesFor (Text.lower vendor, Text.lower product))).getD [] := by
  have hrows : ((s.items vendor product).filter (·.1 == id)).map (·.2) =
      ((s.postings vendor product).filter fun r => decide (r.idText = id)).map (·.entry) := by
    rw [items, List.filter_map, List.map_map, ← filter_sortedBy]
    rfl
  have hpostings : ((s.postings vendor product).filter fun r => decide (r.idText = id)).map (·.entry) =
      ((rowsOf s.held[Json.Key.text id]?).filter
        fun p => p.key = (Text.lower vendor, Text.lower product)).map fun p => p.record.entry := by
    rw [postings, List.filter_map, List.map_map, List.filter_filter, ← hs.rows id, List.filter_filter]
    refine congrArg (List.map _) (List.filter_congr ?_)
    intro p hp
    obtain ⟨id', hid⟩ := hs.ids p hp
    rw [Function.comp_apply, SoftwareRecord.idText_of_string hid, hid, Json.beq_string, Bool.and_comm]
  rw [hrows, hpostings]
  cases s.held[Json.Key.text id]? with
  | none => rfl
  | some v => exact (v.entriesFor_eq _).symm

/-- The runs of the rows of a product are the vulnerabilities held that list an entry for it, each with
all these entries. -/
theorem mem_runs_items_iff (hs : s.Coherent) (vendor product : Text) (run : Text × List Entry) :
    run ∈ runs (s.items vendor product) ↔ run.2 ≠ [] ∧
      ∃ v, s.held[Json.Key.text run.1]? = some v ∧
        run.2 = v.entriesFor (Text.lower vendor, Text.lower product) := by
  rw [(Adjacent.of_ascending (s.pairwise_items vendor product)).mem_runs_iff, hs.filter_items]
  refine and_congr_right ?_
  intro hne
  cases s.held[Json.Key.text run.1]? with
  | none => simp [hne]
  | some v => simp

end Coherent

end Store

/-! ### Results -/

namespace Lookup

/-- The ids that match a name in a store, with their matches. -/
def resultsOn (l : Lookup) (s : Store) (c : Cpe) : List (Text × Match) :=
  (runs (s.items c.vendor c.product)).filterMap fun run =>
    (l.engine.match? c.version run.2 (.string c.vendor) (.string c.product)).map (run.1, ·)

/-- The results are in ascending order of ids, each id once. -/
theorem pairwise_resultsOn (l : Lookup) (s : Store) (c : Cpe) :
    (l.resultsOn s c).Pairwise (·.1 < ·.1) := by
  refine List.Pairwise.filterMap _ ?_ (pairwise_runs (s.pairwise_items c.vendor c.product))
  intro run run' hlt result hresult result' hresult'
  obtain ⟨m, _, rfl⟩ := Option.map_eq_some_iff.1 hresult
  obtain ⟨m', _, rfl⟩ := Option.map_eq_some_iff.1 hresult'
  exact hlt

/-- The results are the matches of the vulnerabilities held against the entries that they list for the
product. -/
theorem mem_resultsOn_iff (l : Lookup) {s : Store} (hs : s.Coherent) (name id : Text) (m : Match) :
    let c := Cpe.parse name
    (id, m) ∈ l.resultsOn s c ↔ ∃ v, s.held[Json.Key.text id]? = some v ∧
      l.engine.match? c.version (v.entriesFor c.key) (.string c.vendor) (.string c.product) = some m := by
  intro c
  rw [resultsOn, List.mem_filterMap]
  constructor
  · rintro ⟨run, hrun, hm⟩
    obtain ⟨m', hm', heq⟩ := Option.map_eq_some_iff.1 hm
    obtain ⟨rfl, rfl⟩ := Prod.mk.inj heq
    obtain ⟨_, v, hheld, hentries⟩ := (hs.mem_runs_items_iff _ _ run).1 hrun
    rw [Cpe.lower_key] at hentries
    exact ⟨v, hheld, by rw [← hentries, hm']⟩
  · rintro ⟨v, hheld, hm⟩
    refine ⟨(id, v.entriesFor c.key), (hs.mem_runs_items_iff _ _ _).2 ⟨?_, v, hheld, ?_⟩, ?_⟩
    · intro hnil
      have hnone := l.engine.match?_nil (some c.vendor) (some c.product) c.version
      rw [← hnil] at hnone
      exact Option.some_ne_none m (hm.symm.trans hnone)
    · rw [Cpe.lower_key]
    · rw [hm]
      rfl

/-! ### What is matched -/

/-- The results of a stream whose items are in ascending order are those of its runs, whether the items
are sorted again or not. -/
theorem completedOnly_events (l : Lookup) (c : Cpe) {items : List (Text × Entry)}
    (hitems : items.Pairwise (·.1 ≤ ·.1)) :
    Grouping.completedOnly ((l.grouping c).events (streamOf items)).events =
        (runs items).map (fun run => (l.grouping c).completion (.string run.1, run.2)) ∧
      ((l.grouping c).events (streamOf items)).fault = none := by
  have hanswers : (l.grouping c).Answers :=
    Grouping.answers_ofText? l.engine (some c.vendor) (some c.product) (.version c.version) l.presorted
  have hsame : (if l.presorted then items else sortedBy Prod.fst items) = items := by
    cases l.presorted with
    | true => rfl
    | false => exact sortedBy_of_pairwise hitems
  obtain ⟨hevents, hfault⟩ := Grouping.completedOnly_events_streamOf hanswers items
  rw [grouping, hsame, List.map_map] at hevents
  exact ⟨hevents, hfault⟩

/-- The results that are delivered while the rows of a product are matched. -/
theorem filterMap_result?_events (l : Lookup) (s : Store) (c : Cpe) :
    ((l.grouping c).events (streamOf (s.items c.vendor c.product))).events.filterMap Event.result? =
      (l.resultsOn s c).map fun x => (Json.string x.1, x.2) := by
  have hevents := (l.completedOnly_events c (s.pairwise_items c.vendor c.product)).1
  rw [← Grouping.filterMap_result?_completedOnly, hevents, List.filterMap_map, resultsOn,
    List.map_filterMap]
  refine List.filterMap_congr ?_
  intro run _
  rw [Function.comp_apply, Grouping.result?_completion, Grouping.matched?, Option.map_map]
  rfl

end Lookup

end CpeMatch
