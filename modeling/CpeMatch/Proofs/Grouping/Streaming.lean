import CpeMatch.Proofs.Grouping.Sorting

/-!
**A stream that need not be sorted.**

If the items of each id are next to each other, then a stream has the same runs as it has when it is sorted,
only in another order.  So it makes no difference to its results whether it is matched as it comes or read to
its end and sorted first, but for their order; and none at all if its ids never decrease.

Main definitions:

* `CpeMatch.Grouping.ofProduct` — how a stream is matched for a product that is known or not;
* `CpeMatch.Grouping.runsOf` — the runs that are matched.

Main results:

* `CpeMatch.Adjacent.perm_runs_sortedBy` — **sorting exchanges the runs and leaves each as it is**;
* `CpeMatch.Grouping.perm_delivered_of_adjacent`, `CpeMatch.Grouping.tally_of_adjacent`,
  `CpeMatch.Grouping.delivered_of_ascending` — **results and counts do not depend on it**.
-/

set_option autoImplicit false

namespace CpeMatch

/-! ### Runs -/

/-- Sorting exchanges the runs, and leaves each of them as it is. -/
theorem Adjacent.perm_runs_sortedBy {ι α : Type} [BEq ι] [LawfulBEq ι] [LinearOrder ι]
    {items : List (ι × α)} (h : Adjacent items) : (runs items).Perm (runs (sortedBy Prod.fst items)) := by
  have hnodup : ∀ {others : List (ι × α)}, Adjacent others → (runs others).Nodup := by
    intro others hothers
    exact hothers.pairwise_runs_ne.imp fun hne heq => hne (congrArg Prod.fst heq)
  have hsorted : Adjacent (sortedBy Prod.fst items) := .of_ascending (pairwise_sortedBy _ _)
  -- no run occurs twice, so it is enough that the two have the same runs
  rw [List.perm_ext_iff_of_nodup (hnodup h) (hnodup hsorted)]
  intro r
  rw [h.mem_runs_iff, mem_runs_sortedBy_iff]
  rfl

namespace Grouping

/-! ### What is matched -/

/-- How a stream of texts is matched for a product, sorted first or not. -/
def ofProduct (engine : Engine) (vendor product : Option Text) (identified : Identified)
    (presorted : Bool) : Grouping :=
  ⟨engine, .ofText? vendor, .ofText? product, identified, presorted⟩

section

variable (engine : Engine) (vendor product : Option Text) (identified : Identified)

theorem answers_ofProduct (presorted : Bool) :
    (ofProduct engine vendor product identified presorted).Answers :=
  answers_ofText? engine vendor product identified presorted

/-- The runs that are matched of a stream, which is sorted first or not. -/
def runsOf (presorted : Bool) (items : List (Text × Entry)) : List (Json × List Entry) :=
  (runs (if presorted then items else sortedBy Prod.fst items)).map (Prod.map Json.string id)

theorem delivered_streamOf (presorted : Bool) (items : List (Text × Entry)) :
    (ofProduct engine vendor product identified presorted).delivered (streamOf items) =
      (runsOf presorted items).filterMap (ofProduct engine vendor product identified true).matched? :=
  History.map_results_of_completedOnly
    (completedOnly_events_streamOf (answers_ofProduct engine vendor product identified presorted) items).1

theorem tally_streamOf (presorted : Bool) (t : Tally) (items : List (Text × Entry)) :
    let g := ofProduct engine vendor product identified presorted
    (g.events (streamOf items)).tally t =
      ⟨t.seen + (runsOf presorted items).length, t.matched + (g.delivered (streamOf items)).length⟩ :=
  tally_events t
    (completedOnly_events_streamOf (answers_ofProduct engine vendor product identified presorted) items).1

variable {items : List (Text × Entry)}

theorem perm_runsOf (h : Adjacent items) : (runsOf true items).Perm (runsOf false items) :=
  h.perm_runs_sortedBy.map _

/-- **The results do not depend on whether the stream is sorted first**, but for their order. -/
theorem perm_delivered_of_adjacent (h : Adjacent items) :
    ((ofProduct engine vendor product identified true).delivered (streamOf items)).Perm
      ((ofProduct engine vendor product identified false).delivered (streamOf items)) := by
  rw [delivered_streamOf, delivered_streamOf]
  exact (perm_runsOf h).filterMap _

/-- No id is delivered twice. -/
theorem nodup_delivered_of_adjacent (h : Adjacent items) :
    (((ofProduct engine vendor product identified true).delivered (streamOf items)).map (·.1)).Nodup := by
  have hruns : (runsOf true items).Pairwise (·.1 ≠ ·.1) := by
    refine List.pairwise_map.2 (h.pairwise_runs_ne.imp ?_)
    intro r r' hne heq
    exact hne (Json.string.inj heq)
  rw [delivered_streamOf, List.Nodup, List.pairwise_map]
  refine List.Pairwise.filterMap _ ?_ hruns
  intro r r' hne x hx y hy
  obtain ⟨_, _, rfl⟩ := Option.map_eq_some_iff.1 hx
  obtain ⟨_, _, rfl⟩ := Option.map_eq_some_iff.1 hy
  exact hne

/-- The counts do not depend on it either. -/
theorem tally_of_adjacent (h : Adjacent items) (t : Tally) :
    ((ofProduct engine vendor product identified true).events (streamOf items)).tally t =
      ((ofProduct engine vendor product identified false).events (streamOf items)).tally t := by
  rw [tally_streamOf, tally_streamOf, (perm_runsOf h).length_eq,
    (perm_delivered_of_adjacent engine vendor product identified h).length_eq]

/-- **Where ids never decrease the results come in the same order, too.** -/
theorem delivered_of_ascending (h : items.Pairwise (·.1 ≤ ·.1)) :
    (ofProduct engine vendor product identified true).delivered (streamOf items) =
      (ofProduct engine vendor product identified false).delivered (streamOf items) := by
  have hsame : sortedBy Prod.fst items = items := sortedBy_of_pairwise h
  rw [delivered_streamOf, delivered_streamOf, runsOf, runsOf, if_pos rfl, if_neg Bool.false_ne_true, hsame]

end

end Grouping

end CpeMatch
