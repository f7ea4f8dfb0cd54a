import CpeMatch.Proofs.Command.Check
import CpeMatch.Proofs.Grouping.Streaming
import CpeMatch.Proofs.Lookup.Presorted

/-!
**Sorting the rows first changes nothing.**

A stream can be matched as it comes, if the items of each id are next to each other, or read to its end and
sorted first.  Either way it has the same results and the same counts.  The rows of a store come in ascending
order of ids in every state that it can be in, so of a lookup in a store not even the order of the results
depends on it, and a check is the same to the last letter that it prints.

Main results:

* `CpeMatch.Command.agreeOn_check` — a check that sorts the rows, and one that does not;
* `CpeMatch.Command.sorting_changes_nothing` — **streams, lookups and checks**.
-/

set_option autoImplicit false

namespace CpeMatch.Command

open Timing

/-! ### Checks -/

/-- The rows of a database that has been opened can be read. -/
theorem leads_openStore (path : Text) :
    Task.Leads (fun _ => True) (openStore path) fun _ st => st.lookups.data.Legible := by
  intro session _ _ opened hrun
  obtain ⟨_, _, hloaded, _⟩ := exists_isLoaded_of_openStore hrun
  exact hloaded.holds.coherent.legible

variable (setting : Setting) (options : CheckOptions) (sortInput : Bool)

theorem agreeOn_lookUp :
    Task.AgreeOn (fun _ => True) (lookUp setting { options with sortInput }) (lookUp setting options) := by
  refine (Task.AgreeOn.refl _ _).bind (leads_openStore options.database) fun _ => ?_
  refine (Task.AgreeOn.refl _ _).bind Task.Keeps.tick.leads fun _ => ?_
  have hascends : (Store.source setting.tree).Ascends Store.Legible :=
    Store.ascends_source (Store.Legible.keeps_load setting.tree) fun _ hs => hs
  have hlookup := Lookup.agreeOn_vulnerabilities hascends ⟨Engine.standard, !options.sortInput⟩ (!sortInput)
    (.string options.cpe)
  have hlookups : Task.AgreeOn (fun st : State => st.lookups.data.Legible)
      (onLookups (Lookup.vulnerabilities ⟨Engine.standard, !sortInput⟩ (Store.source setting.tree)
        (.string options.cpe)))
      (onLookups (Lookup.vulnerabilities ⟨Engine.standard, !options.sortInput⟩ (Store.source setting.tree)
        (.string options.cpe))) := hlookup.within
  exact hlookups.bind_same _

section

variable [Report.Console]

theorem agreeOn_checkSoftware :
    Task.AgreeOn (fun _ => True) (checkSoftware setting { options with sortInput })
      (checkSoftware setting options) := by
  -- nothing behind the lookup reads the option
  have hreport : reportFound setting { options with sortInput } = reportFound setting options := rfl
  rw [checkSoftware_eq_lookUp, checkSoftware_eq_lookUp, hreport]
  exact (agreeOn_lookUp setting options sortInput).bind_same _

theorem agreeOn_reporting {α : Type} {report : Fault → CommandTask Unit} {task task' : CommandTask α}
    {p : State → Prop} (h : Task.AgreeOn p task task') (next : α → CommandTask Nat) :
    Task.AgreeOn p (reporting report task next) (reporting report task' next) :=
  h.attempt.bind_same _

/-- A check does the same whether it sorts the rows of the database or not. -/
theorem agreeOn_check :
    Task.AgreeOn (fun _ => True) (check setting { options with sortInput }) (check setting options) := by
  rw [check, check]
  split
  · exact agreeOn_reporting (agreeOn_checkSoftware setting options sortInput) pure
  · exact Task.AgreeOn.refl _ _

/-- A check ends in the same way, with the same output, log and files. -/
theorem run_check_sortInput :
    run setting (.check { options with sortInput }) = run setting (.check options) := by
  have htask := agreeOn_check setting options sortInput (startOf setting) trivial
  have hregistry : registry (.check { options with sortInput }) = registry (.check options) := rfl
  rw [run_check htask, hregistry]
  exact (run_check rfl).symm

end

/-! ### Streams, lookups and checks -/

/-- **Sorting the rows first changes nothing.**  A stream in which the items of each id are next to each other
is matched to its end, whether it is sorted first or not: with the same results but for their order, each id
once, and with the same counts; and if ids never decrease, with the results in the same order.  Whatever
state a store is in, everything that is looked up in it ends in the same way, leaves the same and writes the
same to the log, whether the rows are sorted again or not, and leaves the store in such a state.  A check
ends in the same way, with the same output, log and files. -/
theorem sorting_changes_nothing [Report.Console] (engine : Engine) :
    (∀ (vendor product : Option Text) (identified : Identified) (t : Tally) (items : List (Text × Entry)),
      Adjacent items →
      let trusting := Grouping.ofProduct engine vendor product identified true
      let sorting := Grouping.ofProduct engine vendor product identified false
      let stream := streamOf items
      (trusting.delivered stream).Perm (sorting.delivered stream) ∧
      ((trusting.delivered stream).map (·.1)).Nodup ∧
      (trusting.events stream).fault = none ∧ (sorting.events stream).fault = none ∧
      (trusting.events stream).tally t = (sorting.events stream).tally t ∧
      (items.Pairwise (·.1 ≤ ·.1) → trusting.delivered stream = sorting.delivered stream)) ∧
    (∀ (tree : Files.Tree) (q : Lookup.Question) (session : Session Float (LookupState Store)),
      session.state.data.Reachable →
      (q.pose ⟨engine, true⟩ (Store.source tree)).start session =
        (q.pose ⟨engine, false⟩ (Store.source tree)).start session ∧
      ((q.pose ⟨engine, true⟩ (Store.source tree)).start session).2.state.data.Reachable) ∧
    ∀ (setting : Setting) (options : CheckOptions),
      run setting (.check { options with sortInput := true }) =
        run setting (.check { options with sortInput := false }) := by
  refine ⟨?_, ?_, ?_⟩
  · intro vendor product identified t items h trusting sorting stream
    have hevents : ∀ presorted,
        ((Grouping.ofProduct engine vendor product identified presorted).events stream).fault = none :=
      fun presorted => (Grouping.completedOnly_events_streamOf
        (Grouping.answers_ofProduct engine vendor product identified presorted) items).2
    exact ⟨Grouping.perm_delivered_of_adjacent engine vendor product identified h,
      Grouping.nodup_delivered_of_adjacent engine vendor product identified h, hevents true, hevents false,
      Grouping.tally_of_adjacent engine vendor product identified h t,
      Grouping.delivered_of_ascending engine vendor product identified⟩
  · intro tree q session hs
    have hascends : (Store.source tree).Ascends Store.Reachable :=
      Store.ascends_source (Store.Reachable.keeps_load tree) fun _ h => h.legible
    exact ⟨Lookup.Question.agreeOn hascends ⟨engine, false⟩ true q session hs,
      Lookup.Question.keeps hascends.toKeeps ⟨engine, true⟩ q session hs⟩
  · intro setting options
    exact (run_check_sortInput setting options true).trans (run_check_sortInput setting options false).symm

/-- A range up to 2.1, as an item lists it. -/
def upToTwoOne : Entry :=
  ⟨"cpe:/a:v:p:2.1", "v", "p", "2.1", ⟨"2.1", [.number 2, .number 1]⟩, .bool true⟩

/-- Version 1 alone. -/
def atOne : Entry := ⟨"cpe:/a:v:p:1", "v", "p", "1", ⟨"1", [.number 1]⟩, .bool false⟩

/-- Two items of `B`, and one of `A` behind them. -/
def threeItems : List (Text × Entry) := [("B", upToTwoOne), ("B", atOne), ("A", upToTwoOne)]

/-- An item of `A`, and one of `B` behind it. -/
def twoItems : List (Text × Entry) := [("A", upToTwoOne), ("B", upToTwoOne)]

/-- A vulnerability whose row says that 2.1 and what is before it are affected. -/
def addedVulnerability : Vulnerability :=
  { (default : Vulnerability) with
    id := .string "B"
    software := [⟨.string "B", .string "cpe:/a:v:p:2.1", .string "1"⟩] }

/-- A session on an empty store to which the vulnerability has been added. -/
def addedSession : Session Float Store :=
  (Store.Deed.add addedVulnerability).run ⟨.ofList [], false, #[], .empty none⟩

/-- Version 2.0 against three items, of which those of `B` come first: the results do, too, unless the stream
is sorted.  Of two items that are in order, and in a store to which a vulnerability has been added, it makes no
difference at all. -/
theorem sorting_changes_nothing_threeItems :
    let identified : Identified := .version ⟨"2.0", [.number 2, .number 0]⟩
    let trusting := Grouping.ofProduct .standard (some "v") (some "p") identified true
    let sorting := Grouping.ofProduct .standard (some "v") (some "p") identified false
    let q : Lookup.Question := .vulnerabilities (.string "cpe:/a:v:p:2.0")
    let session : Session Float (LookupState Store) :=
      { addedSession with state := ⟨addedSession.state, .fresh true⟩ }
    Adjacent threeItems ∧
      trusting.delivered (streamOf threeItems) =
        [(.string "B", .ofEntry upToTwoOne), (.string "A", .ofEntry upToTwoOne)] ∧
      (trusting.delivered (streamOf threeItems)).Perm (sorting.delivered (streamOf threeItems)) ∧
      twoItems.Pairwise (·.1 ≤ ·.1) ∧
      trusting.delivered (streamOf twoItems) = sorting.delivered (streamOf twoItems) ∧
      addedSession.state.Reachable ∧
      (q.pose ⟨.standard, true⟩ (Store.source default)).start session =
        (q.pose ⟨.standard, false⟩ (Store.source default)).start session := by
  intro identified trusting sorting q session
  have hthree : Adjacent threeItems := by
    intro x y z h hxz
    -- three of three items are all of them, and the last has another id than the first
    have hall : [x, y, z] = threeItems := h.eq_of_length rfl
    cases hall
    exact absurd hxz (by decide)
  have htwo : twoItems.Pairwise (·.1 ≤ ·.1) := by decide
  have hadded : addedSession.state.Reachable := by
    refine Store.Reachable.after (d := .add addedVulnerability) .empty ?_
    rintro _ (_ | ⟨_, h⟩)
    · exact ⟨"B", rfl⟩
    · cases h
  obtain ⟨hstreams, hlookups, _⟩ := sorting_changes_nothing .standard
  have hadjacent : Adjacent twoItems := .of_ascending htwo
  exact ⟨hthree, rfl, (hstreams (some "v") (some "p") identified .zero threeItems hthree).1, htwo,
    (hstreams (some "v") (some "p") identified .zero twoItems hadjacent).2.2.2.2.2 htwo, hadded,
    (hlookups default q session hadded).1⟩

end CpeMatch.Command
