import CpeMatch.Command.Run
import CpeMatch.Proofs.Report.Showing
import CpeMatch.Proofs.Timing.Agreement

/-!
**Opening a database and looking a name up in it.**

A check begins with this, and nothing of it needs a console: nothing is printed and no file is written.  Once the
database is open the lookup always ends, with what there is to be found; all of it has been read from the values in
the files, and one record of it stands with the times.

Main definitions:

* `CpeMatch.Command.startOf` — the session in which a command starts;
* `CpeMatch.Command.lookUp`, `CpeMatch.Command.foundBy` — what a check does before its report;
* `CpeMatch.Command.IsUntouched` — a state in which nothing more has been printed or written.

Main results:

* `CpeMatch.Command.exists_isLoaded_of_openStore` — a database that has been opened;
* `CpeMatch.Command.exists_start_lookUp`, `CpeMatch.Command.of_start_lookUp` — **a lookup finds what there is**;
* `CpeMatch.Command.keeps_lookUp` — and touches nothing else.
-/

set_option autoImplicit false

namespace CpeMatch.Command

open Store Timing

/-- The session in which a command starts. -/
def startOf (setting : Setting) : Session Float State :=
  { clock := setting.clock
    announcing := setting.announcing
    log := #[]
    state := ⟨setting.tree, #[], #[], ⟨Store.empty none, Monitor.fresh true⟩⟩ }

/-! ### Opening -/

/-- A task on the data of lookups leaves everything else as it was. -/
theorem start_onLookups_onData {α : Type} (t : StoreTask α) (session : Session Float State) :
    (onLookups (Lookup.onData t)).start session =
      ((t.start { session with state := session.state.lookups.data }).1,
        { (t.start { session with state := session.state.lookups.data }).2 with
          state := { session.state with lookups := { session.state.lookups with
            data := (t.start { session with state := session.state.lookups.data }).2.state } } }) := rfl

/-- **A database that has been opened** holds what the values in its files give, and no time has been
recorded. -/
theorem exists_isLoaded_of_openStore {path : Text} {session opened : Session Float State}
    (h : (openStore path).start session = (.ok (), opened)) :
    ∃ paths, Store.dataFiles session.state.tree ⟨Files.Path.parse path, Store.defaultPattern⟩ = .ok paths ∧
      opened.state.lookups.data.IsLoaded ⟨Files.Path.parse path, Store.defaultPattern⟩
        (paths.flatMap (Store.valuesIn session.state.tree)) ∧
      opened.state.lookups.monitor = Monitor.fresh true := by
  rw [openStore, Task.start_bind (Task.start_state session)] at h
  cases hconfigure : Store.configure session.state.tree path Store.defaultPattern with
  | error f =>
      simp only [hconfigure] at h
      cases h
  | ok store =>
      simp only [hconfigure] at h
      let entered : Session Float State :=
        { session with state := { session.state with lookups := ⟨store, Monitor.fresh true⟩ } }
      have hset : (onLookups (Task.setState ⟨store, Monitor.fresh true⟩)).start session =
        (.ok (), entered) := rfl
      rw [Task.start_bind hset, start_onLookups_onData] at h
      cases hload : (Store.load session.state.tree).start { entered with state := store } with
      | mk result loaded =>
          cases result with
          | error f =>
              rw [Task.start_bind_error hload] at h
              cases h
          | ok n =>
              rw [Task.start_bind hload] at h
              cases h
              obtain ⟨paths, hpaths, _, _, hloaded, _⟩ := Store.exists_isLoaded_of_load hconfigure rfl hload
              exact ⟨paths, hpaths, hloaded, rfl⟩

/-- Without a database at the path nothing is opened. -/
theorem start_openStore_of_missing {path : Text} {session : Session Float State}
    (h : session.state.tree.holds (Files.Path.parse path) = .ok false) :
    (openStore path).start session = (.error (.noDatabase (Files.Path.parse path).text), session) := by
  have hconfigure : Store.configure session.state.tree path Store.defaultPattern =
      .error (.noDatabase (Files.Path.parse path).text) := by
    rw [Store.configure, h]
    rfl
  rw [openStore, Task.start_bind (Task.start_state _)]
  simp only [hconfigure]
  rfl

/-! ### Looking up -/

/-- What a check does before its report: it opens the database and looks the name up, with the time that this
takes. -/
def lookUp (setting : Setting) (options : CheckOptions) : CommandTask (List Vulnerability × Float) := do
  openStore options.database
  let entered ← Task.tick
  let lookup : Lookup := ⟨Engine.standard, !options.sortInput⟩
  let found ← onLookups (lookup.vulnerabilities (Store.source setting.tree) (.string options.cpe))
  let left ← Task.tick
  return (found, left - entered)

/-- What there is to be found in a check, once the database is open. -/
def foundBy (options : CheckOptions) (opened : Session Float State) : List Vulnerability :=
  Lookup.foundIn ⟨Engine.standard, !options.sortInput⟩ opened.state.lookups.data options.cpe

/-- The record of a lookup that has found so many. -/
structure RecordsLookup (m : Metric Float) (n : Nat) : Prop where
  operation_eq : m.operation = "get_vulnerabilities"
  items_eq : m.items = .whole n

section

variable {options : CheckOptions} {session opened : Session Float State}

/-- What is found in a database that has been opened has been read from the values in its files. -/
theorem isRead_of_mem_foundBy (hopen : (openStore options.database).start session = (.ok (), opened))
    {w : Vulnerability} (hw : w ∈ foundBy options opened) : w.IsRead := by
  obtain ⟨paths, _, hloaded, _⟩ := exists_isLoaded_of_openStore hopen
  exact (Lookup.isRead_of_mem_foundIn _ hloaded.holds hw).1

/-- Once the database is open, the lookup of a check finds what there is to be found, and its time is
recorded. -/
theorem exists_start_lookUp (setting : Setting)
    (hopen : (openStore options.database).start session = (.ok (), opened)) :
    ∃ time m reported, (lookUp setting options).start session =
        (.ok (foundBy options opened, time), reported) ∧
      RecordsLookup m (foundBy options opened).length ∧
      reported.state.lookups.monitor = (Monitor.fresh true).record m := by
  obtain ⟨paths, _, hloaded, hmonitor⟩ := exists_isLoaded_of_openStore hopen
  let entered : Session Float (LookupState Store) :=
    { opened with clock := opened.clock.take.2, state := opened.state.lookups }
  obtain ⟨after, time, hrun, hafter⟩ := Lookup.exists_start_vulnerabilities
    ⟨Engine.standard, !options.sortInput⟩ hloaded.holds.coherent hloaded.loaded setting.tree options.cpe
    entered rfl
  let left : Session Float State := { after with state := { opened.state with lookups := after.state } }
  have hlookup : (onLookups (Lookup.vulnerabilities ⟨Engine.standard, !options.sortInput⟩
      (Store.source setting.tree) (.string options.cpe))).start
        { opened with clock := opened.clock.take.2 } = (.ok (foundBy options opened), left) := by
    exact congrArg (fun run : Except Fault (List Vulnerability) × Session Float (LookupState Store) =>
      (run.1, ({ run.2 with state := { opened.state with lookups := run.2.state } } : Session Float State)))
      hrun
  refine ⟨left.clock.take.1 - opened.clock.take.1,
    ⟨"get_vulnerabilities", time, .whole (foundBy options opened).length⟩,
    { left with clock := left.clock.take.2 }, ?_, ⟨rfl, rfl⟩, ?_⟩
  · rw [lookUp, Task.start_bind hopen, Task.start_bind (Task.start_tick opened),
      Task.start_bind hlookup, Task.start_bind (Task.start_tick left)]
    rfl
  · change after.state.monitor = _
    rw [hafter, ← hmonitor]
    rfl

/-- A lookup that has ended has found what there is to be found in the database that it has opened. -/
theorem of_start_lookUp {setting : Setting} {found : List Vulnerability} {time : Float}
    {reported : Session Float State}
    (h : (lookUp setting options).start session = (.ok (found, time), reported)) :
    (∃ opened, (openStore options.database).start session = (.ok (), opened) ∧
        found = foundBy options opened) ∧
      (∀ w ∈ found, w.IsRead) ∧
      ∃ m, RecordsLookup m found.length ∧
        reported.state.lookups.monitor = (Monitor.fresh true).record m := by
  cases hopen : (openStore options.database).start session with
  | mk result opened =>
      cases result with
      | error f =>
          rw [lookUp, Task.start_bind_error hopen] at h
          cases h
      | ok _ =>
          obtain ⟨_, m, _, hrun, hm, hmonitor⟩ := exists_start_lookUp setting hopen
          cases hrun.symm.trans h
          exact ⟨⟨opened, rfl, rfl⟩, fun w => isRead_of_mem_foundBy hopen, m, hm, hmonitor⟩

end

/-! ### What stays as it is -/

/-- As much has been printed and refused as before, and the files are as they were. -/
structure IsUntouched (before st : State) : Prop where
  printed_eq : st.printed = before.printed
  refused_eq : st.refused = before.refused
  tree_eq : st.tree = before.tree

theorem IsUntouched.refl (before : State) : IsUntouched before before := ⟨rfl, rfl, rfl⟩

section

variable (before : State)

theorem keeps_onLookups {α : Type} (t : Task Float (LookupState Store) Fault α) :
    Task.Keeps (IsUntouched before) (onLookups t) := fun _ hs => ⟨hs.printed_eq, hs.refused_eq, hs.tree_eq⟩

theorem keeps_openStore (path : Text) : Task.Keeps (IsUntouched before) (openStore path) := by
  refine Task.Keeps.state.bind fun st => ?_
  dsimp only
  split
  next f _ => exact Task.Keeps.settle (.error f)
  next => exact (keeps_onLookups before _).bind fun _ => keeps_onLookups before _

/-- Up to its report a check prints nothing and writes no file. -/
theorem keeps_lookUp (setting : Setting) (options : CheckOptions) :
    Task.Keeps (IsUntouched before) (lookUp setting options) := by
  refine (keeps_openStore before options.database).bind fun _ => ?_
  refine Task.Keeps.tick.bind fun entered => ?_
  refine (keeps_onLookups before _).bind fun found => ?_
  exact Task.Keeps.tick.bind fun left => Task.Keeps.pure _

end

theorem isUntouched_of_start_lookUp {setting : Setting} {options : CheckOptions}
    {result : Except Fault (List Vulnerability × Float)} {session reported : Session Float State}
    (h : (lookUp setting options).start session = (result, reported)) :
    IsUntouched session.state reported.state := by
  have hkeeps := keeps_lookUp session.state setting options session (.refl _)
  rwa [h] at hkeeps

end CpeMatch.Command
